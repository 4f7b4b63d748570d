import ReminderDispatch.Failure

/-!
# Operations that a store need not have

The scanner needs three operations of a store and the handler of notifications one. A store that
has no more than these refuses the others.
-/

namespace ReminderDispatch

/-- The operations that a store need not have. -/
def optionalOperations : List String :=
  ["create_reminder", "delete_reminder", "get_notification", "list_user_notifications",
    "mark_read", "delete_notification"]

/-- The answer of a store that does not have an operation. -/
def unimplemented (operation : String) : StoreError := .notImplemented operation

end ReminderDispatch
