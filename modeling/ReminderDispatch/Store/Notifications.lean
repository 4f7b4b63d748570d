import ReminderDispatch.Failure
import ReminderDispatch.Notification

/-!
# Store of notifications

Notifications are numbered in the order of their creation, and no number is used twice. A user's
notifications are listed with the newest first. A call changes the store in place: its outcome
stands beside the store as the call has left it.
-/

namespace ReminderDispatch

/-- Notifications in memory. -/
structure NotificationStore where
  /-- The notifications, in the order of their creation. -/
  records : List StoredNotification
  /-- The number of the last notification that was created. -/
  lastId : Int64
  deriving DecidableEq, Repr

namespace NotificationStore

/-- A store without notifications. -/
def empty : NotificationStore := ⟨[], 0⟩

/-- There is no notification with this key. -/
def noNotification (id : NotificationId) : StoreError := .notFound ("notification " ++ id.text)

/-- Create an unread notification. There is none when the call breaks off because no number is
left. -/
def create (store : NotificationStore) (now : Instant) (request : NotificationRequest) :
    Option StoredNotification × NotificationStore :=
  match nextNumber? store.lastId with
  | none => (none, store)
  | some id =>
    let record : StoredNotification := {
      id := ⟨id⟩
      userId := request.userId
      title := request.title
      body := request.body
      kind := request.kind
      status := .unread
      createdAt := now }
    (some record, ⟨store.records ++ [record], id⟩)

/-- The notification with a key. -/
def get (store : NotificationStore) (id : NotificationId) : Except StoreError StoredNotification :=
  match store.records.find? fun record => record.id = id with
  | some record => .ok record
  | none => .error (noNotification id)

/-- The notifications of a user, the newest first. -/
def ofUser (store : NotificationStore) (userId : UserId) : List StoredNotification :=
  store.records.reverse.filter fun record => record.userId = userId

/-- Note of the first notification with a key that it was read. -/
def readFirst (id : NotificationId) : List StoredNotification → List StoredNotification
  | [] => []
  | record :: more => if record.id = id then record.asRead :: more else record :: readFirst id more

/-- The user has read a notification. -/
def markRead (store : NotificationStore) (id : NotificationId) :
    Except StoreError StoredNotification × NotificationStore :=
  match store.get id with
  | .error failure => (.error failure, store)
  | .ok record => (.ok record.asRead, { store with records := readFirst id store.records })

/-- Delete a notification. Whether there was one shows in how many are left. -/
def delete (store : NotificationStore) (id : NotificationId) :
    Except StoreError Unit × NotificationStore :=
  let left := store.records.filter fun record => record.id ≠ id
  let after := { store with records := left }
  if left.length = store.records.length then (.error (noNotification id), after)
  else (.ok (), after)

/-- How many notifications there are. -/
def size (store : NotificationStore) : Nat := store.records.length

end NotificationStore

end ReminderDispatch
