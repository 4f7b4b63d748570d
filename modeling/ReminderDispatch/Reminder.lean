import ReminderDispatch.Calendar.Instant
import ReminderDispatch.Failure
import ReminderDispatch.StoreId
import ReminderDispatch.Text.Blank

/-!
# Due items

Reminders, which are due from an instant on and are dispatched once, and birthdays, which are due
on a day and have no state of their own.
-/

namespace ReminderDispatch

/-- Whether a reminder was turned into tasks. -/
inductive DispatchStatus where
  /-- Not yet. -/
  | pending
  /-- Yes. -/
  | dispatched
  deriving DecidableEq, Repr

/-- The name of a status. -/
def DispatchStatus.name : DispatchStatus → String
  | .pending => "pending"
  | .dispatched => "dispatched"

/-- A notice to a user at a time. -/
structure Reminder where
  /-- The key of the reminder. -/
  id : ReminderId
  /-- The user. -/
  userId : UserId
  /-- The address for the mail. -/
  email : String
  /-- The title. -/
  title : String
  /-- The text. -/
  body : String
  /-- The category. -/
  kind : String
  /-- The time from which the reminder is due. -/
  executeAt : Instant
  /-- Whether the reminder was turned into tasks. -/
  status : DispatchStatus
  deriving DecidableEq, Repr

/-- A reminder is due while it is pending and its time has come. -/
def Reminder.isDue (reminder : Reminder) (now : Instant) : Bool :=
  reminder.status == .pending && decide (reminder.executeAt ≤ now)

/-- The request for a new reminder. -/
structure ReminderRequest where
  /-- The user. -/
  userId : UserId
  /-- The address for the mail. -/
  email : String
  /-- The title. -/
  title : String
  /-- The text. -/
  body : String
  /-- The category. -/
  kind : String
  /-- The time from which the reminder is due. -/
  executeAt : Option Instant
  deriving DecidableEq, Repr

namespace ReminderRequest

/-- The texts that must not be blank, by name. -/
def texts (request : ReminderRequest) : List (String × String) :=
  [("email", request.email), ("title", request.title), ("body", request.body),
    ("kind", request.kind)]

/-- The time of a request of which no part is missing. -/
def validate (request : ReminderRequest) : Except String Instant :=
  if request.userId.isUnset then .error "user id is required"
  else
    match request.texts.find? fun (_, text) => Text.isBlankText text with
    | some (name, _) => .error (name ++ " is required")
    | none =>
      match request.executeAt with
      | some time => .ok time
      | none => .error "execute_at is required"

end ReminderRequest

/-- A user whose birthday is today. -/
structure Birthday where
  /-- The user. -/
  userId : UserId
  /-- The address for the mail. -/
  email : String
  /-- The name of the user. -/
  name : String
  deriving DecidableEq, Repr

namespace Birthday

/-- The title of a birthday notification. -/
def title : String := "Happy Birthday!"

/-- The text of a birthday notification. -/
def body : String := "Wishing you a wonderful day filled with joy!"

/-- The category of a birthday notification. -/
def kind : String := "birthday"

end Birthday

end ReminderDispatch
