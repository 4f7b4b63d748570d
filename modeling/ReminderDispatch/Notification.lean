import ReminderDispatch.Calendar.Instant
import ReminderDispatch.StoreId

/-!
# Notifications

Notifications that users find in the application, read or not.
-/

namespace ReminderDispatch

/-- Whether the user has read a notification. -/
inductive ReadStatus where
  /-- Not yet. -/
  | unread
  /-- Yes. -/
  | read
  deriving DecidableEq, Repr

/-- The name of a status. -/
def ReadStatus.name : ReadStatus → String
  | .unread => "unread"
  | .read => "read"

/-- A stored notification. -/
structure StoredNotification where
  /-- The key of the notification. -/
  id : NotificationId
  /-- The receiver. -/
  userId : UserId
  /-- The title. -/
  title : String
  /-- The text. -/
  body : String
  /-- The category. -/
  kind : String
  /-- Whether the receiver has read it. -/
  status : ReadStatus
  /-- The time of its creation. -/
  createdAt : Instant
  deriving DecidableEq, Repr

/-- The notification once the receiver has read it. -/
def StoredNotification.asRead (record : StoredNotification) : StoredNotification :=
  { record with status := .read }

/-- The request for a new notification. -/
structure NotificationRequest where
  /-- The receiver. -/
  userId : UserId
  /-- The title. -/
  title : String
  /-- The text. -/
  body : String
  /-- The category. -/
  kind : String
  deriving DecidableEq, Repr

end ReminderDispatch
