import ReminderDispatch.Calendar.InstantText
import ReminderDispatch.Json.Record
import ReminderDispatch.Notification
import ReminderDispatch.Reminder
import ReminderDispatch.Task.Envelope
import ReminderDispatch.Task.Payload

/-!
# Wire formats

How the values of the domain are written as JSON: which fields they have, in which order and under
which names.
-/

namespace ReminderDispatch.Wire

open ReminderDispatch.Json

/-- Keys are numbers. -/
def storeId {kind : RowKind} : Codec (StoreId kind) := int64.via StoreId.mk StoreId.value

/-- Instants are texts. -/
def instant : Codec Instant where
  write time := writeString time.text
  read := readStringWith "an RFC 3339 formatted date and time string" fun text =>
    (Instant.ofText text).mapError fun fault => .refused fault.message

/-- Task types are texts. -/
def taskType : Codec TaskType := string.via TaskType.mk TaskType.name

/-- The digits of an identifier are a text. A text of other digits is refused where the record that
holds it ends. -/
def taskIdDigits : Codec TaskId where
  write id := writeString id.digitText
  read := do
    match TaskId.ofDigitText (← string.read) with
    | .ok id => pure id
    | .error fault => failLoose (.refused fault.message)

/-- Identifiers of tasks are records of their digits. -/
def taskId : Record TaskId where
  title := "Id"
  types := [TaskId]
  fields := .cons (.required "ulid" taskIdDigits) .nil
  pack := fun (id, _) => id
  unpack id := (id, ())

/-- Variables of templates are objects with their names as keys. -/
def templateVars : Codec TemplateVars :=
  entries string TemplateVars.toList .empty TemplateVars.insert

/-- The states of a task. -/
def taskState : Codec TaskState :=
  named ([TaskState.queued, .running, .retryScheduled].map fun state => (state.name, state))
    TaskState.name

/-- The states of a reminder. -/
def dispatchStatus : Codec DispatchStatus :=
  named ([DispatchStatus.pending, .dispatched].map fun status => (status.name, status))
    DispatchStatus.name

/-- The states of a notification. -/
def readStatus : Codec ReadStatus :=
  named ([ReadStatus.unread, .read].map fun status => (status.name, status))
    ReadStatus.name

/-- Mails; the variables may be lacking. -/
def email : Record EmailDelivery where
  title := "EmailDelivery"
  types := [String, String, String, TemplateVars]
  fields :=
    .cons (.required "to" string) <| .cons (.required "template" string) <|
    .cons (.required "subject" string) <| .cons (.withDefault "vars" templateVars .empty) .nil
  pack := fun (recipient, template, subject, vars, _) => ⟨recipient, template, subject, vars⟩
  unpack mail := (mail.recipient, mail.template, mail.subject, mail.vars, ())

/-- Notifications on their way. -/
def notification : Record NotificationDelivery where
  title := "NotificationDelivery"
  types := [UserId, String, String, String]
  fields :=
    .cons (.required "user_id" storeId) <| .cons (.required "title" string) <|
    .cons (.required "body" string) <| .cons (.required "kind" string) .nil
  pack := fun (userId, title, body, kind, _) => ⟨userId, title, body, kind⟩
  unpack delivery := (delivery.userId, delivery.title, delivery.body, delivery.kind, ())

/-- Reminders. -/
def reminder : Record Reminder where
  title := "Reminder"
  types := [ReminderId, UserId, String, String, String, String, Instant, DispatchStatus]
  fields :=
    .cons (.required "id" storeId) <| .cons (.required "user_id" storeId) <|
    .cons (.required "email" string) <| .cons (.required "title" string) <|
    .cons (.required "body" string) <| .cons (.required "kind" string) <|
    .cons (.required "execute_at" instant) <| .cons (.required "status" dispatchStatus) .nil
  pack := fun (id, userId, email, title, body, kind, executeAt, status, _) =>
    ⟨id, userId, email, title, body, kind, executeAt, status⟩
  unpack reminder := (reminder.id, reminder.userId, reminder.email, reminder.title, reminder.body,
    reminder.kind, reminder.executeAt, reminder.status, ())

/-- Requests for reminders; the time may be lacking. -/
def reminderRequest : Record ReminderRequest where
  title := "NewReminder"
  types := [UserId, String, String, String, String, Option Instant]
  fields :=
    .cons (.required "user_id" storeId) <| .cons (.required "email" string) <|
    .cons (.required "title" string) <| .cons (.required "body" string) <|
    .cons (.required "kind" string) <| .cons (.nullable "execute_at" instant) .nil
  pack := fun (userId, email, title, body, kind, executeAt, _) =>
    ⟨userId, email, title, body, kind, executeAt⟩
  unpack request := (request.userId, request.email, request.title, request.body, request.kind,
    request.executeAt, ())

/-- Birthdays. -/
def birthday : Record Birthday where
  title := "BirthdayEvent"
  types := [UserId, String, String]
  fields :=
    .cons (.required "user_id" storeId) <| .cons (.required "email" string) <|
    .cons (.required "name" string) .nil
  pack := fun (userId, email, name, _) => ⟨userId, email, name⟩
  unpack birthday := (birthday.userId, birthday.email, birthday.name, ())

/-- Stored notifications. -/
def storedNotification : Record StoredNotification where
  title := "NotificationRecord"
  types := [NotificationId, UserId, String, String, String, ReadStatus, Instant]
  fields :=
    .cons (.required "id" storeId) <| .cons (.required "user_id" storeId) <|
    .cons (.required "title" string) <| .cons (.required "body" string) <|
    .cons (.required "kind" string) <| .cons (.required "status" readStatus) <|
    .cons (.required "created_at" instant) .nil
  pack := fun (id, userId, title, body, kind, status, createdAt, _) =>
    ⟨id, userId, title, body, kind, status, createdAt⟩
  unpack record := (record.id, record.userId, record.title, record.body, record.kind,
    record.status, record.createdAt, ())

/-- Requests for notifications. -/
def notificationRequest : Record NotificationRequest where
  title := "CreateNotification"
  types := [UserId, String, String, String]
  fields :=
    .cons (.required "user_id" storeId) <| .cons (.required "title" string) <|
    .cons (.required "body" string) <| .cons (.required "kind" string) .nil
  pack := fun (userId, title, body, kind, _) => ⟨userId, title, body, kind⟩
  unpack request := (request.userId, request.title, request.body, request.kind, ())

/-- Published tasks; the body is a list of its bytes. -/
def envelope : Record Envelope where
  title := "TaskEnvelope"
  types := [TaskId, TaskType, List UInt8, Instant]
  fields :=
    .cons (.required "task_id" taskId.codec) <| .cons (.required "task_type" taskType) <|
    .cons (.required "body" (list byte)) <| .cons (.required "published_at" instant) .nil
  pack := fun (id, type, body, publishedAt, _) => ⟨id, type, body, publishedAt⟩
  unpack task := (task.id, task.type, task.body, task.publishedAt, ())

/-- Counts of tasks. -/
def queueCounts : Record QueueCounts where
  title := "QueueCounts"
  types := [UInt64, UInt64, UInt64, UInt64, UInt64]
  fields :=
    .cons (.required "queued" count) <| .cons (.required "running" count) <|
    .cons (.required "succeeded" count) <| .cons (.required "retry_scheduled" count) <|
    .cons (.required "dead" count) .nil
  pack := fun (queued, running, succeeded, retryScheduled, dead, _) =>
    ⟨queued, running, succeeded, retryScheduled, dead⟩
  unpack counts := (counts.queued, counts.running, counts.succeeded, counts.retryScheduled,
    counts.dead, ())

/-- The codec of what a kind of work carries. -/
def payload : (kind : PayloadKind) → Codec kind.Body
  | .email => email.codec
  | .notification => notification.codec

/-- The body of a task with a payload. -/
def encode (work : TaskPayload) : List UInt8 := (payload work.kind).write work.body

/-- What a body carries, read as a kind of work. -/
def decode (kind : PayloadKind) (body : List UInt8) : Except DispatchError kind.Body :=
  ((payload kind).readAll body).mapError fun refusal => .decode kind.type refusal

end ReminderDispatch.Wire
