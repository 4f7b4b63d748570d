import ReminderDispatch.Failure
import ReminderDispatch.StoreId
import ReminderDispatch.Task.TemplateVars
import ReminderDispatch.Text.Blank

/-!
# Payloads

The work that tasks carry: one mail to send or one notification to create. A payload has the task
type of its kind, so that no payload can go out under another type. Each kind has parts that must
not be missing.
-/

namespace ReminderDispatch

/-- The task type of mails. -/
def TaskType.mail : TaskType := ⟨"mail:deliver"⟩

/-- The task type of notifications. -/
def TaskType.notification : TaskType := ⟨"notification:deliver"⟩

/-- Require a condition for a part that is otherwise missing. -/
def require (present : Bool) (missing : String) : Except ValidationError Unit :=
  if present then .ok () else .error ⟨missing⟩

/-- A mail made from a template. -/
structure EmailDelivery where
  /-- The address of the recipient. -/
  recipient : String
  /-- The name of the template. -/
  template : String
  /-- The subject. -/
  subject : String
  /-- The variables of the template. -/
  vars : TemplateVars
  deriving DecidableEq, Repr

namespace EmailDelivery

/-- Recipient, template and subject are there and not blank. -/
def validate (email : EmailDelivery) : Except ValidationError Unit := do
  require (!Text.isBlankText email.recipient) "recipient is required"
  require (!Text.isBlankText email.template) "template is required"
  require (!Text.isBlankText email.subject) "subject is required"

/-- The mail, if it is valid. -/
def checked (email : EmailDelivery) : Except ValidationError EmailDelivery := do
  email.validate
  pure email

end EmailDelivery

/-- A notification to create for a user. -/
structure NotificationDelivery where
  /-- The receiver. -/
  userId : UserId
  /-- The title. -/
  title : String
  /-- The text. -/
  body : String
  /-- The category, such as `alert` or `birthday`. -/
  kind : String
  deriving DecidableEq, Repr

namespace NotificationDelivery

/-- There is a receiver, and no text is empty. -/
def validate (notification : NotificationDelivery) : Except ValidationError Unit := do
  require (!notification.userId.isUnset) "user id is required"
  require (!notification.title.isEmpty) "title is required"
  require (!notification.body.isEmpty) "body is required"
  require (!notification.kind.isEmpty) "kind is required"

/-- The notification, if it is valid. -/
def checked (notification : NotificationDelivery) :
    Except ValidationError NotificationDelivery := do
  notification.validate
  pure notification

end NotificationDelivery

/-- The kinds of work. -/
inductive PayloadKind where
  /-- A mail. -/
  | email
  /-- A notification. -/
  | notification
  deriving DecidableEq, Repr

namespace PayloadKind

/-- The task type of a kind of work. -/
def type : PayloadKind → TaskType
  | .email => .mail
  | .notification => .notification

/-- What a task of a kind of work carries. -/
def Body : PayloadKind → Type
  | .email => EmailDelivery
  | .notification => NotificationDelivery

/-- The kind of work of a task type. -/
def ofType? (type : TaskType) : Option PayloadKind :=
  if type = .mail then some .email
  else if type = .notification then some .notification
  else none

/-- The task types of all kinds of work. -/
def allTypes : List TaskType := [.mail, .notification]

/-- The kind of the type of a kind is that kind. -/
@[simp] theorem ofType?_type (kind : PayloadKind) : ofType? kind.type = some kind := by
  cases kind <;> decide

end PayloadKind

/-- The work of one task. -/
inductive TaskPayload where
  /-- Send a mail. -/
  | email (mail : EmailDelivery)
  /-- Create a notification. -/
  | notification (delivery : NotificationDelivery)
  deriving DecidableEq, Repr

namespace TaskPayload

/-- The kind of the work. -/
def kind : TaskPayload → PayloadKind
  | .email _ => .email
  | .notification _ => .notification

/-- The type under which the task goes out. -/
def type (payload : TaskPayload) : TaskType := payload.kind.type

/-- What the task carries. -/
def body : (payload : TaskPayload) → payload.kind.Body
  | .email mail => mail
  | .notification delivery => delivery

end TaskPayload

end ReminderDispatch
