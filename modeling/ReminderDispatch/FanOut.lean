import ReminderDispatch.Reminder
import ReminderDispatch.Task.Payload

/-!
# Fan-out

A due item becomes two tasks: a notification for the user and a mail to the user's address, in
this order. An item from which one of them cannot be made becomes none.
-/

namespace ReminderDispatch

/-- How the mails about one kind of item look. -/
structure MailStyle where
  /-- The template. -/
  template : String
  /-- The subject. -/
  subject : String
  deriving DecidableEq, Repr

/-- Mails about reminders. -/
def Reminder.mailStyle : MailStyle := ⟨"reminder_mail", "Wishlist Reminder"⟩

/-- Mails about birthdays. -/
def Birthday.mailStyle : MailStyle := ⟨"birthday_mail", "Birthday"⟩

/-- The two tasks of a due item. -/
structure FanOut where
  /-- The notification. -/
  notification : NotificationDelivery
  /-- The mail. -/
  email : EmailDelivery
  deriving DecidableEq, Repr

/-- The payloads in the order of their publication. -/
def FanOut.payloads (tasks : FanOut) : List TaskPayload :=
  [.notification tasks.notification, .email tasks.email]

/-- There are two tasks. -/
@[simp] theorem FanOut.length_payloads (tasks : FanOut) : tasks.payloads.length = 2 := rfl

/-- The two tasks of a notification and a mail that are both valid. -/
def FanOut.checked (notification : NotificationDelivery) (email : EmailDelivery) :
    Except ValidationError FanOut := do
  let notification ← notification.checked
  let email ← email.checked
  pure ⟨notification, email⟩

/-- The tasks of a reminder: its texts go into the notification and fill the mail. -/
def Reminder.fanOut (reminder : Reminder) : Except ValidationError FanOut :=
  FanOut.checked ⟨reminder.userId, reminder.title, reminder.body, reminder.kind⟩
    ⟨reminder.email, mailStyle.template, mailStyle.subject,
      .ofList [("title", reminder.title), ("body", reminder.body), ("kind", reminder.kind)]⟩

/-- The tasks of a birthday: a standing text in the notification, and the user's name in the
mail. -/
def Birthday.fanOut (birthday : Birthday) : Except ValidationError FanOut :=
  FanOut.checked ⟨birthday.userId, title, body, kind⟩
    ⟨birthday.email, mailStyle.template, mailStyle.subject,
      .ofList [("name", birthday.name), ("title", title), ("body", body)]⟩

end ReminderDispatch
