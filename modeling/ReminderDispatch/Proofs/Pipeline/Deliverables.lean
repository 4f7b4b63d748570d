import ReminderDispatch.Proofs.Pipeline.Stock

/-!
# Items that can be delivered

A due item can be delivered when both of its tasks are valid. The tasks of all due items of a store
are those of the items that can be delivered, and the handlers and the outbox of the process accept
every one of them.
-/

namespace ReminderDispatch

/-! ## Validity -/

/-- A part that is required must be present before anything else is looked at. -/
theorem require_eq_ok {present : Bool} {missing : String} {rest : Except ValidationError Unit} :
    (do require present missing; rest) = .ok () ↔ present = true ∧ rest = .ok () := by
  cases present <;> simp [require, bind, Except.bind]

/-- The last part that is required. -/
theorem require_last_eq_ok {present : Bool} {missing : String} :
    require present missing = .ok () ↔ present = true := by
  cases present <;> simp [require]

/-- A notification is valid when it has a receiver and no text is empty. -/
theorem NotificationDelivery.validate_eq_ok {notification : NotificationDelivery} :
    notification.validate = .ok () ↔ notification.userId.isUnset = false ∧
      notification.title.isEmpty = false ∧ notification.body.isEmpty = false ∧
      notification.kind.isEmpty = false := by
  unfold validate
  simp only [require_eq_ok, require_last_eq_ok, Bool.not_eq_true']

/-- A mail is valid when neither its recipient nor its template nor its subject is blank. -/
theorem EmailDelivery.validate_eq_ok {mail : EmailDelivery} :
    mail.validate = .ok () ↔ Text.isBlankText mail.recipient = false ∧
      Text.isBlankText mail.template = false ∧ Text.isBlankText mail.subject = false := by
  unfold validate
  simp only [require_eq_ok, require_last_eq_ok, Bool.not_eq_true']

/-- Two tasks are made when both are valid, and they are made as they are. -/
theorem FanOut.checked_toOption (notification : NotificationDelivery) (email : EmailDelivery) :
    (checked notification email).toOption =
      if notification.validate = .ok () ∧ email.validate = .ok () then some ⟨notification, email⟩
      else none := by
  unfold checked NotificationDelivery.checked EmailDelivery.checked
  cases notification.validate with
  | error failure => simp [bind, Except.bind, Except.toOption]
  | ok _ =>
    cases email.validate with
    | error failure => simp [bind, Except.bind, Except.toOption, pure, Except.pure]
    | ok _ => simp [bind, Except.bind, Except.toOption, pure, Except.pure]

/-! ## Items -/

/-- A reminder can be delivered: it has a user, no text is empty, and the address is not blank. -/
def Reminder.isDeliverable (reminder : Reminder) : Bool :=
  !reminder.userId.isUnset && !reminder.title.isEmpty && !reminder.body.isEmpty &&
    !reminder.kind.isEmpty && !Text.isBlankText reminder.email

/-- What is delivered for a reminder: its texts to its user, and a mail with them to its address. -/
def Reminder.deliverable? (reminder : Reminder) : Option FanOut :=
  if reminder.isDeliverable then
    some {
      notification := {
        userId := reminder.userId
        title := reminder.title
        body := reminder.body
        kind := reminder.kind }
      email := {
        recipient := reminder.email
        template := "reminder_mail"
        subject := "Wishlist Reminder"
        vars := .ofList
          [("title", reminder.title), ("body", reminder.body), ("kind", reminder.kind)] } }
  else none

/-- A birthday can be delivered: it has a user, and the address is not blank. -/
def Birthday.isDeliverable (birthday : Birthday) : Bool :=
  !birthday.userId.isUnset && !Text.isBlankText birthday.email

/-- What is delivered for a birthday: best wishes to the user, and a mail with the user's name. -/
def Birthday.deliverable? (birthday : Birthday) : Option FanOut :=
  if birthday.isDeliverable then
    some {
      notification := {
        userId := birthday.userId
        title := "Happy Birthday!"
        body := "Wishing you a wonderful day filled with joy!"
        kind := "birthday" }
      email := {
        recipient := birthday.email
        template := "birthday_mail"
        subject := "Birthday"
        vars := .ofList
          [("name", birthday.name), ("title", "Happy Birthday!"),
            ("body", "Wishing you a wonderful day filled with joy!")] } }
  else none

/-- The tasks of a reminder are what is to be delivered for it. -/
theorem Reminder.fanOut_toOption (reminder : Reminder) :
    reminder.fanOut.toOption = reminder.deliverable? := by
  have styled : Text.isBlankText mailStyle.template = false ∧
      Text.isBlankText mailStyle.subject = false := by decide
  unfold fanOut deliverable? isDeliverable
  rw [FanOut.checked_toOption]
  simp only [NotificationDelivery.validate_eq_ok, EmailDelivery.validate_eq_ok, styled, and_true,
    Bool.and_eq_true, Bool.not_eq_true', and_assoc]
  rfl

/-- The tasks of a birthday are what is to be delivered for it. -/
theorem Birthday.fanOut_toOption (birthday : Birthday) :
    birthday.fanOut.toOption = birthday.deliverable? := by
  have styled : Text.isBlankText mailStyle.template = false ∧
      Text.isBlankText mailStyle.subject = false := by decide
  have worded : title.isEmpty = false ∧ body.isEmpty = false ∧ kind.isEmpty = false := by decide
  unfold fanOut deliverable? isDeliverable
  rw [FanOut.checked_toOption]
  simp only [NotificationDelivery.validate_eq_ok, EmailDelivery.validate_eq_ok, styled, worded,
    and_true, Bool.and_eq_true, Bool.not_eq_true']
  rfl

namespace Collaborators

/-- The due items of a store that can be delivered: its reminders, and its users' birthdays. -/
def dueItems (store : ReminderStore) (now : Instant) : List FanOut :=
  (store.dueReminders now).filterMap (·.deliverable?) ++
    (store.dueBirthdays now).filterMap (·.deliverable?)

/-- The tasks of some items are those of the items that can be delivered. -/
theorem flatMap_tasksOf {ι : Type} {fanOut : ι → Except ValidationError FanOut}
    {deliverable? : ι → Option FanOut} (same : ∀ item, (fanOut item).toOption = deliverable? item)
    (items : List ι) :
    (items.flatMap fun item => tasksOf (fanOut item)) =
      (items.filterMap deliverable?).flatMap (·.payloads) := by
  induction items with
  | nil => rfl
  | cons item more ih =>
    rw [List.flatMap_cons, ih, tasksOf, same item]
    cases found : deliverable? item with
    | none => simp [found]
    | some tasks => simp [found]

/-- The due tasks are those of the due items that can be delivered. -/
theorem tasksDue_eq (store : ReminderStore) (now : Instant) :
    tasksDue store now = (dueItems store now).flatMap (·.payloads) := by
  unfold tasksDue dueItems
  rw [flatMap_tasksOf Reminder.fanOut_toOption, flatMap_tasksOf Birthday.fanOut_toOption,
    List.flatMap_append]

end Collaborators

/-- The work can be done: it is valid, and the template of a mail is known. -/
def TaskPayload.IsDoable : TaskPayload → Prop
  | .email mail => mail.validate = .ok () ∧ mail.template ∈ Collaborators.templates
  | .notification delivery => delivery.validate = .ok ()

/-- Work that can be done is valid. -/
theorem TaskPayload.IsDoable.isValid {work : TaskPayload} (doable : work.IsDoable) :
    work.IsValid := by
  cases work with
  | email mail => exact doable.1
  | notification delivery => exact doable

/-- The checked tasks of a mail with a known template can be done. -/
theorem FanOut.isDoable_of_checked {notification : NotificationDelivery} {email : EmailDelivery}
    {tasks : FanOut} (made : (checked notification email).toOption = some tasks)
    (known : email.template ∈ Collaborators.templates) :
    ∀ work ∈ tasks.payloads, work.IsDoable := by
  rw [checked_toOption] at made
  obtain ⟨valid, same⟩ := Option.ite_none_right_eq_some.1 made
  rw [← Option.some.inj same]
  intro work member
  rcases List.mem_pair.1 member with rfl | rfl
  · exact valid.1
  · exact ⟨valid.2, known⟩

/-- The due tasks can be done. -/
theorem Collaborators.isDoable_of_mem_tasksDue {store : ReminderStore} {now : Instant}
    {work : TaskPayload} (member : work ∈ tasksDue store now) : work.IsDoable := by
  rw [tasksDue_eq] at member
  obtain ⟨tasks, isDue, isPayload⟩ := List.mem_flatMap.1 member
  rcases List.mem_append.1 isDue with isReminder | isBirthday
  · obtain ⟨reminder, -, made⟩ := List.mem_filterMap.1 isReminder
    rw [← reminder.fanOut_toOption] at made
    exact FanOut.isDoable_of_checked made (by simp [templates]) work isPayload
  · obtain ⟨birthday, -, made⟩ := List.mem_filterMap.1 isBirthday
    rw [← birthday.fanOut_toOption] at made
    exact FanOut.isDoable_of_checked made (by simp [templates]) work isPayload

end ReminderDispatch
