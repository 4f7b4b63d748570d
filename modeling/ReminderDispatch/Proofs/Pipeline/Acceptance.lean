import ReminderDispatch.Proofs.Pipeline.Workshop

/-!
# Accepted items

Whatever is accepted at creation can be delivered. A request is checked when a reminder is created
from it, its tasks are checked when they are made, and the work of a task is checked once more by
its handler, each time by rules of its own. No later check is stricter than an earlier one: a
created reminder has tasks, and the work that was published for an item is found, read and accepted
by its handler, so that it can fail for a time but not for good.
-/

namespace ReminderDispatch

variable {work : TaskPayload} {tasks : FanOut} {envelope : Envelope} {limit : Duration}
  {shared : Collaborators}

/-! ## Creation -/

/-- A request of which no part is missing has a user and no blank text. -/
theorem ReminderRequest.complete_of_validate {request : ReminderRequest} {time : Instant}
    (valid : request.validate = .ok time) :
    request.userId.isUnset = false ∧
      ∀ named ∈ request.texts, Text.isBlankText named.2 = false := by
  unfold validate at valid
  split_ifs at valid with unset
  split at valid
  case h_1 => contradiction
  case h_2 missing =>
    refine ⟨Bool.eq_false_iff.2 unset, fun named member => ?_⟩
    exact Bool.eq_false_iff.2 (List.find?_eq_none.1 missing named member)

/-- A created reminder is stored and can be delivered. -/
theorem ReminderStore.create_isDeliverable {store after : ReminderStore}
    {request : ReminderRequest} {reminder : Reminder}
    (created : store.create request = (some (.ok reminder), after)) :
    reminder ∈ after.reminders ∧ reminder.isDeliverable = true := by
  cases creates_of_eq created with | created valid next parts => ?_
  subst parts
  refine ⟨List.mem_append_right _ (List.mem_singleton_self _), ?_⟩
  obtain ⟨user, texts⟩ := ReminderRequest.complete_of_validate valid
  have email : Text.isBlankText request.email = false :=
    texts ("email", request.email) (by simp [ReminderRequest.texts])
  have title : request.title.isEmpty = false :=
    Text.isEmpty_of_not_isBlankText (texts ("title", _) (by simp [ReminderRequest.texts]))
  have body : request.body.isEmpty = false :=
    Text.isEmpty_of_not_isBlankText (texts ("body", _) (by simp [ReminderRequest.texts]))
  have kind : request.kind.isEmpty = false :=
    Text.isEmpty_of_not_isBlankText (texts ("kind", _) (by simp [ReminderRequest.texts]))
  simp [Reminder.isDeliverable, user, email, title, body, kind]

/-- Tasks are made from a reminder that can be delivered. -/
theorem Reminder.exists_fanOut {reminder : Reminder} (deliverable : reminder.isDeliverable = true) :
    ∃ tasks, reminder.fanOut = .ok tasks := by
  have made := reminder.fanOut_toOption
  unfold deliverable? at made
  rw [if_pos deliverable] at made
  cases fanOut : reminder.fanOut with
  | ok tasks => exact ⟨tasks, rfl⟩
  | error failure =>
    rw [fanOut] at made
    contradiction

/-! ## Tasks -/

/-- The tasks were made from a due item. -/
def FanOut.IsOfItem (tasks : FanOut) : Prop :=
  (∃ reminder : Reminder, reminder.fanOut = .ok tasks) ∨
    ∃ birthday : Birthday, birthday.fanOut = .ok tasks

/-- The tasks of due items can be done. -/
theorem FanOut.IsOfItem.isDoable (made : tasks.IsOfItem) (member : work ∈ tasks.payloads) :
    work.IsDoable := by
  rcases made with ⟨reminder, fanOut⟩ | ⟨birthday, fanOut⟩
  · have checked := congrArg Except.toOption fanOut
    exact FanOut.isDoable_of_checked checked (by simp [Collaborators.templates]) work member
  · have checked := congrArg Except.toOption fanOut
    exact FanOut.isDoable_of_checked checked (by simp [Collaborators.templates]) work member

/-! ## Handling -/

/-- A call is answered in time under some reading; or it stays without an answer, whatever becomes
of it. -/
def Collaborators.MayAnswer (call : Call) (reply : Option call.Reply)
    (before after : Collaborators) : Prop :=
  reply = none ∨ ∃ reading, AnswersAt reading call reply before after

/-- Work that can be done succeeds at once while numbers are left. -/
theorem Dispatcher.Does.run_eq_ok (does : Dispatcher.Does limit envelope work)
    (wired : shared.dispatcher = .wired limit)
    (known : shared.outbox.templates = some Collaborators.templates) (doable : work.IsDoable)
    (left : shared.notifications.lastId ≠ .maxValue) (reading : Reading) :
    ((shared.dispatcher.dispatch envelope).run (Collaborators.atOnce reading) shared).1 =
      .ok () := by
  have accepts : shared.Accepts work := ((Collaborators.isDoable_iff known).1 doable).2
  have canDo : shared.CanDo envelope work := ⟨does.carries, does.valid, accepts⟩
  obtain ⟨after, ran, -⟩ := canDo.run_eq left wired reading
  rw [ran]

/-- Work that can be done succeeds, or it may be done another time. -/
theorem Dispatcher.Does.result_cases (does : Dispatcher.Does limit envelope work)
    (wired : shared.dispatcher = .wired limit)
    (known : shared.outbox.templates = some Collaborators.templates) (doable : work.IsDoable)
    {trace : List Answered} {after : Collaborators} {result : Except DispatchError Unit}
    (runs : (shared.dispatcher.dispatch envelope).Runs Collaborators.MayAnswer shared trace after
      (some result)) :
    result = .ok () ∨ ∃ reason, result = .error (.handler (.transient reason)) := by
  rw [wired, does.dispatch_eq] at runs
  obtain ⟨reply, middle, more, -, answers, goesOn⟩ := runs.ask_cases
  obtain ⟨-, -, rfl⟩ := Program.Runs.pure_cases goesOn
  rcases answers with rfl | ⟨reading, inTime⟩
  · obtain ⟨reason, concluded⟩ := work.conclude_none limit
    rw [concluded]
    exact .inr ⟨reason, rfl⟩
  · obtain ⟨told, rfl, heard⟩ := inTime.exists_reply
    have accepts : shared.Accepts work := ((Collaborators.isDoable_iff known).1 doable).2
    rcases Collaborators.answer_accepted accepts reading with
      ⟨success, next, answered, -⟩ | ⟨brokeOff, -⟩
    · rw [answered] at heard
      rw [← (Prod.mk.inj heard).1, work.conclude_ok limit success]
      exact .inl rfl
    · rw [brokeOff] at heard
      cases (Prod.mk.inj heard).1

/-- Whatever is accepted at creation can be delivered by the process.

Tasks are made from every reminder that was created. Whenever tasks were made from a reminder or a
birthday, each of them has a handler, which reads it back from its body as it was published and
finds it valid. A task that carries such a body is done when its call is answered, which it is as
long as a number is left for a notification; otherwise it fails for a reason that may pass, and
never because there is no handler, because the body can not be read or because the work is not
valid. -/
theorem accepted_is_deliverable {config : Config} {start : Collaborators}
    (connected : Collaborators.connect config = .ok start) :
    (∀ (store after : ReminderStore) (request : ReminderRequest) (reminder : Reminder),
      store.create request = (some (.ok reminder), after) →
        reminder ∈ after.reminders ∧ ∃ tasks, reminder.fanOut = .ok tasks) ∧
    ∀ tasks : FanOut, tasks.IsOfItem → ∀ work ∈ tasks.payloads,
      (∃ handler, start.dispatcher.registry.get? work.type = some handler ∧
        handler.kind = work.kind) ∧
      Wire.decode work.kind (Wire.encode work) = .ok work.body ∧ work.IsValid ∧
      ∀ envelope : Envelope, envelope.type = work.type → envelope.body = Wire.encode work →
        ∀ shared : Collaborators, shared.dispatcher = start.dispatcher →
          shared.outbox.templates = start.outbox.templates →
          (shared.notifications.lastId ≠ .maxValue → ∀ reading,
            ((shared.dispatcher.dispatch envelope).run (Collaborators.atOnce reading) shared).1 =
              .ok ()) ∧
          ∀ trace after result, (shared.dispatcher.dispatch envelope).Runs
            Collaborators.MayAnswer shared trace after (some result) →
              result = .ok () ∨ ∃ reason, result = .error (.handler (.transient reason)) := by
  obtain ⟨-, -, rfl⟩ := Collaborators.connect_eq_ok.1 connected
  constructor
  · intro store after request reminder created
    obtain ⟨stored, deliverable⟩ := ReminderStore.create_isDeliverable created
    exact ⟨stored, Reminder.exists_fanOut deliverable⟩
  · intro tasks made work member
    have doable := made.isDoable member
    have decoded : Wire.decode work.kind (Wire.encode work) = .ok work.body :=
      Wire.decode_encode work
    refine ⟨?_, decoded, doable.isValid, ?_⟩
    · cases work with
      | email mail => exact ⟨.email config.ioTimeout, rfl, rfl⟩
      | notification delivery => exact ⟨.notification config.ioTimeout, rfl, rfl⟩
    · intro envelope type body shared wired known
      have carries := Envelope.work?_published type body
      have does := Dispatcher.does_of_valid carries doable.isValid config.ioTimeout
      exact ⟨does.run_eq_ok wired known doable,
        fun trace after result => does.result_cases wired known doable⟩

/-- A request with texts that are hardly anything. -/
def oddRequest : ReminderRequest where
  userId := ⟨Int64.minValue⟩
  email := "\u2003ada"
  title := "\u0000"
  body := "\u00a0\"\u200b"
  kind := "\u3000🎁"
  executeAt := some (.midnight .epoch)

/-- A reminder is created from the request, and both of its tasks are done by the process. -/
theorem accepted_is_deliverable_odd :
    ∃ (start : Collaborators) (reminder : Reminder) (after : ReminderStore) (tasks : FanOut),
      Collaborators.connect .default = .ok start ∧
      ReminderStore.empty.create oddRequest = (some (.ok reminder), after) ∧
      reminder.fanOut = .ok tasks ∧
      ∀ work ∈ tasks.payloads, work.IsValid ∧ ∀ envelope : Envelope, envelope.type = work.type →
        envelope.body = Wire.encode work → ∀ reading,
          ((start.dispatcher.dispatch envelope).run (Collaborators.atOnce reading) start).1 =
            .ok () := by
  have connected : Collaborators.connect .default =
      .ok (.fresh Config.default.retryPolicy Config.default.ioTimeout) :=
    Collaborators.connect_eq_ok.2 ⟨rfl, rfl, rfl⟩
  obtain ⟨created, deliverable⟩ := accepted_is_deliverable connected
  have accepted : (ReminderStore.empty.create oddRequest).1.any (·.isOk) = true := by
    decide +kernel
  rcases outcome : ReminderStore.empty.create oddRequest with ⟨_ | ⟨failure | reminder⟩, after⟩
  · rw [outcome] at accepted
    contradiction
  · rw [outcome] at accepted
    contradiction
  · obtain ⟨-, tasks, made⟩ := created _ _ _ _ outcome
    refine ⟨_, reminder, after, tasks, connected, rfl, made, fun work member => ?_⟩
    obtain ⟨-, -, valid, handled⟩ := deliverable tasks (.inl ⟨reminder, made⟩) work member
    exact ⟨valid, fun envelope type body reading =>
      (handled envelope type body _ rfl rfl).1 (by decide) reading⟩

end ReminderDispatch
