import Mathlib.Tactic.SplitIfs
import ReminderDispatch.Proofs.Wire.Payloads
import ReminderDispatch.Startup

/-!
# Dispatch of published work

An envelope carries the work that its body is read as under its type. The dispatcher that is put
together at the start of the process does valid work by one call: it creates the notification or
sends the mail, as they were written into the envelope. Everything else it refuses for good, without
any call.
-/

namespace ReminderDispatch

/-- Work of a kind. -/
def PayloadKind.work : (kind : PayloadKind) → kind.Body → TaskPayload
  | .email, mail => .email mail
  | .notification, delivery => .notification delivery

theorem PayloadKind.kind_work (kind : PayloadKind) (body : kind.Body) :
    (kind.work body).kind = kind := by
  cases kind <;> rfl

variable {envelope : Envelope} {work : TaskPayload} {limit : Duration}

/-- A kind of work is found under its own type only. -/
theorem PayloadKind.type_eq_of_ofType? {type : TaskType} {kind : PayloadKind}
    (found : ofType? type = some kind) : type = kind.type := by
  unfold ofType? at found
  split_ifs at found with isMail isNotification
  · rw [isMail, ← Option.some.inj found]
    rfl
  · rw [isNotification, ← Option.some.inj found]
    rfl

namespace TaskPayload

/-- Work is the work of its kind. -/
theorem work_body (work : TaskPayload) : work.kind.work work.body = work := by
  cases work <;> rfl

/-- The work is valid. -/
def IsValid : TaskPayload → Prop
  | .email mail => mail.validate = .ok ()
  | .notification delivery => delivery.validate = .ok ()

/-- The call by which the work is done. -/
def call : TaskPayload → Call
  | .email mail => .send mail
  | .notification delivery =>
    .createNotification ⟨delivery.userId, delivery.title, delivery.body, delivery.kind⟩

end TaskPayload

/-- The work that an envelope carries, if it can be read. -/
def Envelope.work? (envelope : Envelope) : Option TaskPayload :=
  (PayloadKind.ofType? envelope.type).bind fun kind =>
    (Wire.decode kind envelope.body).toOption.map kind.work

/-- An envelope carries what its body is read as under its type. -/
theorem Envelope.work?_eq {kind : PayloadKind} {body : kind.Body}
    (type : envelope.type = kind.type) (decoded : Wire.decode kind envelope.body = .ok body) :
    envelope.work? = some (kind.work body) := by
  unfold work?
  rw [type, PayloadKind.ofType?_type, Option.bind_some, decoded]
  rfl

/-- An envelope that was published for some work carries it. -/
theorem Envelope.work?_published (type : envelope.type = work.type)
    (body : envelope.body = Wire.encode work) : envelope.work? = some work := by
  have decoded : Wire.decode work.kind envelope.body = .ok work.body := by
    rw [body]
    exact Wire.decode_encode work
  rw [work?_eq type decoded, work.work_body]

/-- What an envelope carries can be read under its type. -/
theorem Envelope.work?_eq_some (carries : envelope.work? = some work) :
    ∃ kind body, envelope.type = PayloadKind.type kind ∧
      Wire.decode kind envelope.body = .ok body ∧ kind.work body = work := by
  obtain ⟨kind, found, read⟩ := Option.bind_eq_some_iff.1 carries
  obtain ⟨body, decoded, same⟩ := Option.map_eq_some_iff.1 read
  refine ⟨kind, body, PayloadKind.type_eq_of_ofType? found, ?_, same⟩
  cases outcome : Wire.decode kind envelope.body with
  | error failure => simp [outcome, Except.toOption] at decoded
  | ok value =>
    rw [outcome] at decoded
    rw [Option.some.inj decoded]

/-- A dispatcher with the two handlers of the process. -/
def Dispatcher.wired (limit : Duration) : Dispatcher where
  registry := ⟨[.notification limit, .email limit], by
    change [TaskType.notification, TaskType.mail].Nodup
    decide⟩

/-! ## Verdicts -/

/-- What a handler of the process makes of the answer to the call by which it does its work. -/
def TaskPayload.conclude (limit : Duration) :
    (work : TaskPayload) → Option work.call.Reply → Except HandlerError Unit
  | .email _, none => .error (.transient ("email send timed out after " ++ limit.text))
  | .email _, some (.error failure) => .error (.ofTransport failure)
  | .email _, some (.ok _) => .ok ()
  | .notification _, none => .error (.ofStore (.timeout limit))
  | .notification _, some (.error failure) => .error (.ofStore failure)
  | .notification _, some (.ok _) => .ok ()

/-- Work is done when its call has succeeded. -/
theorem TaskPayload.conclude_ok (limit : Duration) (work : TaskPayload)
    (result : work.call.Result) : work.conclude limit (some (.ok result)) = .ok () := by
  cases work <;> rfl

/-- Work without an answer may be done another time. -/
theorem TaskPayload.conclude_none (limit : Duration) (work : TaskPayload) :
    ∃ reason, work.conclude limit none = .error (.transient reason) := by
  cases work with
  | email mail => exact ⟨_, rfl⟩
  | notification delivery => exact ⟨_, rfl⟩

/-- A body of some kind that can not be read is refused under the type of this kind. -/
theorem WorkKind.refusal_of_decode {κ : Type} [WorkKind κ] {kind : κ} {body : List UInt8}
    {failure : DispatchError} (unread : WorkKind.decode kind body = .error failure) :
    ∃ refusal, failure = .decode (WorkKind.type kind) refusal := by
  unfold WorkKind.decode at unread
  cases read : WorkKind.read kind body with
  | error refusal =>
    rw [read] at unread
    exact ⟨refusal, (Except.error.inj unread).symm⟩
  | ok work =>
    rw [read] at unread
    cases unread

namespace Handler

/-- What a handler does with work: it refuses work that is not valid, and does valid work by one
call. -/
def Does (limit : Duration) (work : TaskPayload) (program : Program (Except HandlerError Unit)) :
    Prop :=
  (¬ work.IsValid ∧ ∃ failure, program = .done (.error (.validation failure))) ∨
    work.IsValid ∧ program = .ask work.call (some limit) fun reply =>
      .done (work.conclude limit reply)

/-- A mail is sent if it is valid. -/
theorem sendMail_does (limit : Duration) (mail : EmailDelivery) :
    Does limit (.email mail) (sendMail limit mail) := by
  unfold sendMail
  cases checked : mail.validate with
  | error failure =>
    refine .inl ⟨fun valid => ?_, failure, rfl⟩
    exact nomatch checked.symm.trans valid
  | ok =>
    refine .inr ⟨checked, ?_⟩
    show Program.ask (.send mail) (some limit) _ = _
    congr 1
    funext reply
    rcases reply with _ | failure | result <;> rfl

/-- A notification is created if it is valid. -/
theorem createNotification_does (limit : Duration) (delivery : NotificationDelivery) :
    Does limit (.notification delivery) (createNotification limit delivery) := by
  unfold createNotification
  cases checked : delivery.validate with
  | error failure =>
    refine .inl ⟨fun valid => ?_, failure, rfl⟩
    exact nomatch checked.symm.trans valid
  | ok =>
    refine .inr ⟨checked, ?_⟩
    show Program.ask (TaskPayload.notification delivery).call (some limit) _ = _
    congr 1
    funext reply
    rcases reply with _ | failure | result <;> rfl

/-- A handler that reads its work from a body does it, and its failures are passed on. -/
theorem handleBody_of_decoded {κ : Type} [WorkKind κ] (handler : Handler κ) {body : List UInt8}
    {work : WorkKind.Body handler.kind}
    (decoded : WorkKind.decode handler.kind body = .ok work) :
    handler.handleBody body =
      handler.handle work >>= fun outcome => pure (outcome.mapError .handler) := by
  unfold handleBody
  rw [decoded]
  show (handler.handle work >>= _) = _
  congr 1
  funext outcome
  rcases outcome with failure | ⟨⟩
  · rfl
  · rfl

/-- A body that can not be read is not handled. -/
theorem handleBody_of_unread {κ : Type} [WorkKind κ] (handler : Handler κ) {body : List UInt8}
    {failure : DispatchError} (unread : WorkKind.decode handler.kind body = .error failure) :
    handler.handleBody body = .done (.error failure) := by
  unfold handleBody
  rw [unread]
  rfl

/-- A handler of the process does the work that it reads from a body. -/
theorem handleBody_eq (handler : Handler) {body : List UInt8} {work : handler.kind.Body}
    (decoded : Wire.decode handler.kind body = .ok work) :
    handler.handleBody body =
      handler.handle work >>= fun outcome => pure (outcome.mapError .handler) :=
  handler.handleBody_of_decoded decoded

/-- A handler of the process does nothing with a body that can not be read. -/
theorem handleBody_error (handler : Handler) {body : List UInt8} {failure : DispatchError}
    (unread : Wire.decode handler.kind body = .error failure) :
    handler.handleBody body = .done (.error failure) :=
  handler.handleBody_of_unread unread

end Handler

namespace Dispatcher

/-- The process has no handlers but those of the kinds of work. -/
theorem get?_of_ofType?_none (limit : Duration) {type : TaskType}
    (unknown : PayloadKind.ofType? type = none) : (wired limit).registry.get? type = none := by
  unfold PayloadKind.ofType? at unknown
  split_ifs at unknown with isMail isNotification
  have notMail : (Handler.email limit).type ≠ type := Ne.symm isMail
  have notNotification : (Handler.notification limit).type ≠ type := Ne.symm isNotification
  unfold Registry.get?
  simp [wired, notMail, notNotification]

/-- The task carries no work that can be done, and the dispatcher gives it up for good. -/
def Refuses (limit : Duration) (envelope : Envelope) : Prop :=
  ∃ failure, (wired limit).dispatch envelope = .done (.error failure) ∧
    failure.kind = .permanent ∧ ∀ work, envelope.work? = some work → ¬ work.IsValid

/-- The task carries valid work, and the dispatcher does it by one call. -/
structure Does (limit : Duration) (envelope : Envelope) (work : TaskPayload) : Prop where
  /-- The task carries the work. -/
  carries : envelope.work? = some work
  /-- The work is valid. -/
  valid : work.IsValid
  /-- The work is done by its call. -/
  dispatch_eq : (wired limit).dispatch envelope = .ask work.call (some limit) fun reply =>
    .done ((work.conclude limit reply).mapError .handler)

/-- A body that can not be read is refused. -/
theorem refuses_of_unread {kind : PayloadKind} (type : envelope.type = kind.type)
    {failure : DispatchError} (unread : Wire.decode kind envelope.body = .error failure) :
    Refuses limit envelope := by
  have nothing : envelope.work? = none := by
    unfold Envelope.work?
    rw [type, PayloadKind.ofType?_type, Option.bind_some, unread]
    rfl
  have permanent : failure.kind = .permanent := by
    have refused : WorkKind.decode kind envelope.body = .error failure := unread
    obtain ⟨refusal, rfl⟩ := WorkKind.refusal_of_decode refused
    rfl
  refine ⟨failure, ?_, permanent, by simp [nothing]⟩
  unfold dispatch
  rw [type]
  cases kind with
  | email => exact Handler.handleBody_error (.email limit) unread
  | notification => exact Handler.handleBody_error (.notification limit) unread

/-- Work that is read is in the hands of its handler. -/
theorem cases_of_read {kind : PayloadKind} (type : envelope.type = kind.type)
    {body : kind.Body} (read : Wire.decode kind envelope.body = .ok body) :
    Refuses limit envelope ∨ Does limit envelope (kind.work body) := by
  have carries : envelope.work? = some (kind.work body) := Envelope.work?_eq type read
  have handled : ∃ program, Handler.Does limit (kind.work body) program ∧
      (wired limit).dispatch envelope =
        program >>= fun outcome => pure (outcome.mapError .handler) := by
    unfold dispatch
    rw [type]
    cases kind with
    | email =>
      exact ⟨_, Handler.sendMail_does limit body, Handler.handleBody_eq (.email limit) read⟩
    | notification =>
      exact ⟨_, Handler.createNotification_does limit body,
        Handler.handleBody_eq (.notification limit) read⟩
  obtain ⟨program, ⟨invalid, failure, rfl⟩ | ⟨valid, rfl⟩, dispatched⟩ := handled
  · refine .inl ⟨.handler (.validation failure), dispatched, rfl, fun work carried => ?_⟩
    rw [← Option.some.inj (carries.symm.trans carried)]
    exact invalid
  · exact .inr ⟨carries, valid, dispatched⟩

/-- Every task is refused, or its work is done by one call. -/
theorem dispatch_cases (limit : Duration) (envelope : Envelope) :
    Refuses limit envelope ∨ ∃ work, Does limit envelope work := by
  cases isKind : PayloadKind.ofType? envelope.type with
  | none =>
    have nothing : envelope.work? = none := by
      unfold Envelope.work?
      rw [isKind]
      rfl
    refine .inl ⟨.noHandler envelope.type, ?_, rfl, by simp [nothing]⟩
    unfold dispatch
    rw [get?_of_ofType?_none limit isKind]
    rfl
  | some kind =>
    have type := PayloadKind.type_eq_of_ofType? isKind
    cases read : Wire.decode kind envelope.body with
    | error failure => exact .inl (refuses_of_unread type read)
    | ok body => exact (cases_of_read type read).imp_right fun does => ⟨_, does⟩

/-- Valid work is done by one call. -/
theorem does_of_valid (carries : envelope.work? = some work) (valid : work.IsValid)
    (limit : Duration) : Does limit envelope work := by
  rcases dispatch_cases limit envelope with ⟨failure, -, -, invalid⟩ | ⟨other, does⟩
  · exact absurd valid (invalid work carries)
  · rw [Option.some.inj (carries.symm.trans does.carries)]
    exact does

/-- The task is done when the call by which its valid work is done has succeeded. -/
theorem dispatch_wired (carries : envelope.work? = some work) (valid : work.IsValid)
    (limit : Duration) :
    ∃ next, (wired limit).dispatch envelope = .ask work.call (some limit) next ∧
      ∀ result, next (some (.ok result)) = .done (.ok ()) := by
  refine ⟨_, (does_of_valid carries valid limit).dispatch_eq, fun result => ?_⟩
  rw [work.conclude_ok limit result]
  rfl

end Dispatcher

/-! ## Start-up -/

/-- A task type has a handler in a registry exactly when one of the handlers takes it. -/
theorem Registry.mem_types {κ : Type} [WorkKind κ] {registry : Registry κ} {type : TaskType} :
    type ∈ registry.types ↔ type ∈ registry.handlers.map (·.type) := by
  unfold types
  exact (List.mergeSort_perm _ _).mem_iff

namespace Collaborators

/-- The dispatcher of the process is put together. -/
theorem dispatcherWithin_eq (limit : Duration) : dispatcherWithin limit = .ok (.wired limit) := by
  have one : ([Handler.notification limit].map (·.type)).Nodup :=
    List.nodup_cons.2 ⟨List.not_mem_nil, .nil⟩
  have begun : DispatcherDraft.new.register (.notification limit) =
      .ok ⟨⟨[.notification limit], one⟩, none⟩ := rfl
  have added : DispatcherDraft.register ⟨⟨[.notification limit], one⟩, none⟩ (.email limit) =
      .ok ⟨(Dispatcher.wired limit).registry, none⟩ := rfl
  have complete : (DispatcherDraft.mk (Dispatcher.wired limit).registry
      (some PayloadKind.allTypes)).missing = [] := by
    unfold DispatcherDraft.missing
    rw [List.filter_eq_nil_iff]
    intro type isExpected
    have handled : type ∈ (Dispatcher.wired limit).registry.types :=
      Registry.mem_types.2 ((List.Perm.swap _ _ []).mem_iff.1 isExpected)
    simp [handled]
  have built : (DispatcherDraft.mk (Dispatcher.wired limit).registry
      (some PayloadKind.allTypes)).build = .ok (.wired limit) := by
    unfold DispatcherDraft.build
    rw [complete]
    rfl
  simp only [dispatcherWithin, begun, added, DispatcherDraft.expect, built, Except.mapError, bind,
    Except.bind]

/-- The collaborators at the start of the process: nothing is stored, queued or sent. -/
def fresh (policy : RetryPolicy) (limit : Duration) : Collaborators where
  exchange := .new policy
  reminders := .empty
  notifications := .empty
  outbox := .new (some templates)
  dispatcher := .wired limit

/-- The process starts with fresh collaborators if those in memory are asked for, and not at all
otherwise. -/
theorem connect_eq_ok {config : Config} {collaborators : Collaborators} :
    connect config = .ok collaborators ↔ config.databaseUrl = memoryUrl ∧
      config.brokerUrl = memoryUrl ∧
      collaborators = fresh config.retryPolicy config.ioTimeout := by
  unfold connect
  rw [dispatcherWithin_eq]
  by_cases database : config.databaseUrl = memoryUrl
  · rw [if_neg (not_not_intro database)]
    dsimp only
    by_cases broker : config.brokerUrl = memoryUrl
    · rw [if_neg (not_not_intro broker)]
      change Except.ok (fresh config.retryPolicy config.ioTimeout) = .ok collaborators ↔ _
      rw [Except.ok.injEq, eq_comm]
      exact ⟨fun same => ⟨database, broker, same⟩, fun all => all.2.2⟩
    · rw [if_pos broker]
      change Except.error _ = Except.ok collaborators ↔ _
      exact ⟨fun impossible => (by cases impossible), fun all => absurd all.2.1 broker⟩
  · rw [if_pos database]
    change Except.error _ = Except.ok collaborators ↔ _
    exact ⟨fun impossible => (by cases impossible), fun all => absurd all.1 database⟩

end Collaborators

end ReminderDispatch
