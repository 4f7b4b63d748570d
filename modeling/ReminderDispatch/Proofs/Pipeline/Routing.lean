import Mathlib.Data.List.Nodup
import ReminderDispatch.Proofs.Pipeline.Dispatch
import ReminderDispatch.Proofs.Scan.Calls

/-!
# Routing of published work

Whoever publishes work and whoever does it agree on its body. The producer writes the inner value of
the work with the codec of its kind and publishes it under the type of this kind; a dispatcher with
handlers for both kinds gives exactly this value to the handler of the kind. The body can not be
taken for work of the other kind.
-/

namespace ReminderDispatch

/-- Each kind of work has its own type. -/
theorem PayloadKind.type_injective {kind other : PayloadKind} (same : kind.type = other.type) :
    kind = other := by
  have found := ofType?_type kind
  rw [same, ofType?_type other] at found
  exact (Option.some.inj found).symm

/-- A handler of a registry is found under its type. -/
theorem Registry.get?_of_mem {κ : Type} [WorkKind κ] {registry : Registry κ} {handler : Handler κ}
    (member : handler ∈ registry.handlers) : registry.get? handler.type = some handler := by
  unfold get?
  cases found : registry.handlers.find? fun other => other.type = handler.type with
  | none =>
    have notFound := List.find?_eq_none.1 found handler member
    exact absurd (decide_eq_true rfl) notFound
  | some other =>
    have isOther : other ∈ registry.handlers := List.mem_of_find?_eq_some found
    have sameType : other.type = handler.type := by simpa using List.find?_some found
    rw [List.inj_on_of_nodup_map registry.distinct isOther member sameType]

/-- Work in the hands of the handler of its kind. -/
def TaskPayload.handledBy (work : TaskPayload)
    (onMail : EmailDelivery → Program (Except HandlerError Unit))
    (onNotification : NotificationDelivery → Program (Except HandlerError Unit)) :
    Program (Except HandlerError Unit) :=
  match work with
  | .email mail => onMail mail
  | .notification delivery => onNotification delivery

/-- The inner value of work, written by the codec of its kind. -/
def TaskPayload.written : TaskPayload → List UInt8
  | .email mail => Wire.email.codec.write mail
  | .notification delivery => Wire.notification.codec.write delivery

/-- Producers and consumers agree on the wire format. Work of any content is published with its
inner value as the body; a dispatcher with handlers for both kinds hands exactly this value to the
handler of its kind, and to no other; and the body can not be read as the other kind. -/
theorem Dispatcher.dispatch_published {dispatcher : Dispatcher}
    {onMail : EmailDelivery → Program (Except HandlerError Unit)}
    {onNotification : NotificationDelivery → Program (Except HandlerError Unit)}
    (mails : ⟨.email, onMail⟩ ∈ dispatcher.registry.handlers)
    (notifications : ⟨.notification, onNotification⟩ ∈ dispatcher.registry.handlers)
    (work : TaskPayload) (envelope : Envelope) (type : envelope.type = work.type)
    (body : envelope.body = work.written) :
    Wire.encode work = work.written ∧
      (∀ limit, enqueue limit work = .ask (.publish work.type work.written) (some limit)
        fun reply => .done (heard limit reply)) ∧
      dispatcher.dispatch envelope =
        (work.handledBy onMail onNotification >>= fun outcome =>
          pure (outcome.mapError .handler)) ∧
      ∀ kind, kind ≠ work.kind →
        ∃ refusal, Wire.decode kind work.written = .error (.decode kind.type refusal) := by
  have encoded : Wire.encode work = work.written := by cases work <;> rfl
  have decoded : Wire.decode work.kind envelope.body = .ok work.body := by
    rw [body, ← encoded]
    exact Wire.decode_encode work
  refine ⟨encoded, fun limit => ?_, ?_, fun kind other => ?_⟩
  · cases work <;> exact enqueue_eq limit _
  · unfold dispatch
    rw [type]
    cases work with
    | email mail =>
      have found : dispatcher.registry.get? (TaskPayload.email mail).type =
          some ⟨.email, onMail⟩ := Registry.get?_of_mem mails
      rw [found]
      exact Handler.handleBody_eq ⟨.email, onMail⟩ decoded
    | notification delivery =>
      have found : dispatcher.registry.get? (TaskPayload.notification delivery).type =
          some ⟨.notification, onNotification⟩ := Registry.get?_of_mem notifications
      rw [found]
      exact Handler.handleBody_eq ⟨.notification, onNotification⟩ decoded
  · rw [← encoded]
    exact ⟨_, Wire.decode_other work other⟩

/-- A notification for the user with the least number, with quotes, control characters and a
character beyond the basic plane. -/
def oddNotice : NotificationDelivery :=
  ⟨⟨Int64.minValue⟩, "\"\\\u0000\u001f\t", "Grüße 🎁", "alert"⟩

/-- A mail whose variables have such characters as well. -/
def oddMail : EmailDelivery :=
  ⟨"ada@example.com", "birthday_mail", "🎂\r\n", .ofList [("name", "\u007f"), ("", "\"")]⟩

/-- An envelope in which work was published. -/
def TaskPayload.envelope (work : TaskPayload) : Envelope :=
  ⟨.ofNat 1, work.type, work.written, .midnight .epoch⟩

/-- The dispatcher of the process hands both to their handlers, and neither body can be read as the
other kind. -/
theorem Dispatcher.dispatch_published_odd :
    Handler.email (.ofSeconds 5) ∈ (wired (.ofSeconds 5)).registry.handlers ∧
      Handler.notification (.ofSeconds 5) ∈ (wired (.ofSeconds 5)).registry.handlers ∧
      (wired (.ofSeconds 5)).dispatch (TaskPayload.email oddMail).envelope =
        (Handler.sendMail (.ofSeconds 5) oddMail >>= fun outcome =>
          pure (outcome.mapError .handler)) ∧
      (wired (.ofSeconds 5)).dispatch (TaskPayload.notification oddNotice).envelope =
        (Handler.createNotification (.ofSeconds 5) oddNotice >>= fun outcome =>
          pure (outcome.mapError .handler)) ∧
      (∃ refusal, Wire.decode .notification (TaskPayload.email oddMail).written =
        .error (.decode .notification refusal)) ∧
      ∃ refusal, Wire.decode .email (TaskPayload.notification oddNotice).written =
        .error (.decode .mail refusal) := by
  have mails : Handler.email (.ofSeconds 5) ∈ (wired (.ofSeconds 5)).registry.handlers :=
    List.mem_cons_of_mem _ List.mem_cons_self
  have notifications : Handler.notification (.ofSeconds 5) ∈
      (wired (.ofSeconds 5)).registry.handlers := List.mem_cons_self
  have mail := dispatch_published mails notifications (.email oddMail)
    (TaskPayload.email oddMail).envelope rfl rfl
  have notice := dispatch_published mails notifications (.notification oddNotice)
    (TaskPayload.notification oddNotice).envelope rfl rfl
  exact ⟨mails, notifications, mail.2.2.1, notice.2.2.1, mail.2.2.2 .notification (by decide),
    notice.2.2.2 .email (by decide)⟩

end ReminderDispatch
