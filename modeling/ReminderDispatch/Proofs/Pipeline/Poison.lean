import ReminderDispatch.Proofs.Broker.Attempts
import ReminderDispatch.Proofs.Pipeline.Routing
import ReminderDispatch.Proofs.Pipeline.Workshop

/-!
# Messages of any content

Anything may be published under any type. The process settles whatever it takes from the broker by
one attempt: the task is acknowledged if it carries work that can be done, and it is given up
otherwise, without any effect. No message makes the process try again. All this is so as long as
notifications can be numbered.
-/

namespace ReminderDispatch

variable {shared : Collaborators} {envelope : Envelope} {limit : Duration} {work : TaskPayload}

namespace Collaborators

/-- Work on a leased task, with every call answered in time, and report the result. -/
def process (shared : Collaborators) (reading : Reading) (time : Moment) (delivery : Delivery) :
    Except BrokerError (Settlement × Collaborators) := do
  let (result, after) := (shared.dispatcher.dispatch delivery.envelope).run (atOnce reading) shared
  let (settlement, _, exchange) ← after.exchange.settle time delivery result
  .ok (settlement, { after with exchange := exchange })

/-! ## Settlement -/

variable {delivery : Delivery} {record : TaskRecord}

/-- A task whose work can be done is acknowledged while numbers are left. -/
theorem CanDo.process_eq (canDo : shared.CanDo delivery.envelope work)
    (left : shared.notifications.lastId ≠ .maxValue) (wired : shared.dispatcher = .wired limit)
    (found : shared.exchange.broker.find? delivery.id = some record) (reading : Reading)
    (time : Moment) :
    ∃ after, shared.process reading time delivery = .ok (.acked, after) ∧
      after.exchange.broker = shared.exchange.broker.acknowledged delivery.id := by
  obtain ⟨done, ran, performed⟩ := canDo.run_eq left wired reading
  have foundLater : done.exchange.broker.find? delivery.id = some record := by
    rw [performed.exchange_eq]
    exact found
  refine ⟨{ done with exchange :=
    { done.exchange with broker := done.exchange.broker.acknowledged delivery.id } }, ?_, ?_⟩
  · unfold process
    simp only [ran, Exchange.settle_ok foundLater]
    rfl
  · rw [performed.exchange_eq]

/-- A task without work that can be done is given up. -/
theorem process_eq_deadLettered (cannot : ∀ work, ¬ shared.CanDo delivery.envelope work)
    (wired : shared.dispatcher = .wired limit)
    (found : shared.exchange.broker.find? delivery.id = some record) (reading : Reading)
    (time : Moment) :
    ∃ error, shared.process reading time delivery = .ok (.deadLettered, { shared with
      exchange := { shared.exchange with
        broker := shared.exchange.broker.givenUp ⟨delivery.envelope, record.attempts, error⟩ } })
      := by
  obtain ⟨failure, ran, permanent⟩ := run_eq_error cannot wired reading
  have last : shared.exchange.broker.IsLast record failure.kind := by
    left
    rw [permanent]
    rfl
  have settled : shared.exchange.broker.fail time delivery failure.message failure.kind =
      .ok (.deadLettered, shared.exchange.broker.givenUp
        ⟨delivery.envelope, record.attempts, failure.message⟩) :=
    Broker.fail_eq_dead found last
  refine ⟨failure.message, ?_⟩
  unfold process
  simp only [ran, Exchange.settle, Broker.settle, settled]
  rfl

end Collaborators

/-! ## First attempts -/

/-- A new task that an open broker has handed out once is in hand as it was published, by its first
attempt. -/
theorem Session.first_delivery {policy : RetryPolicy} {begin : Moment} {session working : Session}
    {delivery : Delivery} (run : (Session.start policy begin).Leads session)
    (isOpen : session.broker.closed = false) (isNew : envelope.id ∉ session.accepted.map (·.id))
    (later : (session.perform (.publish envelope)).Leads working)
    (inHand : delivery ∈ working.held) (same : delivery.id = envelope.id)
    (first : leasesIn working.history envelope.id = 1) :
    delivery = ⟨envelope, 1⟩ ∧
      ∃ record, working.broker.find? delivery.id = some record ∧ record.attempts = 1 := by
  have published : (Session.start policy begin).Leads (session.perform (.publish envelope)) :=
    run.tail ⟨.publish envelope, isNew, rfl⟩
  have reached : (Session.start policy begin).Leads working := published.trans later
  have sound := Session.leads_sound reached
  have accepted := Session.mem_accepted_of_published published isOpen later
  have asPublished : delivery.envelope = envelope :=
    Session.envelope_eq_of_held reached accepted inHand same
  have attempt : delivery.attempt = 1 := by
    rw [((Session.leads_counted reached).held sound inHand).1, same]
    exact first
  obtain ⟨record, found, -⟩ := sound.serving.running delivery inHand
  refine ⟨?_, record, found, (sound.attempt_eq inHand found).trans attempt⟩
  rw [← asPublished, ← attempt]

/-- Whatever is published, under any type and with any bytes, is settled by its first attempt.

The task is acknowledged exactly if its body can be read under its type, the work is valid and the
template of a mail is known. Otherwise it is given up after one attempt, as it was published, and no
notification was created and no mail was sent. In either case the broker does not hold the task any
more, and no attempt was scheduled. That a number is left for a notification is the one thing that
the process needs. -/
theorem first_attempt_settles {config : Config} {start : Collaborators}
    (connected : Collaborators.connect config = .ok start) {policy : RetryPolicy} {begin : Moment}
    {session working : Session} {envelope : Envelope} {delivery : Delivery}
    (run : (Session.start policy begin).Leads session) (isOpen : session.broker.closed = false)
    (isNew : envelope.id ∉ session.accepted.map (·.id))
    (later : (session.perform (.publish envelope)).Leads working)
    (inHand : delivery ∈ working.held) (same : delivery.id = envelope.id)
    (first : leasesIn working.history envelope.id = 1) {shared : Collaborators}
    (inUse : shared.exchange.broker = working.broker)
    (wired : shared.dispatcher = start.dispatcher)
    (known : shared.outbox.templates = start.outbox.templates)
    (left : shared.notifications.lastId ≠ .maxValue) (reading : Reading) (time : Moment) :
    delivery = ⟨envelope, 1⟩ ∧
      ∃ settlement after, shared.process reading time delivery = .ok (settlement, after) ∧
        (settlement = .acked ↔ ∃ kind body, envelope.type = PayloadKind.type kind ∧
          Wire.decode kind envelope.body = .ok body ∧ (kind.work body).IsDoable) ∧
        (settlement ≠ .acked → settlement = .deadLettered ∧
          (∃ error, after.exchange.broker.deadLetters =
            shared.exchange.broker.deadLetters ++ [⟨envelope, 1, error⟩]) ∧
          after.notifications = shared.notifications ∧ after.outbox = shared.outbox) ∧
        after.exchange.broker.find? envelope.id = none ∧
        after.exchange.broker.scheduled = shared.exchange.broker.scheduled := by
  obtain ⟨-, -, rfl⟩ := Collaborators.connect_eq_ok.1 connected
  obtain ⟨isFirst, record, found, attempts⟩ :=
    Session.first_delivery run isOpen isNew later inHand same first
  have asPublished : delivery.envelope = envelope := congrArg (·.envelope) isFirst
  rw [← inUse] at found
  have gone (broker : Broker) : (broker.drop envelope.id).find? envelope.id = none := by
    rw [Broker.find?_drop, Function.update_self]
  refine ⟨isFirst, ?_⟩
  by_cases can : ∃ work, shared.CanDo envelope work
  · obtain ⟨work, canDo⟩ := can
    have doable : work.IsDoable := (Collaborators.isDoable_iff known).2 canDo.2
    rw [← asPublished] at canDo
    obtain ⟨after, processed, acknowledged⟩ := canDo.process_eq left wired found reading time
    refine ⟨.acked, after, processed, iff_of_true rfl ?_, fun other => absurd rfl other, ?_, ?_⟩
    · obtain ⟨kind, body, type, decoded, rfl⟩ := Envelope.work?_eq_some canDo.1
      rw [asPublished] at type decoded
      exact ⟨kind, body, type, decoded, doable⟩
    · rw [acknowledged, same]
      exact gone shared.exchange.broker
    · rw [acknowledged]
      rfl
  · have cannot : ∀ work, ¬ shared.CanDo delivery.envelope work := by
      rw [asPublished]
      exact not_exists.1 can
    obtain ⟨error, processed⟩ :=
      Collaborators.process_eq_deadLettered cannot wired found reading time
    refine ⟨.deadLettered, _, processed, iff_of_false (by simp) ?_, fun _ => ⟨rfl, ?_, rfl, rfl⟩,
      ?_, rfl⟩
    · rintro ⟨kind, body, type, decoded, doable⟩
      have carries : envelope.work? = some (kind.work body) := Envelope.work?_eq type decoded
      exact can ⟨_, carries, (Collaborators.isDoable_iff known).1 doable⟩
    · rw [asPublished, attempts]
      exact ⟨error, rfl⟩
    · rw [asPublished]
      exact gone _

/-- A mail task without a body and a notification are published and taken. -/
def emptyAndNotice : Session :=
  (Session.start .default 0).run [.publish (Session.mail 2),
    .publish (TaskPayload.notification oddNotice).envelope, .lease, .lease]

/-- The process with both of them in hand. -/
def emptyAndNoticeTaken : Collaborators :=
  { Collaborators.fresh .default (.ofSeconds 5) with exchange := ⟨emptyAndNotice.broker, .silent⟩ }

/-- The task without a body is given up, and the notification is acknowledged. -/
theorem first_attempt_settles_empty :
    emptyAndNotice.held =
        [⟨Session.mail 2, 1⟩, ⟨(TaskPayload.notification oddNotice).envelope, 1⟩] ∧
      ∀ reading time,
        (∃ after error,
          emptyAndNoticeTaken.process reading time ⟨Session.mail 2, 1⟩ =
            .ok (.deadLettered, after) ∧
          after.exchange.broker.deadLetters = [⟨Session.mail 2, 1, error⟩] ∧
          after.notifications = .empty ∧ after.outbox.sent = []) ∧
        ∃ after, emptyAndNoticeTaken.process reading time
          ⟨(TaskPayload.notification oddNotice).envelope, 1⟩ = .ok (.acked, after) := by
  have held : emptyAndNotice.held =
      [⟨Session.mail 2, 1⟩, ⟨(TaskPayload.notification oddNotice).envelope, 1⟩] := rfl
  have connected : Collaborators.connect .default =
      .ok (.fresh Config.default.retryPolicy Config.default.ioTimeout) :=
    Collaborators.connect_eq_ok.2 ⟨rfl, rfl, rfl⟩
  have begins : (Session.start .default 0).Leads (Session.start .default 0) := .refl
  have oneIn : (Session.start .default 0).Leads
      ((Session.start .default 0).perform (.publish (Session.mail 2))) :=
    begins.tail ⟨.publish (Session.mail 2), by decide, rfl⟩
  have afterFirst : ((Session.start .default 0).perform (.publish (Session.mail 2))).Leads
      emptyAndNotice := Session.machine.leads_run _
    [.publish (TaskPayload.notification oddNotice).envelope, .lease, .lease] (by decide)
  have afterSecond : (((Session.start .default 0).perform (.publish (Session.mail 2))).perform
      (.publish (TaskPayload.notification oddNotice).envelope)).Leads emptyAndNotice :=
    Session.machine.leads_run _ [.lease, .lease] (by decide)
  refine ⟨held, fun reading time => ⟨?_, ?_⟩⟩
  · have inHand : ⟨Session.mail 2, 1⟩ ∈ emptyAndNotice.held := by simp [held]
    have once : leasesIn emptyAndNotice.history (Session.mail 2).id = 1 := by decide
    have inUse : emptyAndNoticeTaken.exchange.broker = emptyAndNotice.broker := rfl
    obtain ⟨-, settlement, after, processed, acked_iff, givenUp, -⟩ :=
      first_attempt_settles connected begins rfl (by decide) afterFirst inHand rfl once inUse rfl
        rfl (by decide) reading time
    have notAcked : settlement ≠ .acked := fun acked => by
      obtain ⟨kind, body, -, decoded, -⟩ := acked_iff.1 acked
      cases kind <;> contradiction
    obtain ⟨rfl, ⟨error, letters⟩, notifications, outbox⟩ := givenUp notAcked
    exact ⟨after, error, processed, letters, notifications, congrArg (·.sent) outbox⟩
  · have inHand : ⟨(TaskPayload.notification oddNotice).envelope, 1⟩ ∈ emptyAndNotice.held := by
      simp [held]
    have once : leasesIn emptyAndNotice.history
        (TaskPayload.notification oddNotice).envelope.id = 1 := by decide
    have inUse : emptyAndNoticeTaken.exchange.broker = emptyAndNotice.broker := rfl
    obtain ⟨-, settlement, after, processed, acked_iff, -⟩ :=
      first_attempt_settles connected oneIn rfl (by decide) afterSecond inHand rfl once inUse rfl
        rfl (by decide) reading time
    have valid : oddNotice.validate = .ok () := by decide
    have acked : settlement = .acked := acked_iff.2
      ⟨.notification, oddNotice, rfl, Wire.decode_encode (.notification oddNotice), valid⟩
    exact ⟨after, acked ▸ processed⟩

end ReminderDispatch
