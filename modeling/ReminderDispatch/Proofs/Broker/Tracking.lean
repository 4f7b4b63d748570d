import ReminderDispatch.Broker.Settlement
import ReminderDispatch.Proofs.Broker.Conservation

/-!
# Brokers in use

Those who use a broker see its answers, and do not see a session. A broker is followed through its
use by what its users can know: the tasks that it accepted, those that were acknowledged, and the
deliveries in their hands, in any order. Behind each broker in use there is a session that knows
the same, so that whatever holds in all sessions holds for the broker.
-/

namespace ReminderDispatch

/-- The task of a delivery if its settlement is an acknowledgement. -/
def Settlement.acknowledges (delivery : Delivery) : Settlement → List Envelope
  | .acked => [delivery.envelope]
  | .retryScheduled _ | .deadLettered => []

namespace Broker

open scoped List

/-- A broker in use, with the deliveries in the hands of its users, the tasks that it accepted and
those that were acknowledged. -/
def Tracked (broker : Broker) (now : Moment) (hands : List Delivery)
    (accepted acked : List Envelope) : Prop :=
  ∃ (policy : RetryPolicy) (begin : Moment) (session : Session),
    (Session.start policy begin).Leads session ∧ session.broker = broker ∧ session.now = now ∧
      session.held ~ hands ∧ session.accepted = accepted ∧ session.acked = acked

namespace Tracked

variable {broker after : Broker} {now : Moment} {hands others : List Delivery}
  {accepted acked : List Envelope} {envelope : Envelope} {delivery : Delivery}

/-- A new broker has not accepted any task. -/
theorem new (policy : RetryPolicy) (now : Moment) : (Broker.new policy).Tracked now [] [] [] :=
  ⟨policy, now, .start policy now, .refl, rfl, rfl, .refl _, rfl, rfl⟩

/-- It does not matter who has which delivery in hand. -/
theorem perm (tracked : broker.Tracked now hands accepted acked) (perm : hands ~ others) :
    broker.Tracked now others accepted acked := by
  obtain ⟨policy, begin, session, run, atBroker, atTime, held, known, done⟩ := tracked
  exact ⟨policy, begin, session, run, atBroker, atTime, held.trans perm, known, done⟩

/-! ## What holds for a broker in use -/

/-- The deliveries in hand are for different running tasks. -/
theorem serving (tracked : broker.Tracked now hands accepted acked) : broker.Serving hands := by
  obtain ⟨policy, begin, session, run, rfl, rfl, held, rfl, rfl⟩ := tracked
  exact (Session.leads_sound run).serving.perm held

/-- Every accepted task is held, was acknowledged or was given up. -/
theorem places (tracked : broker.Tracked now hands accepted acked) :
    broker.envelopes ++ acked ++ broker.deadLetters.map (·.envelope) ~ accepted := by
  obtain ⟨policy, begin, session, run, rfl, rfl, -, rfl, rfl⟩ := tracked
  exact (Session.leads_accounted run).places

/-- No identifier was accepted twice. -/
theorem accepted_nodup (tracked : broker.Tracked now hands accepted acked) :
    (accepted.map (·.id)).Nodup := by
  obtain ⟨policy, begin, session, run, rfl, rfl, -, rfl, rfl⟩ := tracked
  exact (Session.leads_accounted run).accepted_nodup

/-- The broker has counted the acknowledged tasks. -/
theorem succeeded_eq (tracked : broker.Tracked now hands accepted acked) :
    broker.succeeded = acked.length := by
  obtain ⟨policy, begin, session, run, rfl, rfl, -, rfl, rfl⟩ := tracked
  exact (Session.leads_accounted run).succeeded_eq

/-- No task is in two places. -/
theorem places_nodup (tracked : broker.Tracked now hands accepted acked) :
    ((broker.envelopes ++ acked ++ broker.deadLetters.map (·.envelope)).map (·.id)).Nodup :=
  (tracked.places.map _).nodup_iff.2 tracked.accepted_nodup

/-! ## Use -/

/-- A new task is accepted. -/
theorem publish (tracked : broker.Tracked now hands accepted acked)
    (isNew : envelope.id ∉ accepted.map (·.id))
    (published : broker.publish now envelope = (.ok (), after)) :
    after.Tracked now hands (accepted ++ [envelope]) acked := by
  obtain ⟨policy, begin, session, run, rfl, rfl, held, rfl, rfl⟩ := tracked
  have performed : session.perform (.publish envelope) =
      { session with broker := after }.record (.accepted envelope) := by
    simp only [Session.perform, published]
  refine ⟨policy, begin, _, run.tail ⟨.publish envelope, isNew, performed⟩, rfl, rfl, held, ?_, ?_⟩
  · exact Session.accepted_record _ _
  · exact (Session.acked_record _ _).trans (List.append_nil _)

/-- A look for work may find a task. -/
theorem lease (tracked : broker.Tracked now hands accepted acked)
    (leased : broker.lease now = (.leased delivery, after)) :
    after.Tracked now (delivery :: hands) accepted acked := by
  obtain ⟨policy, begin, session, run, rfl, rfl, held, rfl, rfl⟩ := tracked
  have performed : session.perform .lease =
      { session with broker := after, held := session.held ++ [delivery] }.record
        (.leased delivery) := by
    simp only [Session.perform, leased]
  refine ⟨policy, begin, _, run.tail ⟨.lease, trivial, performed⟩, rfl, rfl, ?_, ?_, ?_⟩
  · exact (List.perm_append_singleton _ _).trans (held.cons _)
  · exact Session.accepted_record_other _ rfl
  · exact (Session.acked_record _ _).trans (List.append_nil _)

/-- A look for work may find nothing. -/
theorem look (tracked : broker.Tracked now hands accepted acked) {found : LeaseOutcome}
    (looked : broker.lease now = (found, after)) (nothing : ∀ delivery, found ≠ .leased delivery) :
    after.Tracked now hands accepted acked := by
  obtain ⟨policy, begin, session, run, rfl, rfl, held, rfl, rfl⟩ := tracked
  have performed : session.perform .lease = { session with broker := after } := by
    cases found with
    | leased delivery => exact absurd rfl (nothing delivery)
    | nothing due => simp only [Session.perform, looked]
    | closed => simp only [Session.perform, looked]
  exact ⟨policy, begin, _, run.tail ⟨.lease, trivial, performed⟩, rfl, rfl, held, rfl, rfl⟩

/-- A delivery in hand is settled, and the task is acknowledged if it was done. -/
theorem settle (tracked : broker.Tracked now (delivery :: others) accepted acked)
    (result : Except DispatchError Unit) :
    ∃ settlement after, broker.settle now delivery result = .ok (settlement, after) ∧
      after.Tracked now others accepted (acked ++ settlement.acknowledges delivery) ∧
      (settlement = .acked ↔ result = .ok ()) := by
  have inHand : delivery ∈ delivery :: others := List.mem_cons_self
  obtain ⟨record, stored, -⟩ := tracked.serving.running delivery inHand
  obtain ⟨policy, begin, session, run, rfl, rfl, held, rfl, rfl⟩ := tracked
  have allowed : delivery ∈ session.held := held.mem_iff.2 inHand
  have left : session.held.erase delivery ~ others := by
    have erased := held.erase delivery
    rwa [List.erase_cons_head] at erased
  rcases result with failure | ⟨⟩
  · obtain ⟨verdict, after, failed⟩ :=
      exists_fail stored session.now failure.message failure.kind
    have settled : session.broker.settle session.now delivery (.error failure) =
        .ok (.ofFailure verdict, after) := by
      simp only [Broker.settle, failed]
      rfl
    have performed : session.perform (.fail delivery failure.message failure.kind) =
        ({ session with broker := after }.giveBack delivery).record
          (.failed delivery failure.message failure.kind verdict) := by
      simp only [Session.perform, failed]
    refine ⟨_, after, settled, ?_, by cases verdict <;> simp [Settlement.ofFailure]⟩
    have step : session.Step _ := ⟨.fail delivery _ _, allowed, performed⟩
    refine ⟨policy, begin, _, run.tail step, rfl, rfl, left, ?_, ?_⟩
    · exact Session.accepted_record_other _ rfl
    · refine (Session.acked_record _ _).trans ?_
      cases verdict <;> rfl
  · have settled := settle_ok stored session.now
    have performed : session.perform (.ack delivery) =
        ({ session with broker := session.broker.acknowledged delivery.id }.giveBack
          delivery).record (.acked delivery) := by
      simp only [Session.perform, ack_eq stored]
    refine ⟨.acked, _, settled, ?_, by simp⟩
    have step : session.Step _ := ⟨.ack delivery, allowed, performed⟩
    refine ⟨policy, begin, _, run.tail step, rfl, rfl, left, ?_, ?_⟩
    · exact Session.accepted_record_other _ rfl
    · exact Session.acked_record _ _

/-- The broker is closed. -/
theorem close (tracked : broker.Tracked now hands accepted acked) :
    broker.close.Tracked now hands accepted acked := by
  obtain ⟨policy, begin, session, run, rfl, rfl, held, rfl, rfl⟩ := tracked
  exact ⟨policy, begin, _, run.tail ⟨.close, trivial, rfl⟩, rfl, rfl, held, rfl, rfl⟩

/-- Time passes. -/
theorem advance (tracked : broker.Tracked now hands accepted acked) (span : Duration) :
    broker.Tracked (now + span.nanos) hands accepted acked := by
  obtain ⟨policy, begin, session, run, rfl, rfl, held, rfl, rfl⟩ := tracked
  exact ⟨policy, begin, _, run.tail ⟨.advance span, trivial, rfl⟩, rfl, rfl, held, rfl, rfl⟩

end Tracked

end Broker

end ReminderDispatch
