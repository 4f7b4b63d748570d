import ReminderDispatch.Proofs.Broker.Deliveries

/-!
# Reports on deliveries in hand

The report on a delivery in hand changes the record of its task and, by the settlement that comes
back, one of the number of successes, the schedule and the letters. It leaves the records of all
other tasks, the line and whatever else was in the schedule and among the letters.
-/

namespace ReminderDispatch

namespace Broker

/-- Nothing has changed but what belongs to one task. -/
structure Spares (before after : Broker) (id : TaskId) : Prop where
  /-- The records of the other tasks are the same. -/
  find?_eq : ∀ other, other ≠ id → after.find? other = before.find? other
  /-- The line is the same. -/
  ready_eq : after.ready = before.ready
  /-- The policy is the same. -/
  policy_eq : after.policy = before.policy
  /-- The broker is closed if it was. -/
  closed_eq : after.closed = before.closed

/-- A task has succeeded. -/
structure Succeeds (before after : Broker) (delivery : Delivery) : Prop where
  /-- The record of the task is gone. -/
  find?_eq : after.find? delivery.id = none
  /-- One more task has succeeded. -/
  succeeded_eq : after.succeeded = before.succeeded + 1
  /-- The schedule is the same. -/
  scheduled_eq : after.scheduled = before.scheduled
  /-- The letters are the same. -/
  deadLetters_eq : after.deadLetters = before.deadLetters

/-- Another attempt of a task is scheduled. -/
structure Reschedules (before after : Broker) (now : Moment) (delivery : Delivery)
    (delay : Duration) (error : String) : Prop where
  /-- The record of the task waits for the attempt and has the error. -/
  record : ∃ record, after.find? delivery.id = some record ∧
    record.envelope = delivery.envelope ∧ record.attempts = delivery.attempt ∧
    record.state = .retryScheduled ∧ record.nextRunAt = some (now + delay.nanos) ∧
    record.lastError = some error
  /-- The attempt has its place in the schedule, whose other entries are the same. -/
  scheduled_eq : ∃ front back, before.scheduled = front ++ back ∧
    after.scheduled = front ++ ⟨now + delay.nanos, delivery.id⟩ :: back
  /-- No more tasks have succeeded. -/
  succeeded_eq : after.succeeded = before.succeeded
  /-- The letters are the same. -/
  deadLetters_eq : after.deadLetters = before.deadLetters

/-- A task is given up. -/
structure GivesUp (before after : Broker) (delivery : Delivery) (error : String) : Prop where
  /-- The record of the task is gone. -/
  find?_eq : after.find? delivery.id = none
  /-- The last letter has the task, the attempt and the error; the letters before it are the
  same. -/
  deadLetters_eq : after.deadLetters =
    before.deadLetters ++ [⟨delivery.envelope, delivery.attempt, error⟩]
  /-- No more tasks have succeeded. -/
  succeeded_eq : after.succeeded = before.succeeded
  /-- The schedule is the same. -/
  scheduled_eq : after.scheduled = before.scheduled

variable {broker : Broker} {delivery : Delivery} {record : TaskRecord}

/-- Dropping the record of a task spares the others. -/
theorem find?_drop_other (broker : Broker) {id other : TaskId} (different : other ≠ id) :
    (broker.drop id).find? other = broker.find? other := by
  rw [find?_drop, Function.update_of_ne different]

/-- A task that is dropped has no record. -/
theorem find?_drop_self (broker : Broker) (id : TaskId) : (broker.drop id).find? id = none := by
  rw [find?_drop, Function.update_self]

/-- A task that is acknowledged has succeeded. -/
theorem acknowledged_succeeds (broker : Broker) (delivery : Delivery) :
    broker.Succeeds (broker.acknowledged delivery.id) delivery ∧
      broker.Spares (broker.acknowledged delivery.id) delivery.id :=
  ⟨⟨find?_drop_self broker delivery.id, rfl, rfl, rfl⟩,
    ⟨fun _ => find?_drop_other broker, rfl, rfl, rfl⟩⟩

/-- A task is given up with a letter. -/
theorem givenUp_givesUp (broker : Broker) (delivery : Delivery) (error : String) :
    broker.GivesUp (broker.givenUp ⟨delivery.envelope, delivery.attempt, error⟩) delivery error ∧
      broker.Spares (broker.givenUp ⟨delivery.envelope, delivery.attempt, error⟩) delivery.id :=
  ⟨⟨find?_drop_self broker delivery.id, rfl, rfl, rfl⟩,
    ⟨fun _ => find?_drop_other broker, rfl, rfl, rfl⟩⟩

/-- A task in hand that is postponed waits for its next attempt. -/
theorem postponed_reschedules (found : broker.find? delivery.id = some record)
    (isDelivery : record.delivery = delivery) (now : Moment) (error : String) :
    broker.Reschedules (broker.postponed now (broker.nextAttempt now record) error) now delivery
        (broker.policy.nextDelay delivery.attempt) error ∧
      broker.Spares (broker.postponed now (broker.nextAttempt now record) error) delivery.id := by
  subst isDelivery
  have next : broker.nextAttempt now record =
      ⟨now + (broker.policy.nextDelay record.attempts).nanos, record.id⟩ := rfl
  have lookup : (broker.postponed now (broker.nextAttempt now record) error).find? =
      Function.update broker.find? record.id (some (record.scheduleRetry now
        (now + (broker.policy.nextDelay record.attempts).nanos) error)) :=
    find?_update_of_found (scheduleRetry_envelope now _ error) found
  obtain ⟨front, back, split, placed⟩ :=
    schedule_between (broker.nextAttempt now record) broker.scheduled
  refine ⟨⟨⟨record.scheduleRetry now _ error, ?_, rfl, rfl, rfl, rfl, rfl⟩,
    ⟨front, back, split, placed⟩, rfl, rfl⟩, ⟨fun other different => ?_, rfl, rfl, rfl⟩⟩
  · exact (congrFun lookup record.id).trans (Function.update_self ..)
  · exact (congrFun lookup other).trans (Function.update_of_ne different ..)

end Broker

/-- A failure is followed by another attempt when it is transient and attempts are left. -/
def RetryPolicy.TriesAgain (policy : RetryPolicy) (delivery : Delivery) (failure : DispatchError) :
    Prop := failure.kind.allowsRetry = true ∧ delivery.attempt < policy.maxAttempts

instance (policy : RetryPolicy) (delivery : Delivery) (failure : DispatchError) :
    Decidable (policy.TriesAgain delivery failure) := inferInstanceAs (Decidable (_ ∧ _))

namespace Exchange

open Broker

/-- What a report on a delivery in hand comes to: what is said about it, and what has changed. -/
structure Reports (policy : RetryPolicy) (now : Moment) (delivery : Delivery)
    (result : Except DispatchError Unit) (before : Exchange) (settlement : Settlement)
    (woken : Option Nat) (after : Exchange) : Prop where
  /-- The task is done exactly if the work was. -/
  acked_iff : settlement = .acked ↔ result = .ok ()
  /-- Another attempt follows exactly a transient failure with attempts left, after the delay for
  this attempt. -/
  retried_iff : ∀ delay, settlement = .retryScheduled delay ↔ ∃ failure, result = .error failure ∧
    policy.TriesAgain delivery failure ∧ delay = policy.nextDelay delivery.attempt
  /-- The task is given up exactly after all other failures. -/
  dead_iff : settlement = .deadLettered ↔ ∃ failure, result = .error failure ∧
    ¬ policy.TriesAgain delivery failure
  /-- A task that is done has succeeded. -/
  succeeds : settlement = .acked → before.broker.Succeeds after.broker delivery
  /-- Another attempt that follows is scheduled, with the error in words. -/
  reschedules : ∀ delay failure, settlement = .retryScheduled delay → result = .error failure →
    before.broker.Reschedules after.broker now delivery delay failure.message
  /-- A task that is given up leaves a letter, with the error in words. -/
  givesUp : ∀ failure, settlement = .deadLettered → result = .error failure →
    before.broker.GivesUp after.broker delivery failure.message
  /-- Nothing else has changed at the broker. -/
  spares : before.broker.Spares after.broker delivery.id
  /-- The bell rings once if another attempt is scheduled, and not at all otherwise. -/
  bell_eq : (woken, after.bell) =
    match settlement with
    | .retryScheduled _ => before.bell.ring
    | .acked | .deadLettered => (none, before.bell)

variable {exchange after : Exchange} {delivery : Delivery} {policy : RetryPolicy} {now : Moment}
  {settlement : Settlement} {woken : Option Nat} {failure : DispatchError}

/-- A failed attempt is followed by another one exactly if the failure allows it. -/
theorem Reports.retries_iff
    (reports : Reports policy now delivery (.error failure) exchange settlement woken after) :
    (∃ delay, settlement = .retryScheduled delay) ↔ policy.TriesAgain delivery failure := by
  constructor
  · rintro ⟨delay, retried⟩
    obtain ⟨other, isFailure, again, -⟩ := (reports.retried_iff delay).1 retried
    rwa [Except.error.inj isFailure]
  · intro again
    exact ⟨_, (reports.retried_iff _).2 ⟨failure, rfl, again, rfl⟩⟩

/-- A task whose failure allows no other attempt is given up with a letter. -/
theorem Reports.dies
    (reports : Reports policy now delivery (.error failure) exchange settlement woken after)
    (last : ¬ policy.TriesAgain delivery failure) :
    settlement = .deadLettered ∧ exchange.broker.GivesUp after.broker delivery failure.message := by
  have dead : settlement = .deadLettered := reports.dead_iff.2 ⟨failure, rfl, last⟩
  exact ⟨dead, reports.givesUp failure dead rfl⟩

/-- Work that is done is reported. -/
theorem reports_ok (running : exchange.broker.Running delivery) (policy : RetryPolicy)
    (now : Moment) :
    ∃ settlement woken after,
      exchange.settle now delivery (.ok ()) = .ok (settlement, woken, after) ∧
      Reports policy now delivery (.ok ()) exchange settlement woken after := by
  obtain ⟨record, found, -⟩ := running
  obtain ⟨succeeds, spares⟩ := acknowledged_succeeds exchange.broker delivery
  exact ⟨_, _, _, settle_ok found now, {
    acked_iff := iff_of_true rfl rfl
    retried_iff := by simp
    dead_iff := by simp
    succeeds := fun _ => succeeds
    reschedules := by simp
    givesUp := by simp
    spares := spares
    bell_eq := rfl }⟩

/-- A failure that is followed by another attempt is reported. -/
theorem reports_again (running : exchange.broker.Running delivery)
    (again : exchange.broker.policy.TriesAgain delivery failure) (now : Moment) :
    ∃ settlement woken after,
      exchange.settle now delivery (.error failure) = .ok (settlement, woken, after) ∧
      Reports exchange.broker.policy now delivery (.error failure) exchange settlement woken
        after := by
  obtain ⟨record, found, -, isDelivery⟩ := running
  have attempts : record.attempts = delivery.attempt := congrArg (·.attempt) isDelivery
  have goesOn : ¬ exchange.broker.IsLast record failure.kind := by
    rintro (permanent | exhausted)
    · exact absurd again.1 (by simp [permanent])
    · rw [attempts] at exhausted
      exact absurd again.2 (Nat.not_lt.2 (of_decide_eq_true exhausted))
  obtain ⟨reschedules, spares⟩ :=
    postponed_reschedules found isDelivery now failure.message
  refine ⟨.retryScheduled (exchange.broker.policy.nextDelay delivery.attempt), exchange.ring.1,
    ⟨exchange.broker.postponed now (exchange.broker.nextAttempt now record) failure.message,
      exchange.bell.ring.2⟩, ?_, ?_⟩
  · unfold settle Broker.settle
    simp only [fail_eq_retry found goesOn, attempts]
    rfl
  · exact {
      acked_iff := by simp
      retried_iff := by
        intro delay
        constructor
        · intro same
          exact ⟨failure, rfl, again, (Settlement.retryScheduled.inj same).symm⟩
        · rintro ⟨-, -, -, rfl⟩
          rfl
      dead_iff := by simp [again]
      succeeds := by simp
      reschedules := by
        rintro delay other same isFailure
        rw [← Settlement.retryScheduled.inj same, ← Except.error.inj isFailure]
        exact reschedules
      givesUp := by simp
      spares := spares
      bell_eq := rfl }

/-- A failure after which the task is given up is reported. -/
theorem reports_last (running : exchange.broker.Running delivery)
    (last : ¬ exchange.broker.policy.TriesAgain delivery failure) (now : Moment) :
    ∃ settlement woken after,
      exchange.settle now delivery (.error failure) = .ok (settlement, woken, after) ∧
      Reports exchange.broker.policy now delivery (.error failure) exchange settlement woken
        after := by
  obtain ⟨record, found, -, isDelivery⟩ := running
  have attempts : record.attempts = delivery.attempt := congrArg (·.attempt) isDelivery
  have isLast : exchange.broker.IsLast record failure.kind := by
    by_cases transient : failure.kind.allowsRetry = true
    · right
      rw [attempts]
      exact decide_eq_true (Nat.not_lt.1 fun below => last ⟨transient, below⟩)
    · exact .inl (Bool.eq_false_iff.2 transient)
  obtain ⟨givesUp, spares⟩ := givenUp_givesUp exchange.broker delivery failure.message
  refine ⟨.deadLettered, none,
    ⟨exchange.broker.givenUp ⟨delivery.envelope, delivery.attempt, failure.message⟩,
      exchange.bell⟩, ?_, ?_⟩
  · unfold settle Broker.settle
    simp only [fail_eq_dead found isLast, attempts]
    rfl
  · exact {
      acked_iff := by simp
      retried_iff := by simp [last]
      dead_iff := iff_of_true rfl ⟨failure, rfl, last⟩
      succeeds := by simp
      reschedules := by simp
      givesUp := by
        intro other _ isFailure
        rw [← Except.error.inj isFailure]
        exact givesUp
      spares := spares
      bell_eq := rfl }

/-- Whatever comes of the work on a delivery in hand, it is reported, and the settlement tells what
has become of the task. -/
theorem settle_reports (running : exchange.broker.Running delivery) (now : Moment)
    (result : Except DispatchError Unit) :
    ∃ settlement woken after,
      exchange.settle now delivery result = .ok (settlement, woken, after) ∧
      Reports exchange.broker.policy now delivery result exchange settlement woken after := by
  cases result with
  | ok => exact reports_ok running exchange.broker.policy now
  | error failure =>
    by_cases again : exchange.broker.policy.TriesAgain delivery failure
    · exact reports_again running again now
    · exact reports_last running again now

end Exchange

end ReminderDispatch
