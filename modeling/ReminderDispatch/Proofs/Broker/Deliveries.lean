import ReminderDispatch.Broker.Settlement
import ReminderDispatch.Proofs.Broker.Operations

/-!
# Deliveries in hand

Consumers hold deliveries of tasks that they work on. The deliveries in hand are for different
tasks, and the record of each such task is running, with the envelope and the attempt that the
delivery tells. Every operation keeps this, so that a delivery in hand can always be settled, at the
broker and at the exchange of which it is a part.
-/

namespace ReminderDispatch.Broker

variable {broker after : Broker} {held : List Delivery} {now : Moment} {id : TaskId}
  {record : TaskRecord} {envelope : Envelope} {delivery : Delivery}

/-- The delivery is what a running record was handed out as. -/
def Running (broker : Broker) (delivery : Delivery) : Prop :=
  ∃ record, broker.find? delivery.id = some record ∧ record.state = .running ∧
    record.delivery = delivery

/-- A consistent broker whose consumers hold deliveries of different running tasks. -/
structure Serving (broker : Broker) (held : List Delivery) : Prop extends Consistent broker where
  /-- No two deliveries in hand are for one task. -/
  held_nodup : (held.map (·.id)).Nodup
  /-- The task of every delivery in hand is running. -/
  running : ∀ delivery ∈ held, broker.Running delivery

/-- At first no delivery is in hand. -/
theorem new_serving (policy : RetryPolicy) : (new policy).Serving [] where
  toConsistent := new_consistent policy
  held_nodup := List.nodup_nil
  running := by simp

/-- It does not matter in which order deliveries are in hand. -/
theorem Serving.perm (serving : broker.Serving held) {other : List Delivery}
    (perm : held.Perm other) : broker.Serving other where
  toConsistent := serving.toConsistent
  held_nodup := (perm.map _).nodup_iff.1 serving.held_nodup
  running delivery member := serving.running delivery (perm.mem_iff.2 member)

/-- A delivery stays that of a running task while the record of its task is the same. -/
theorem Running.of_find?_eq (running : broker.Running delivery)
    (same : after.find? delivery.id = broker.find? delivery.id) : after.Running delivery := by
  obtain ⟨record, found, rest⟩ := running
  exact ⟨record, same.trans found, rest⟩

/-- The task of a delivery of a running task is none that is known to be in another state. -/
theorem Running.id_ne (running : broker.Running delivery) (found : broker.find? id = some record)
    (other : record.state ≠ .running) : delivery.id ≠ id := by
  intro same
  obtain ⟨runner, foundRunner, state, -⟩ := running
  rw [same, found] at foundRunner
  rw [← Option.some.inj foundRunner] at state
  exact other state

/-- The deliveries of all tasks but one stay those of running tasks when that one changes. -/
theorem Running.of_update {entry : Option TaskRecord} (running : broker.Running delivery)
    (lookup : after.find? = Function.update broker.find? id entry) (other : delivery.id ≠ id) :
    after.Running delivery :=
  running.of_find?_eq (by rw [lookup, Function.update_of_ne other])

/-- After one delivery is given back, those of all other tasks are still in hand. -/
theorem Serving.mem_erase (serving : broker.Serving held) (inHand : delivery ∈ held)
    {other : Delivery} (member : other ∈ held.erase delivery) :
    other ∈ held ∧ other.id ≠ delivery.id := by
  have perm := (List.perm_cons_erase inHand).map (·.id)
  have nodup := perm.nodup_iff.1 serving.held_nodup
  rw [List.map_cons, List.nodup_cons] at nodup
  refine ⟨List.mem_of_mem_erase member, fun same => nodup.1 ?_⟩
  rw [← same]
  exact List.mem_map_of_mem member

/-- The deliveries that are left after one is given back are for different tasks. -/
theorem Serving.erase_nodup (serving : broker.Serving held) (delivery : Delivery) :
    ((held.erase delivery).map (·.id)).Nodup :=
  serving.held_nodup.sublist ((List.erase_sublist).map _)

/-- A delivery is thrown away without being settled. -/
theorem Serving.abandon (serving : broker.Serving held) (delivery : Delivery) :
    broker.Serving (held.erase delivery) where
  toConsistent := serving.toConsistent
  held_nodup := serving.erase_nodup delivery
  running other member := serving.running other (List.mem_of_mem_erase member)

/-- A new task is published while deliveries are in hand. -/
theorem Serving.publish (serving : broker.Serving held) (fresh : envelope.id ∉ broker.taskIds)
    (published : broker.publish now envelope = (.ok (), after)) : after.Serving held where
  toConsistent := serving.toConsistent.publish fresh published
  held_nodup := serving.held_nodup
  running delivery inHand := by
    have running := serving.running delivery inHand
    refine running.of_update (find?_publish published) fun same => ?_
    obtain ⟨record, found, -⟩ := running
    rw [same, find?_eq_none_iff.2 fresh] at found
    contradiction

/-- The due tasks join the line while deliveries are in hand. -/
theorem Serving.promote (serving : broker.Serving held) (now : Moment) :
    (broker.promote now).Serving held where
  toConsistent := serving.toConsistent.promote now
  held_nodup := serving.held_nodup
  running delivery inHand := by
    obtain ⟨record, found, state, rest⟩ := serving.running delivery inHand
    exact ⟨record, serving.find?_promote now found (by simp [state]), state, rest⟩

/-- The first task of the line is handed out to a consumer. -/
theorem Serving.startFirst (serving : broker.Serving held) {line : List TaskId}
    (first : broker.ready = id :: line) (found : broker.find? id = some record) (now : Moment) :
    (broker.startFirst now id line).Serving
      (held ++ [(record.startAttempt now).delivery]) where
  toConsistent := serving.toConsistent.startFirst first found now
  held_nodup := by
    obtain ⟨queued, foundQueued, state⟩ := serving.first_queued first
    have notHeld : id ∉ held.map (·.id) := by
      intro member
      obtain ⟨delivery, inHand, same⟩ := List.mem_map.1 member
      exact (serving.running delivery inHand).id_ne foundQueued (by simp [state]) same
    have isOwner : record.id = id := find?_id found
    have owner : (record.startAttempt now).delivery.id = id := isOwner
    rw [List.map_append, List.map_singleton, owner]
    exact nodup_append_singleton serving.held_nodup notHeld
  running delivery inHand := by
    obtain ⟨queued, foundQueued, state⟩ := serving.first_queued first
    have lookup := find?_startFirst now line found
    rcases List.mem_append.1 inHand with earlier | new
    · have running := serving.running delivery earlier
      exact running.of_update lookup (running.id_ne foundQueued (by simp [state]))
    · have isOwner : record.id = id := find?_id found
      have owner : (record.startAttempt now).delivery.id = id := isOwner
      rw [List.mem_singleton.1 new]
      refine ⟨record.startAttempt now, ?_, rfl, rfl⟩
      rw [lookup, owner, Function.update_self]

/-! ## Settlement -/

/-- A task is acknowledged: its record goes, and one more task has succeeded. -/
def acknowledged (broker : Broker) (id : TaskId) : Broker :=
  { broker.drop id with succeeded := broker.succeeded + 1 }

/-- A task is given up: its record goes, and a letter stays. -/
def givenUp (broker : Broker) (letter : DeadLetter) : Broker :=
  { broker.drop letter.envelope.id with deadLetters := broker.deadLetters ++ [letter] }

/-- A task is scheduled for another attempt. -/
def postponed (broker : Broker) (now : Moment) (task : PendingRetry) (error : String) : Broker :=
  { broker.update task.id (·.scheduleRetry now task.due error) with
    scheduled := schedule task broker.scheduled }

/-- A failure ends a task when it is permanent or no attempt is left. -/
def IsLast (broker : Broker) (record : TaskRecord) (kind : FailureKind) : Prop :=
  kind.allowsRetry = false ∨ broker.policy.isExhausted record.attempts = true

/-- The next attempt of a task whose attempt fails now. -/
def nextAttempt (broker : Broker) (now : Moment) (record : TaskRecord) : PendingRetry :=
  ⟨now + (broker.policy.nextDelay record.attempts).nanos, record.id⟩

/-- A task that has a record can be acknowledged. -/
theorem ack_eq (found : broker.find? delivery.id = some record) :
    broker.ack delivery = .ok (broker.acknowledged delivery.id) := by
  unfold ack
  rw [found]
  rfl

/-- A task whose failure is the last one is given up. -/
theorem fail_eq_dead (found : broker.find? delivery.id = some record) {error : String}
    {kind : FailureKind} (last : broker.IsLast record kind) :
    broker.fail now delivery error kind =
      .ok (.deadLettered, broker.givenUp ⟨delivery.envelope, record.attempts, error⟩) := by
  have guard : (!kind.allowsRetry || broker.policy.isExhausted record.attempts) = true := by
    rcases last with permanent | exhausted
    · simp [permanent]
    · simp [exhausted]
  unfold fail
  rw [found]
  simp only [guard, if_true]
  rfl

/-- A task whose failure is not the last one is scheduled for another attempt. -/
theorem fail_eq_retry (found : broker.find? delivery.id = some record) {error : String}
    {kind : FailureKind} (goesOn : ¬ broker.IsLast record kind) :
    broker.fail now delivery error kind =
      .ok (.retryScheduled (broker.policy.nextDelay record.attempts),
        broker.postponed now (broker.nextAttempt now record) error) := by
  have guard : (!kind.allowsRetry || broker.policy.isExhausted record.attempts) = false := by
    simpa [IsLast] using goesOn
  have owner : record.id = delivery.id := find?_id found
  unfold fail postponed nextAttempt
  rw [found, owner]
  simp only [guard, Bool.false_eq_true, if_false]
  rfl

/-- A failure of a task that has a record can be reported. -/
theorem exists_fail (found : broker.find? delivery.id = some record) (now : Moment)
    (error : String) (kind : FailureKind) :
    ∃ verdict after, broker.fail now delivery error kind = .ok (verdict, after) := by
  by_cases last : broker.IsLast record kind
  · exact ⟨_, _, fail_eq_dead found last⟩
  · exact ⟨_, _, fail_eq_retry found last⟩

/-- A task that has a record is acknowledged when its work is done. -/
theorem settle_ok (found : broker.find? delivery.id = some record) (now : Moment) :
    broker.settle now delivery (.ok ()) = .ok (.acked, broker.acknowledged delivery.id) := by
  unfold settle
  rw [ack_eq found]
  rfl

/-- A task that is scheduled for another attempt keeps its envelope. -/
theorem scheduleRetry_envelope (now due : Moment) (error : String) (record : TaskRecord) :
    (record.scheduleRetry now due error).envelope = record.envelope := rfl

/-- Scheduling a task for another attempt keeps the list of envelopes. -/
theorem envelopes_postponed (broker : Broker) (now : Moment) (task : PendingRetry)
    (error : String) : (broker.postponed now task error).envelopes = broker.envelopes :=
  envelopes_update broker task.id _ (scheduleRetry_envelope now task.due error)

/-- The record of a delivery that is given back goes. -/
theorem Serving.settle (serving : broker.Serving held) (inHand : delivery ∈ held)
    (lookup : after.find? = Function.update broker.find? delivery.id none)
    (ids : after.taskIds = (broker.drop delivery.id).taskIds) (ready : after.ready = broker.ready)
    (scheduled : after.scheduled = broker.scheduled) : after.Serving (held.erase delivery) where
  distinct := by
    rw [ids]
    exact serving.distinct.sublist (taskIds_drop_sublist broker delivery.id)
  agree := by
    obtain ⟨record, found, state, -⟩ := serving.running delivery inHand
    rw [lookup, ready, scheduled]
    exact serving.agree.release found state
  held_nodup := serving.erase_nodup delivery
  running other member := by
    obtain ⟨inHand, different⟩ := serving.mem_erase inHand member
    exact (serving.running other inHand).of_update lookup different

/-- A task is acknowledged by the consumer that has it in hand. -/
theorem Serving.acknowledged (serving : broker.Serving held) (inHand : delivery ∈ held) :
    (broker.acknowledged delivery.id).Serving (held.erase delivery) :=
  serving.settle inHand (find?_drop broker delivery.id) rfl rfl rfl

/-- A task is given up by the consumer that has it in hand. -/
theorem Serving.givenUp (serving : broker.Serving held) (inHand : delivery ∈ held)
    {letter : DeadLetter} (owner : letter.envelope = delivery.envelope) :
    (broker.givenUp letter).Serving (held.erase delivery) := by
  have same : letter.envelope.id = delivery.id := congrArg (·.id) owner
  have lookup : (broker.givenUp letter).find? =
      Function.update broker.find? letter.envelope.id none := find?_drop broker letter.envelope.id
  rw [same] at lookup
  exact serving.settle inHand lookup (by rw [← same]; rfl) rfl rfl

/-- A task is scheduled for another attempt by the consumer that has it in hand. -/
theorem Serving.postponed (serving : broker.Serving held) (inHand : delivery ∈ held)
    (now : Moment) {task : PendingRetry} (owner : task.id = delivery.id) (error : String) :
    (broker.postponed now task error).Serving (held.erase delivery) := by
  obtain ⟨record, found, state, -⟩ := serving.running delivery inHand
  rw [← owner] at found
  have lookup := find?_update_of_found (scheduleRetry_envelope now task.due error) found
  refine ⟨⟨?_, ?_⟩, serving.erase_nodup delivery, fun other member => ?_⟩
  · rw [taskIds, envelopes_postponed]
    exact serving.distinct
  · change Agree (broker.update task.id (·.scheduleRetry now task.due error)).find? broker.ready
      (schedule task broker.scheduled)
    rw [lookup]
    exact serving.agree.postpone found state now task.due error
  · obtain ⟨inHand, different⟩ := serving.mem_erase inHand member
    exact (serving.running other inHand).of_update lookup (owner ▸ different)

/-- Deliveries stay in hand when the broker is closed. -/
theorem Serving.close (serving : broker.Serving held) : broker.close.Serving held :=
  ⟨⟨serving.distinct, serving.agree⟩, serving.held_nodup, serving.running⟩

end ReminderDispatch.Broker

/-! ## Exchanges -/

namespace ReminderDispatch.Exchange

variable {exchange after : Exchange} {now : Moment} {delivery : Delivery}

/-- What an exchange accepts, its broker has accepted. -/
theorem broker_publish {envelope : Envelope} {woken : Option Nat}
    (published : exchange.publish now envelope = (.ok woken, after)) :
    exchange.broker.publish now envelope = (.ok (), after.broker) := by
  rcases exchange.broker.publish_cases now envelope with ⟨broker, accepted⟩ | refused
  · simp only [publish, accepted] at published
    rw [accepted, ← (Prod.mk.inj published).2]
    rfl
  · simp only [publish, refused] at published
    cases published

/-- What an exchange refuses leaves it as it is. -/
theorem publish_refused {envelope : Envelope} {failure : BrokerError}
    (refused : exchange.publish now envelope = (.error failure, after)) : after = exchange := by
  rcases exchange.broker.publish_cases now envelope with ⟨broker, accepted⟩ | closed
  · simp only [publish, accepted] at refused
    cases refused
  · simp only [publish, closed] at refused
    exact (Prod.mk.inj refused).2.symm

/-- What the broker settles is settled at the exchange, whoever wakes. -/
theorem exists_settle {result : Except DispatchError Unit} {settlement : Settlement}
    {broker : Broker}
    (settled : exchange.broker.settle now delivery result = .ok (settlement, broker)) :
    ∃ woken after, exchange.settle now delivery result = .ok (settlement, woken, after) ∧
      after.broker = broker := by
  unfold settle
  rw [settled]
  cases settlement with
  | acked => exact ⟨_, _, rfl, rfl⟩
  | deadLettered => exact ⟨_, _, rfl, rfl⟩
  | retryScheduled delay => exact ⟨_, _, rfl, rfl⟩

/-- Nobody wakes when a task is acknowledged. -/
theorem settle_ok {record : TaskRecord}
    (found : exchange.broker.find? delivery.id = some record) (now : Moment) :
    exchange.settle now delivery (.ok ()) = .ok (.acked, none,
      { exchange with broker := exchange.broker.acknowledged delivery.id }) := by
  unfold settle
  rw [Broker.settle_ok found]
  rfl

/-- The broker does not notice that a consumer goes away. -/
theorem broker_cancel (exchange : Exchange) (number : Nat) :
    (exchange.cancel number).2.broker = exchange.broker := by
  unfold cancel
  split <;> rfl

end ReminderDispatch.Exchange
