import ReminderDispatch.Proofs.Broker.Deliveries

/-!
# Deliveries that nobody throws away

The users of a broker hand back every delivery that they take, sooner or later. As long as they do,
a task is running exactly while somebody has its delivery in hand, and a task that nobody works on
has had as many attempts as it had when it was settled last.
-/

namespace ReminderDispatch

open scoped List

/-- The number of the attempt at which a task was settled last, and 0 before that. -/
def lastAttempt (settled : List Delivery) (id : TaskId) : Nat :=
  ((settled.filter (·.id = id)).getLast?.map (·.attempt)).getD 0

section lastAttempt

variable {settled : List Delivery} {delivery : Delivery} {id : TaskId}

/-- A task that was never settled has no attempt behind it. -/
theorem lastAttempt_of_fresh (fresh : ∀ delivery ∈ settled, delivery.id ≠ id) :
    lastAttempt settled id = 0 := by
  have none : settled.filter (·.id = id) = [] :=
    List.filter_eq_nil_iff.2 fun delivery member => by simpa using fresh delivery member
  simp only [lastAttempt, none, List.getLast?_nil, Option.map_none, Option.getD_none]

/-- A settled delivery is the last one of its task. -/
theorem lastAttempt_append_self (settled : List Delivery) (delivery : Delivery) :
    lastAttempt (settled ++ [delivery]) delivery.id = delivery.attempt := by
  simp [lastAttempt, List.filter_append]

/-- The last attempts of all other tasks stay. -/
theorem lastAttempt_append_of_ne (other : delivery.id ≠ id) :
    lastAttempt (settled ++ [delivery]) id = lastAttempt settled id := by
  simp [lastAttempt, List.filter_append, other]

end lastAttempt

namespace Broker

variable {broker after : Broker} {hands others : List Delivery} {known : List TaskId}
  {taken settled : List Delivery} {delivery : Delivery} {now : Moment} {id : TaskId}
  {record : TaskRecord} {entry : Option TaskRecord} {envelope : Envelope}

/-- The record of a task agrees with the deliveries of the task that are in hand, that were taken
and that were settled. -/
structure Minds (hands taken settled : List Delivery) (id : TaskId) (record : TaskRecord) :
    Prop where
  /-- Somebody works on a running task. -/
  attended : record.state = .running → id ∈ hands.map (·.id)
  /-- The attempts are those up to the last delivery. -/
  numbered : ∀ delivery ∈ taken, delivery.id = id → delivery.attempt ≤ record.attempts
  /-- A task on which nobody works has had no attempt since it was settled. -/
  rested : record.state ≠ .running → record.attempts = lastAttempt settled id

/-- A broker whose deliveries are in the custody of its users: those that were taken are in hand or
were settled. -/
structure Custody (broker : Broker) (hands : List Delivery) (known : List TaskId)
    (taken settled : List Delivery) : Prop extends Serving broker hands where
  /-- The tasks that are held are among the known ones. -/
  ids_known : ∀ id ∈ broker.taskIds, id ∈ known
  /-- The tasks that were taken are among the known ones. -/
  taken_known : ∀ delivery ∈ taken, delivery.id ∈ known
  /-- No delivery was taken twice. -/
  taken_nodup : taken.Nodup
  /-- A delivery that was taken is in hand, or it was settled. -/
  taken_perm : taken ~ settled ++ hands
  /-- The records agree with the deliveries. -/
  minds : ∀ id record, broker.find? id = some record → Minds hands taken settled id record

/-- One record changes, and the others agree with the deliveries as before. -/
theorem minds_update {nextHands nextTaken nextSettled : List Delivery}
    (all : ∀ id record, broker.find? id = some record → Minds hands taken settled id record)
    (lookup : after.find? = Function.update broker.find? id entry)
    (self : ∀ record, entry = some record → Minds nextHands nextTaken nextSettled id record)
    (others : ∀ other record, other ≠ id → Minds hands taken settled other record →
      Minds nextHands nextTaken nextSettled other record) :
    ∀ other record, after.find? other = some record →
      Minds nextHands nextTaken nextSettled other record := by
  intro other record found
  rw [lookup] at found
  by_cases same : other = id
  · rw [same, Function.update_self] at found
    exact same ▸ self record found
  · rw [Function.update_of_ne same] at found
    exact others other record same (all other record found)

namespace Custody

/-- A new broker has nothing that anybody could take. -/
theorem new (policy : RetryPolicy) : (Broker.new policy).Custody [] [] [] [] where
  toServing := new_serving policy
  ids_known := by simp [Broker.new, taskIds, envelopes]
  taken_known := by simp
  taken_nodup := List.nodup_nil
  taken_perm := .refl _
  minds := by simp [Broker.new, find?]

/-- It does not matter who has which delivery in hand. -/
theorem perm (custody : broker.Custody hands known taken settled) (perm : hands ~ others) :
    broker.Custody others known taken settled where
  toServing := custody.toServing.perm perm
  ids_known := custody.ids_known
  taken_known := custody.taken_known
  taken_nodup := custody.taken_nodup
  taken_perm := custody.taken_perm.trans (perm.append_left settled)
  minds id record found :=
    have minds := custody.minds id record found
    { minds with attended := fun running => (perm.map _).mem_iff.1 (minds.attended running) }

/-- A settled delivery was taken. -/
theorem taken_of_settled (custody : broker.Custody hands known taken settled)
    (member : delivery ∈ settled) : delivery ∈ taken :=
  custody.taken_perm.mem_iff.2 (List.mem_append_left _ member)

/-! ## Use -/

/-- A new task is accepted. -/
theorem publish (custody : broker.Custody hands known taken settled) (isNew : envelope.id ∉ known)
    (published : broker.publish now envelope = (.ok (), after)) :
    after.Custody hands (known ++ [envelope.id]) taken settled where
  toServing := custody.toServing.publish (fun held => isNew (custody.ids_known _ held)) published
  ids_known id member := by
    have fresh : envelope.id ∉ broker.taskIds := fun held => isNew (custody.ids_known _ held)
    rw [taskIds, envelopes_publish fresh published, List.map_append, List.mem_append] at member
    exact List.mem_append.2 (member.imp_left (custody.ids_known id))
  taken_known delivery member := List.mem_append_left _ (custody.taken_known delivery member)
  taken_nodup := custody.taken_nodup
  taken_perm := custody.taken_perm
  minds := by
    have untaken : ∀ delivery ∈ taken, delivery.id ≠ envelope.id := fun delivery member =>
      ne_of_mem_of_not_mem (custody.taken_known delivery member) isNew
    refine minds_update custody.minds (find?_publish published) (fun record isRecord => ?_)
      fun _ _ _ minds => minds
    rw [← Option.some.inj isRecord]
    exact {
      attended := fun running => by simp [TaskRecord.new] at running
      numbered := fun delivery member same => absurd same (untaken delivery member)
      rested := fun _ => (lastAttempt_of_fresh fun delivery member =>
        untaken delivery (custody.taken_of_settled member)).symm }

/-- The due tasks join the line. -/
theorem promote (custody : broker.Custody hands known taken settled) (now : Moment) :
    (broker.promote now).Custody hands known taken settled where
  toServing := custody.toServing.promote now
  ids_known id member := by
    rw [taskIds, (custody.promote_admitted now).envelopes_eq] at member
    exact custody.ids_known id member
  taken_known := custody.taken_known
  taken_nodup := custody.taken_nodup
  taken_perm := custody.taken_perm
  minds id record found := by
    rw [(custody.promote_admitted now).find?_eq id] at found
    by_cases isDue : id ∈ (broker.dueTasks now).map (·.id)
    · rw [if_pos isDue] at found
      obtain ⟨earlier, wasFound, rfl⟩ := Option.map_eq_some_iff.1 found
      have minds := custody.minds id earlier wasFound
      have scheduled : id ∈ broker.scheduled.map (·.id) := by
        rw [← dueTasks_append broker now, List.map_append]
        exact List.mem_append_left _ isDue
      have state := (custody.agree.mem_scheduled id).1 scheduled
      have known : broker.find? id = some earlier := wasFound
      rw [known] at state
      have waits : earlier.state = .retryScheduled := Option.some.inj state
      exact {
        attended := fun running => by simp [TaskRecord.requeue] at running
        numbered := minds.numbered
        rested := fun _ => minds.rested (by simp [waits]) }
    · rw [if_neg isDue] at found
      exact custody.minds id record found

/-- The first task of the line goes into somebody's hands. -/
theorem startFirst (custody : broker.Custody hands known taken settled) {line : List TaskId}
    (first : broker.ready = id :: line) (found : broker.find? id = some record) (now : Moment) :
    (broker.startFirst now id line).Custody ((record.startAttempt now).delivery :: hands) known
      (taken ++ [(record.startAttempt now).delivery]) settled := by
  have isOwner : record.id = id := find?_id found
  have owner : (record.startAttempt now).delivery.id = id := isOwner
  have minds := custody.minds id record found
  have fresh : (record.startAttempt now).delivery ∉ taken := fun member =>
    absurd (minds.numbered _ member owner) (Nat.not_succ_le_self record.attempts)
  refine {
    toServing := ?_
    ids_known := fun other member => ?_
    taken_known := fun other member => ?_
    taken_nodup := nodup_append_singleton custody.taken_nodup fresh
    taken_perm := ?_
    minds := ?_ }
  · exact (custody.toServing.startFirst first found now).perm (List.perm_append_singleton _ _)
  · rw [taskIds, envelopes_startFirst] at member
    exact custody.ids_known other member
  · rcases List.mem_append.1 member with earlier | new
    · exact custody.taken_known other earlier
    · rw [List.mem_singleton.1 new, owner]
      by_contra unknown
      have held : id ∈ broker.taskIds := by
        by_contra absent
        rw [find?_eq_none_iff.2 absent] at found
        contradiction
      exact unknown (custody.ids_known id held)
  · calc
      taken ++ [(record.startAttempt now).delivery] ~
          (record.startAttempt now).delivery :: taken := List.perm_append_singleton _ _
      _ ~ (record.startAttempt now).delivery :: (settled ++ hands) := custody.taken_perm.cons _
      _ ~ settled ++ (record.startAttempt now).delivery :: hands := List.perm_middle.symm
  · refine minds_update custody.minds (find?_startFirst now line found)
      (fun running isRunning => ?_) fun other record different minds => ?_
    · rw [← Option.some.inj isRunning]
      refine ⟨fun _ => by simp [owner], fun delivery member same => ?_, fun rests => ?_⟩
      · rcases List.mem_append.1 member with earlier | new
        · exact Nat.le_succ_of_le (minds.numbered delivery earlier same)
        · rw [List.mem_singleton.1 new]
          exact Nat.le_refl _
      · exact absurd rfl rests
    · refine ⟨fun running => List.mem_cons_of_mem _ (minds.attended running),
        fun delivery member same => ?_, minds.rested⟩
      rcases List.mem_append.1 member with earlier | new
      · exact minds.numbered delivery earlier same
      · rw [List.mem_singleton.1 new] at same
        exact absurd (same.symm.trans owner) different

/-- A look for work may find a task. -/
theorem lease (custody : broker.Custody hands known taken settled)
    (leased : broker.lease now = (.leased delivery, after)) :
    after.Custody (delivery :: hands) known (taken ++ [delivery]) settled := by
  rcases custody.lease_cases now with ⟨-, looked⟩ | ⟨-, -, looked⟩ |
    ⟨id, line, record, -, first, found, looked⟩
  · cases looked.symm.trans leased
  · cases looked.symm.trans leased
  · rw [looked] at leased
    obtain ⟨isDelivery, rfl⟩ := Prod.mk.inj leased
    rw [← LeaseOutcome.leased.inj isDelivery]
    exact (custody.promote now).startFirst first found now

/-- A look for work may find nothing. -/
theorem look (custody : broker.Custody hands known taken settled) {found : LeaseOutcome}
    (looked : broker.lease now = (found, after)) (nothing : ∀ delivery, found ≠ .leased delivery) :
    after.Custody hands known taken settled := by
  rcases custody.lease_cases now with ⟨-, outcome⟩ | ⟨-, -, outcome⟩ | ⟨_, _, _, -, -, -, outcome⟩
  · obtain ⟨-, rfl⟩ := Prod.mk.inj (outcome.symm.trans looked)
    exact custody
  · obtain ⟨-, rfl⟩ := Prod.mk.inj (outcome.symm.trans looked)
    exact custody.promote now
  · exact absurd (Prod.mk.inj (outcome.symm.trans looked)).1.symm (nothing _)

/-- A delivery goes out of somebody's hands, and its task rests with this attempt if it is not
gone. -/
theorem release (custody : broker.Custody (delivery :: others) known taken settled)
    (serving : after.Serving others) (ids : after.taskIds ⊆ broker.taskIds)
    (lookup : after.find? = Function.update broker.find? delivery.id entry)
    (rests : ∀ record, entry = some record →
      record.state ≠ .running ∧ record.attempts = delivery.attempt) :
    after.Custody others known taken (settled ++ [delivery]) where
  toServing := serving
  ids_known id member := custody.ids_known id (ids member)
  taken_known := custody.taken_known
  taken_nodup := custody.taken_nodup
  taken_perm := by
    rw [List.append_assoc]
    exact custody.taken_perm
  minds := by
    obtain ⟨running, found, -, isDelivery⟩ := custody.running delivery List.mem_cons_self
    have attempts : running.attempts = delivery.attempt := congrArg (·.attempt) isDelivery
    have minds := custody.minds delivery.id running found
    refine minds_update custody.minds lookup (fun record isRecord => ?_)
      fun other record different minds => ?_
    · obtain ⟨state, same⟩ := rests record isRecord
      exact {
        attended := fun running => absurd running state
        numbered := fun earlier member owner =>
          (minds.numbered earlier member owner).trans_eq (attempts.trans same.symm)
        rested := fun _ => same.trans (lastAttempt_append_self settled delivery).symm }
    · refine ⟨fun running => ?_, minds.numbered, fun state => ?_⟩
      · exact (List.mem_cons.1 (minds.attended running)).resolve_left different
      · rw [lastAttempt_append_of_ne different.symm]
        exact minds.rested state

/-- A task in hand is acknowledged. -/
theorem acknowledged (custody : broker.Custody (delivery :: others) known taken settled) :
    (broker.acknowledged delivery.id).Custody others known taken (settled ++ [delivery]) := by
  have serving := custody.toServing.acknowledged List.mem_cons_self
  rw [List.erase_cons_head] at serving
  have dropped : (broker.acknowledged delivery.id).taskIds ⊆ broker.taskIds :=
    (taskIds_drop_sublist broker delivery.id).subset
  refine custody.release serving dropped (find?_drop broker delivery.id) ?_
  intro record impossible
  contradiction

/-- A task in hand is given up. -/
theorem givenUp (custody : broker.Custody (delivery :: others) known taken settled)
    (letter : DeadLetter) (owner : letter.envelope = delivery.envelope) :
    (broker.givenUp letter).Custody others known taken (settled ++ [delivery]) := by
  have serving := custody.toServing.givenUp List.mem_cons_self owner
  rw [List.erase_cons_head] at serving
  have same : letter.envelope.id = delivery.id := congrArg (·.id) owner
  have dropped : (broker.givenUp letter).taskIds ⊆ broker.taskIds :=
    (taskIds_drop_sublist broker letter.envelope.id).subset
  have lookup : (broker.givenUp letter).find? = Function.update broker.find? delivery.id none :=
    same ▸ find?_drop broker letter.envelope.id
  refine custody.release serving dropped lookup ?_
  intro record impossible
  contradiction

/-- A task in hand is scheduled for another attempt. -/
theorem postponed (custody : broker.Custody (delivery :: others) known taken settled)
    (found : broker.find? delivery.id = some record) (now : Moment) {task : PendingRetry}
    (owner : task.id = delivery.id) (error : String) :
    (broker.postponed now task error).Custody others known taken (settled ++ [delivery]) := by
  have serving := custody.toServing.postponed List.mem_cons_self now owner error
  rw [List.erase_cons_head] at serving
  have same : (broker.postponed now task error).taskIds = broker.taskIds :=
    congrArg (·.map (·.id)) (envelopes_postponed broker now task error)
  have lookup : (broker.postponed now task error).find? = Function.update broker.find? delivery.id
      (some (record.scheduleRetry now task.due error)) := by
    rw [← owner] at found ⊢
    exact find?_update_of_found (scheduleRetry_envelope now task.due error) found
  obtain ⟨running, wasFound, -, isDelivery⟩ := custody.running delivery List.mem_cons_self
  rw [found] at wasFound
  refine custody.release serving (fun _ member => same ▸ member) lookup fun waiting isWaiting => ?_
  rw [← Option.some.inj isWaiting]
  refine ⟨nofun, ?_⟩
  rw [← isDelivery, ← Option.some.inj wasFound]
  rfl

/-- A delivery in hand can be settled, whatever came of the work. -/
theorem settle (custody : broker.Custody (delivery :: others) known taken settled) (now : Moment)
    (result : Except DispatchError Unit) :
    ∃ settlement after, broker.settle now delivery result = .ok (settlement, after) ∧
      after.Custody others known taken (settled ++ [delivery]) := by
  obtain ⟨record, found, -⟩ := custody.running delivery List.mem_cons_self
  rcases result with failure | ⟨⟩
  · by_cases last : broker.IsLast record failure.kind
    · refine ⟨.deadLettered, _, ?_,
        custody.givenUp ⟨delivery.envelope, record.attempts, failure.message⟩ rfl⟩
      simp only [Broker.settle, fail_eq_dead found last]
      rfl
    · have owner : (broker.nextAttempt now record).id = delivery.id := find?_id found
      refine ⟨.retryScheduled (broker.policy.nextDelay record.attempts), _, ?_,
        custody.postponed found now owner failure.message⟩
      simp only [Broker.settle, fail_eq_retry found last]
      rfl
  · exact ⟨.acked, _, settle_ok found now, custody.acknowledged⟩

/-- The broker is closed. -/
theorem close (custody : broker.Custody hands known taken settled) :
    broker.close.Custody hands known taken settled :=
  { custody with toServing := custody.toServing.close }

/-! ## What the broker shows -/

/-- As many tasks are running as deliveries are in hand. -/
theorem running_eq (custody : broker.Custody hands known taken settled) :
    broker.counts.running = hands.length := by
  have running : ((broker.records.filter (·.state = .running)).map (·.id)).Nodup :=
    custody.records_distinct.sublist (List.filter_sublist.map _)
  have same : (broker.records.filter (·.state = .running)).map (·.id) ~ hands.map (·.id) := by
    rw [List.perm_ext_iff_of_nodup running custody.held_nodup]
    intro id
    constructor
    · intro member
      obtain ⟨record, kept, rfl⟩ := List.mem_map.1 member
      obtain ⟨stored, state⟩ := List.mem_filter.1 kept
      have minded := custody.minds _ record (custody.find?_of_mem stored)
      exact minded.attended (of_decide_eq_true state)
    · intro member
      obtain ⟨delivery, inHand, rfl⟩ := List.mem_map.1 member
      obtain ⟨record, found, state, -⟩ := custody.running delivery inHand
      have kept : record ∈ broker.records.filter (·.state = .running) :=
        List.mem_filter.2 ⟨find?_mem found, decide_eq_true state⟩
      exact List.mem_map.2 ⟨record, kept, find?_id found⟩
  have lengths := same.length_eq
  rw [List.length_map, List.length_map] at lengths
  rw [← lengths]
  exact List.countP_eq_length_filter

/-- When nobody has a delivery in hand, every task rests as it was settled last. -/
theorem rested (custody : broker.Custody [] known taken settled)
    (member : record ∈ broker.records) :
    (record.state = .queued ∨ record.state = .retryScheduled) ∧
      record.attempts = lastAttempt settled record.id := by
  have minds := custody.minds record.id record (custody.find?_of_mem member)
  have idle : record.state ≠ .running := fun running => List.not_mem_nil (minds.attended running)
  refine ⟨?_, minds.rested idle⟩
  cases state : record.state with
  | queued => exact .inl rfl
  | running => exact absurd state idle
  | retryScheduled => exact .inr rfl

end Custody

end Broker

end ReminderDispatch
