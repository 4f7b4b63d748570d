import ReminderDispatch.Proofs.Broker.Consistency

/-!
# Operations on consistent brokers

What each operation of a consistent broker does, and that the broker is consistent after it. The
guards against a task whose record is gone or in another state never take effect: every due task
joins the line, and the first task of the line is always handed out.
-/

namespace ReminderDispatch

/-- The delivery in the hand of a consumer that works on the task. -/
def TaskRecord.delivery (record : TaskRecord) : Delivery := ⟨record.envelope, record.attempts⟩

namespace Broker

variable {broker after : Broker} {now : Moment} {id : TaskId} {record : TaskRecord}
  {envelope : Envelope} {delivery : Delivery} {task : PendingRetry}

/-- A broker without tasks is consistent. -/
theorem new_consistent (policy : RetryPolicy) : (new policy).Consistent where
  distinct := List.nodup_nil
  agree := {
    ready_nodup := List.nodup_nil
    mem_ready := by simp [new, find?]
    scheduled_nodup := List.nodup_nil
    mem_scheduled := by simp [new, find?]
    due_eq := by simp [new]
    ordered := .nil
    undated := by simp [new, find?] }

/-! ## Publication -/

/-- An open broker stores a published task and puts it at the end of the line. -/
theorem publish_eq_ok (published : broker.publish now envelope = (.ok (), after)) :
    broker.closed = false ∧ after =
      { broker.store (.new envelope broker.policy.maxAttempts now) with
        ready := broker.ready ++ [envelope.id] } := by
  unfold publish at published
  cases closed : broker.closed with
  | true => simp [closed] at published
  | false =>
    rw [closed] at published
    exact ⟨rfl, (Prod.mk.inj published).2.symm⟩

/-- An open broker takes a task. -/
theorem publish_of_open (isOpen : broker.closed = false) (now : Moment) (envelope : Envelope) :
    broker.publish now envelope =
      (.ok (), { broker.store (.new envelope broker.policy.maxAttempts now) with
        ready := broker.ready ++ [envelope.id] }) := by
  unfold publish
  rw [isOpen]
  rfl

/-- A closed broker refuses a task, and stays as it is. -/
theorem publish_of_closed (closed : broker.closed = true) (now : Moment) (envelope : Envelope) :
    broker.publish now envelope = (.error .closed, broker) := if_pos closed

/-- A task is accepted, or it is refused and the broker stays as it is. -/
theorem publish_cases (broker : Broker) (now : Moment) (envelope : Envelope) :
    (∃ after, broker.publish now envelope = (.ok (), after)) ∨
      broker.publish now envelope = (.error .closed, broker) := by
  cases closed : broker.closed with
  | false => exact .inl ⟨_, publish_of_open closed now envelope⟩
  | true => exact .inr (publish_of_closed closed now envelope)

/-- A published task that was not there has its record at the end, and joins the end of the line. -/
theorem publish_eq_append (fresh : envelope.id ∉ broker.taskIds)
    (published : broker.publish now envelope = (.ok (), after)) :
    after = { broker with
      records := broker.records ++ [.new envelope broker.policy.maxAttempts now]
      ready := broker.ready ++ [envelope.id] } := by
  obtain ⟨-, rfl⟩ := publish_eq_ok published
  have recorded : (broker.store (.new envelope broker.policy.maxAttempts now)).records =
      broker.records ++ [.new envelope broker.policy.maxAttempts now] := records_store fresh
  rw [← recorded]
  rfl

/-- A published task is found as a new record; all others are found as before. -/
theorem find?_publish (published : broker.publish now envelope = (.ok (), after)) :
    after.find? = Function.update broker.find? envelope.id
      (some (.new envelope broker.policy.maxAttempts now)) := by
  obtain ⟨-, rfl⟩ := publish_eq_ok published
  exact find?_store broker (.new envelope broker.policy.maxAttempts now)

/-- Publication adds the envelope of a new task. -/
theorem envelopes_publish (fresh : envelope.id ∉ broker.taskIds)
    (published : broker.publish now envelope = (.ok (), after)) :
    after.envelopes = broker.envelopes ++ [envelope] := by
  obtain ⟨-, rfl⟩ := publish_eq_ok published
  have new : (TaskRecord.new envelope broker.policy.maxAttempts now).id ∉ broker.taskIds := fresh
  exact envelopes_store new

/-- A broker to which a new task was published is consistent. -/
theorem Consistent.publish (consistent : broker.Consistent) (fresh : envelope.id ∉ broker.taskIds)
    (published : broker.publish now envelope = (.ok (), after)) : after.Consistent where
  distinct := by
    rw [taskIds, envelopes_publish fresh published, List.map_append, List.map_singleton]
    exact nodup_append_singleton consistent.distinct fresh
  agree := by
    rw [find?_publish published]
    have absent : broker.find? envelope.id = none := find?_eq_none_iff.2 fresh
    obtain ⟨-, rfl⟩ := publish_eq_ok published
    exact consistent.agree.enqueue absent rfl rfl

/-! ## Promotion -/

/-- The scheduled tasks whose time has come. -/
def dueTasks (broker : Broker) (now : Moment) : List PendingRetry :=
  broker.scheduled.takeWhile fun task => decide (task.due ≤ now)

/-- The scheduled tasks whose time has yet to come. -/
def laterTasks (broker : Broker) (now : Moment) : List PendingRetry :=
  broker.scheduled.dropWhile fun task => decide (task.due ≤ now)

/-- The due tasks are the first ones of the schedule. -/
theorem dueTasks_append (broker : Broker) (now : Moment) :
    broker.dueTasks now ++ broker.laterTasks now = broker.scheduled :=
  List.takeWhile_append_dropWhile

/-- Due tasks have joined the line, and nothing else has changed. -/
structure Admitted (now : Moment) (due : List PendingRetry) (broker after : Broker) : Prop where
  /-- The line has grown by the due tasks in their order. -/
  ready_eq : after.ready = broker.ready ++ due.map (·.id)
  /-- The records of the due tasks are queued, and all others are as before. -/
  find?_eq : ∀ id, after.find? id =
    if id ∈ due.map (·.id) then (broker.find? id).map (·.requeue now) else broker.find? id
  /-- No task has come or gone. -/
  envelopes_eq : after.envelopes = broker.envelopes
  /-- The containers apart from the records and the line are as before. -/
  frame : after = { broker with records := after.records, ready := after.ready }

/-- A task that waits for its time joins the end of the line when it is admitted. -/
theorem admitTask_eq (now : Moment) (found : broker.find? task.id = some record)
    (waits : record.state = .retryScheduled) :
    admitTask now broker task =
      { broker.update task.id (·.requeue now) with ready := broker.ready ++ [task.id] } := by
  unfold admitTask
  rw [found]
  exact if_pos waits

/-- A task that joins the line again keeps its envelope. -/
theorem requeue_envelope (now : Moment) (record : TaskRecord) :
    (record.requeue now).envelope = record.envelope := rfl

/-- Every task of the schedule that is admitted in turn joins the line. -/
theorem foldl_admitTask (now : Moment) (broker : Broker) {due rest : List PendingRetry}
    (agree : Agree broker.find? broker.ready (due ++ rest)) :
    Admitted now due broker (due.foldl (admitTask now) broker) ∧
      Agree (due.foldl (admitTask now) broker).find? (due.foldl (admitTask now) broker).ready
        rest := by
  induction due generalizing broker with
  | nil => exact ⟨⟨by simp, by simp, rfl, rfl⟩, agree⟩
  | cons task more ih =>
    have waits : (broker.find? task.id).map (·.state) = some .retryScheduled :=
      (agree.mem_scheduled task.id).1 (by simp)
    obtain ⟨record, found, state⟩ := Option.map_eq_some_iff.1 waits
    have admitted := admitTask_eq now found state
    have lookup : (admitTask now broker task).find? =
        Function.update broker.find? task.id (some (record.requeue now)) := by
      rw [admitted]
      exact find?_update_of_found (requeue_envelope now) found
    have ready : (admitTask now broker task).ready = broker.ready ++ [task.id] := by rw [admitted]
    have next : Agree (admitTask now broker task).find? (admitTask now broker task).ready
        (more ++ rest) := by
      rw [lookup, ready]
      exact agree.joinLine record now
    obtain ⟨done, last⟩ := ih _ next
    have once : task.id ∉ more.map (·.id) := by
      have nodup := agree.scheduled_nodup
      simp only [List.cons_append, List.map_cons, List.map_append, List.nodup_cons,
        List.mem_append, not_or] at nodup
      exact nodup.1.1
    refine ⟨{ ready_eq := ?_, find?_eq := fun id => ?_, envelopes_eq := ?_, frame := ?_ }, last⟩
    · rw [List.foldl_cons, done.ready_eq, ready]
      simp
    · rw [List.foldl_cons, done.find?_eq id, lookup]
      by_cases same : id = task.id
      · rw [same, if_neg once, Function.update_self, if_pos (by simp), found]
        rfl
      · rw [Function.update_of_ne same]
        simp [same]
    · rw [List.foldl_cons, done.envelopes_eq, admitted]
      exact envelopes_update broker task.id _ (requeue_envelope now)
    · rw [List.foldl_cons, done.frame, admitted]
      rfl

/-- A look for work lets exactly the due tasks join the line. -/
theorem Consistent.promote_admitted (consistent : broker.Consistent) (now : Moment) :
    Admitted now (broker.dueTasks now) { broker with scheduled := broker.laterTasks now }
      (broker.promote now) := by
  have agree := consistent.agree
  rw [← dueTasks_append broker now] at agree
  exact (foldl_admitTask now { broker with scheduled := broker.laterTasks now } agree).1

/-- After a look for work the schedule holds the tasks whose time has yet to come. -/
theorem Consistent.promote_scheduled (consistent : broker.Consistent) (now : Moment) :
    (broker.promote now).scheduled = broker.laterTasks now := by
  rw [(consistent.promote_admitted now).frame]

/-- A broker whose due tasks have joined the line is consistent. -/
theorem Consistent.promote (consistent : broker.Consistent) (now : Moment) :
    (broker.promote now).Consistent where
  distinct := by
    rw [taskIds, (consistent.promote_admitted now).envelopes_eq]
    exact consistent.distinct
  agree := by
    rw [consistent.promote_scheduled now]
    have agree := consistent.agree
    rw [← dueTasks_append broker now] at agree
    exact (foldl_admitTask now { broker with scheduled := broker.laterTasks now } agree).2

/-- A task that is scheduled at its turn is not passed over, whatever was admitted before it. -/
theorem Consistent.waits_at_turn (consistent : broker.Consistent) {front back : List PendingRetry}
    (split : broker.dueTasks now = front ++ task :: back) :
    (front.foldl (admitTask now) { broker with scheduled := broker.laterTasks now }).state?
      task.id = some .retryScheduled := by
  have agree := consistent.agree
  rw [← dueTasks_append broker now, split, List.append_assoc] at agree
  have turn := (foldl_admitTask now { broker with scheduled := broker.laterTasks now } agree).2
  exact (turn.mem_scheduled task.id).1 (by simp)

/-- The record of a task that does not wait for another attempt is not changed by promotion. -/
theorem Consistent.find?_promote (consistent : broker.Consistent) (now : Moment)
    (found : broker.find? id = some record) (state : record.state ≠ .retryScheduled) :
    (broker.promote now).find? id = some record := by
  have notDue : id ∉ (broker.dueTasks now).map (·.id) := by
    intro member
    have scheduled : id ∈ broker.scheduled.map (·.id) := by
      rw [← dueTasks_append broker now, List.map_append]
      exact List.mem_append_left _ member
    have waits := (consistent.agree.mem_scheduled id).1 scheduled
    rw [found] at waits
    exact state (Option.some.inj waits)
  rw [(consistent.promote_admitted now).find?_eq id, if_neg notDue]
  exact found

/-! ## Look for work -/

/-- The first task of the line has a record, which is queued. -/
theorem Consistent.first_queued (consistent : broker.Consistent) {line : List TaskId}
    (first : broker.ready = id :: line) :
    ∃ record, broker.find? id = some record ∧ record.state = .queued := by
  have queued := (consistent.agree.mem_ready id).1 (by simp [first])
  exact Option.map_eq_some_iff.1 queued

/-- The next attempt of a task begins, and the line is what is left of it. -/
def startFirst (broker : Broker) (now : Moment) (id : TaskId) (line : List TaskId) : Broker :=
  { broker.update id (·.startAttempt now) with ready := line }

/-- What a look for work finds: nothing at a closed broker or an empty line, and otherwise the first
task of the line, whose next attempt begins. -/
theorem Consistent.lease_cases (consistent : broker.Consistent) (now : Moment) :
    (broker.closed = true ∧ broker.lease now = (.closed, broker)) ∨
    (broker.closed = false ∧ (broker.promote now).ready = [] ∧ broker.lease now =
      (.nothing ((broker.promote now).scheduled.head?.map (·.due)), broker.promote now)) ∨
    ∃ id line record, broker.closed = false ∧ (broker.promote now).ready = id :: line ∧
      (broker.promote now).find? id = some record ∧ broker.lease now =
        (.leased (record.startAttempt now).delivery,
          (broker.promote now).startFirst now id line) := by
  unfold lease
  cases closed : broker.closed with
  | true => exact .inl ⟨rfl, rfl⟩
  | false =>
    right
    cases ready : (broker.promote now).ready with
    | nil => exact .inl ⟨rfl, rfl, by simp [ready]⟩
    | cons id line =>
      right
      obtain ⟨record, found, -⟩ := (consistent.promote now).first_queued ready
      have kept : { broker.promote now with ready := line }.find? id = some record := found
      refine ⟨id, line, record, rfl, rfl, found, ?_⟩
      simp only [Bool.false_eq_true, if_false, ready, kept]
      rfl

/-- A task that is handed out keeps its envelope. -/
theorem startAttempt_envelope (now : Moment) (record : TaskRecord) :
    (record.startAttempt now).envelope = record.envelope := rfl

/-- The first task of the line is running after it was handed out, and all others are found as
before. -/
theorem find?_startFirst (now : Moment) (line : List TaskId)
    (found : broker.find? id = some record) :
    (broker.startFirst now id line).find? =
      Function.update broker.find? id (some (record.startAttempt now)) :=
  find?_update_of_found (startAttempt_envelope now) found

/-- Handing out a task keeps the list of envelopes. -/
theorem envelopes_startFirst (broker : Broker) (now : Moment) (id : TaskId) (line : List TaskId) :
    (broker.startFirst now id line).envelopes = broker.envelopes :=
  envelopes_update broker id _ (startAttempt_envelope now)

/-- A broker whose first task was handed out is consistent. -/
theorem Consistent.startFirst (consistent : broker.Consistent) {line : List TaskId}
    (first : broker.ready = id :: line) (found : broker.find? id = some record) (now : Moment) :
    (broker.startFirst now id line).Consistent where
  distinct := by
    rw [taskIds, envelopes_startFirst]
    exact consistent.distinct
  agree := by
    rw [find?_startFirst now line found]
    have agree := consistent.agree
    rw [first] at agree
    exact agree.start found now

end Broker

end ReminderDispatch
