import ReminderDispatch.Proofs.Broker.Containers

/-!
# Consistent brokers

A broker keeps a task in up to three containers: its record, the line and the schedule. A broker is
consistent when the line holds exactly the queued tasks and the schedule exactly the tasks that wait
for another attempt, with the times in their records. Every operation moves at most one task from
one place to another, apart from a look for work, which first lets the due tasks join the line one
by one; each such move keeps the containers in agreement.
-/

namespace ReminderDispatch.Broker

/-- The line holds the queued tasks, and the schedule holds the tasks that wait for another attempt,
at the times in their records; no other record has such a time. -/
structure Agree (lookup : TaskId → Option TaskRecord) (ready : List TaskId)
    (scheduled : List PendingRetry) : Prop where
  /-- No task is in the line twice. -/
  ready_nodup : ready.Nodup
  /-- The tasks in the line are the queued ones. -/
  mem_ready : ∀ id, id ∈ ready ↔ (lookup id).map (·.state) = some .queued
  /-- No task is in the schedule twice. -/
  scheduled_nodup : (scheduled.map (·.id)).Nodup
  /-- The tasks in the schedule are those that wait for another attempt. -/
  mem_scheduled : ∀ id,
    id ∈ scheduled.map (·.id) ↔ (lookup id).map (·.state) = some .retryScheduled
  /-- The schedule has the times of the records. -/
  due_eq : ∀ task ∈ scheduled, (lookup task.id).bind (·.nextRunAt) = some task.due
  /-- The schedule is in order. -/
  ordered : scheduled.Pairwise (fun a b => a.before b)
  /-- A task that does not wait for another attempt has no time for one. -/
  undated : ∀ id record, lookup id = some record → record.state ≠ .retryScheduled →
    record.nextRunAt = none

/-- The containers of a broker agree, and every task has one record. -/
structure Consistent (broker : Broker) : Prop where
  /-- Every task has one record. -/
  distinct : broker.taskIds.Nodup
  /-- The line and the schedule agree with the records. -/
  agree : Agree broker.find? broker.ready broker.scheduled

variable {broker : Broker} {record : TaskRecord}

/-- No two records are for one task. -/
theorem Consistent.records_distinct (consistent : Consistent broker) :
    (broker.records.map (·.id)).Nodup := by
  have distinct := consistent.distinct
  rwa [taskIds, envelopes, List.map_map] at distinct

/-- Every record is found under its identifier. -/
theorem Consistent.find?_of_mem (consistent : Consistent broker)
    (member : record ∈ broker.records) : broker.find? record.id = some record := by
  cases found : broker.find? record.id with
  | none =>
    rw [find?, List.find?_eq_none] at found
    exact absurd (decide_eq_true rfl) (found record member)
  | some other =>
    have same : other.id = record.id := find?_id found
    rw [List.inj_on_of_nodup_map consistent.records_distinct (find?_mem found) member same]

/-! ## Moves of one task -/

namespace Agree

variable {lookup : TaskId → Option TaskRecord} {ready line : List TaskId}
  {scheduled rest : List PendingRetry} {id : TaskId} {record : TaskRecord} {task : PendingRetry}

/-- Only queued tasks are in the line. -/
theorem not_mem_ready (agree : Agree lookup ready scheduled)
    (other : (lookup id).map (·.state) ≠ some .queued) : id ∉ ready :=
  fun member => other ((agree.mem_ready id).1 member)

/-- Only tasks that wait for another attempt are in the schedule. -/
theorem not_mem_scheduled (agree : Agree lookup ready scheduled)
    (other : (lookup id).map (·.state) ≠ some .retryScheduled) : id ∉ scheduled.map (·.id) :=
  fun member => other ((agree.mem_scheduled id).1 member)

/-- The containers agree after the record of one task was replaced, when the line and the schedule
are right about this task and as they were about all others. -/
theorem replace (agree : Agree lookup ready scheduled) (entry : Option TaskRecord)
    (lineNodup : line.Nodup)
    (lineSelf : id ∈ line ↔ entry.map (·.state) = some .queued)
    (lineOther : ∀ other, other ≠ id → (other ∈ line ↔ other ∈ ready))
    (restNodup : (rest.map (·.id)).Nodup)
    (restSelf : id ∈ rest.map (·.id) ↔ entry.map (·.state) = some .retryScheduled)
    (restDue : ∀ task ∈ rest, task.id = id → entry.bind (·.nextRunAt) = some task.due)
    (restOther : ∀ task : PendingRetry, task.id ≠ id → (task ∈ rest ↔ task ∈ scheduled))
    (restOrdered : rest.Pairwise (fun a b => a.before b))
    (undated : ∀ record, entry = some record → record.state ≠ .retryScheduled →
      record.nextRunAt = none) :
    Agree (Function.update lookup id entry) line rest where
  ready_nodup := lineNodup
  mem_ready other := by
    by_cases same : other = id
    · rw [same, Function.update_self]
      exact lineSelf
    · rw [Function.update_of_ne same, lineOther other same]
      exact agree.mem_ready other
  scheduled_nodup := restNodup
  mem_scheduled other := by
    by_cases same : other = id
    · rw [same, Function.update_self]
      exact restSelf
    · rw [Function.update_of_ne same, ← agree.mem_scheduled other]
      simp only [List.mem_map]
      constructor
      · rintro ⟨task, member, rfl⟩
        exact ⟨task, (restOther task same).1 member, rfl⟩
      · rintro ⟨task, member, rfl⟩
        exact ⟨task, (restOther task same).2 member, rfl⟩
  due_eq task member := by
    by_cases same : task.id = id
    · rw [same, Function.update_self]
      exact restDue task member same
    · rw [Function.update_of_ne same]
      exact agree.due_eq task ((restOther task same).1 member)
  ordered := restOrdered
  undated other record found := by
    by_cases same : other = id
    · rw [same, Function.update_self] at found
      exact undated record found
    · rw [Function.update_of_ne same] at found
      exact agree.undated other record found

/-- A task that is neither in the line nor in the schedule gets a record that belongs in
neither. -/
theorem replace_outside (agree : Agree lookup ready scheduled) (entry : Option TaskRecord)
    (offLine : id ∉ ready) (offSchedule : id ∉ scheduled.map (·.id))
    (running : ∀ record, entry = some record → record.state = .running ∧ record.nextRunAt = none) :
    Agree (Function.update lookup id entry) ready scheduled := by
  have state : ∀ state, state ≠ .running → entry.map (·.state) ≠ some state := by
    intro state other same
    obtain ⟨record, isEntry, isState⟩ := Option.map_eq_some_iff.1 same
    exact other (isState.symm.trans (running record isEntry).1)
  exact agree.replace entry agree.ready_nodup (iff_of_false offLine (state _ (by decide)))
    (fun _ _ => .rfl) agree.scheduled_nodup (iff_of_false offSchedule (state _ (by decide)))
    (fun task member same => absurd (same ▸ List.mem_map_of_mem member) offSchedule)
    (fun _ _ => .rfl) agree.ordered (fun record isEntry _ => (running record isEntry).2)

/-- A task without a record joins the end of the line. -/
theorem enqueue (agree : Agree lookup ready scheduled) (absent : lookup id = none)
    (queued : record.state = .queued) (undated : record.nextRunAt = none) :
    Agree (Function.update lookup id (some record)) (ready ++ [id]) scheduled := by
  have offLine : id ∉ ready := agree.not_mem_ready (by simp [absent])
  have offSchedule : id ∉ scheduled.map (·.id) := agree.not_mem_scheduled (by simp [absent])
  exact agree.replace (some record) (nodup_append_singleton agree.ready_nodup offLine) (by simp [queued])
    (fun other different => by simp [different]) agree.scheduled_nodup
    (iff_of_false offSchedule (by simp [queued]))
    (fun task member same => absurd (same ▸ List.mem_map_of_mem member) offSchedule)
    (fun _ _ => .rfl) agree.ordered (fun _ same _ => Option.some.inj same ▸ undated)

/-- The first task of the schedule joins the end of the line. -/
theorem joinLine (agree : Agree lookup ready (task :: rest)) (record : TaskRecord) (now : Moment) :
    Agree (Function.update lookup task.id (some (record.requeue now))) (ready ++ [task.id])
      rest := by
  have waits : (lookup task.id).map (·.state) = some .retryScheduled :=
    (agree.mem_scheduled task.id).1 (by simp)
  have offLine : task.id ∉ ready := agree.not_mem_ready (by simp [waits])
  have nodup := agree.scheduled_nodup
  rw [List.map_cons, List.nodup_cons] at nodup
  refine agree.replace _ (nodup_append_singleton agree.ready_nodup offLine) (by simp [TaskRecord.requeue])
    (fun other different => by simp [different]) nodup.2
    (iff_of_false nodup.1 (by simp [TaskRecord.requeue]))
    (fun later member same => absurd (same ▸ List.mem_map_of_mem member) nodup.1)
    (fun later different => ?_) (List.pairwise_cons.1 agree.ordered).2
    (fun _ same _ => Option.some.inj same ▸ rfl)
  have notFirst : later ≠ task := fun same => different (same ▸ rfl)
  simp [notFirst]

/-- A consumer takes the first task of the line. -/
theorem start (agree : Agree lookup (id :: line) scheduled) (found : lookup id = some record)
    (now : Moment) :
    Agree (Function.update lookup id (some (record.startAttempt now))) line scheduled := by
  have queued : (lookup id).map (·.state) = some .queued := (agree.mem_ready id).1 (by simp)
  have offSchedule : id ∉ scheduled.map (·.id) := agree.not_mem_scheduled (by simp [queued])
  have state : record.state = .queued := by simpa [found] using queued
  have nodup := List.nodup_cons.1 agree.ready_nodup
  refine agree.replace _ nodup.2 (iff_of_false nodup.1 (by simp [TaskRecord.startAttempt]))
    (fun other different => by simp [different]) agree.scheduled_nodup
    (iff_of_false offSchedule (by simp [TaskRecord.startAttempt]))
    (fun task member same => absurd (same ▸ List.mem_map_of_mem member) offSchedule)
    (fun _ _ => .rfl) agree.ordered (fun _ same _ => ?_)
  rw [← Option.some.inj same]
  exact agree.undated id record found (by simp [state])

/-- A running task is in neither the line nor the schedule. -/
theorem running_outside (agree : Agree lookup ready scheduled) (found : lookup id = some record)
    (running : record.state = .running) : id ∉ ready ∧ id ∉ scheduled.map (·.id) :=
  ⟨agree.not_mem_ready (by simp [found, running]), agree.not_mem_scheduled (by simp [found, running])⟩

/-- A running task is settled. -/
theorem release (agree : Agree lookup ready scheduled) (found : lookup id = some record)
    (running : record.state = .running) :
    Agree (Function.update lookup id none) ready scheduled :=
  agree.replace_outside none (agree.running_outside found running).1
    (agree.running_outside found running).2 (by simp)

/-- A running task is scheduled for another attempt. -/
theorem postpone (agree : Agree lookup ready scheduled) (found : lookup id = some record)
    (running : record.state = .running) (now due : Moment) (error : String) :
    Agree (Function.update lookup id (some (record.scheduleRetry now due error))) ready
      (schedule ⟨due, id⟩ scheduled) := by
  obtain ⟨offLine, offSchedule⟩ := agree.running_outside found running
  have perm := schedule_perm ⟨due, id⟩ scheduled
  refine agree.replace _ agree.ready_nodup
    (iff_of_false offLine (by simp [TaskRecord.scheduleRetry])) (fun _ _ => .rfl) ?_ ?_
    (fun task member same => ?_) (fun task different => ?_)
    (schedule_ordered offSchedule agree.ordered)
    (fun _ same other => absurd (Option.some.inj same ▸ rfl) other)
  · rw [(perm.map _).nodup_iff, List.map_cons, List.nodup_cons]
    exact ⟨offSchedule, agree.scheduled_nodup⟩
  · rw [(perm.map _).mem_iff]
    simp [TaskRecord.scheduleRetry]
  · rcases List.mem_cons.1 (perm.mem_iff.1 member) with rfl | earlier
    · rfl
    · exact absurd (same ▸ List.mem_map_of_mem earlier) offSchedule
  · have notNew : task ≠ ⟨due, id⟩ := fun same => different (same ▸ rfl)
    rw [perm.mem_iff]
    simp [notNew]

end Agree

end ReminderDispatch.Broker
