import Mathlib.Data.Prod.Lex
import Mathlib.Logic.Function.Basic
import ReminderDispatch.Broker.Basic
import ReminderDispatch.Proofs.Lists

/-!
# The containers of a broker

The records of a broker are read as a finite map from identifiers to records: a change, a removal
and an insertion each alter the lookup at one identifier. The schedule is read as a set of tasks in
a strict order. Later proofs use these laws and not the lists behind them.
-/

namespace ReminderDispatch

namespace Broker

variable {broker : Broker} {id : TaskId} {record : TaskRecord}

/-- The identifiers of the tasks that are not settled, in the order of their publication. -/
def taskIds (broker : Broker) : List TaskId := broker.envelopes.map (·.id)

/-! ## Lookup -/

/-- A lookup finds a record of the task that was asked for. -/
theorem find?_id (found : broker.find? id = some record) : record.id = id := by
  simpa using List.find?_some found

/-- A record that is found is one of the broker's records. -/
theorem find?_mem (found : broker.find? id = some record) : record ∈ broker.records :=
  List.mem_of_find?_eq_some found

/-- A lookup finds nothing exactly for the tasks that are settled or unknown. -/
theorem find?_eq_none_iff : broker.find? id = none ↔ id ∉ broker.taskIds := by
  have ids : broker.taskIds = broker.records.map (·.id) := List.map_map
  rw [find?, List.find?_eq_none, ids, List.mem_map, not_exists]
  simp only [decide_eq_true_eq, not_and]

/-- A change of a record is seen under its identifier only. -/
theorem find?_update (broker : Broker) (id : TaskId) (change : TaskRecord → TaskRecord)
    (keeps : ∀ record, (change record).envelope = record.envelope) :
    (broker.update id change).find? =
      Function.update broker.find? id ((broker.find? id).map change) := by
  have keepsId : ∀ record, (change record).id = record.id := fun record =>
    congrArg (·.id) (keeps record)
  funext other
  unfold update find?
  rw [List.find?_map]
  have test : ((fun record : TaskRecord => decide (record.id = other)) ∘
      fun record => if record.id = id then change record else record) =
      fun record => decide (record.id = other) := by
    funext record
    by_cases same : record.id = id <;> simp [same, keepsId]
  rw [test]
  by_cases same : other = id
  · subst same
    rw [Function.update_self]
    cases found : broker.records.find? fun record => decide (record.id = other) with
    | none => rfl
    | some record =>
      have owner : record.id = other := by simpa using List.find?_some found
      simp [owner]
  · rw [Function.update_of_ne same]
    cases found : broker.records.find? fun record => decide (record.id = other) with
    | none => rfl
    | some record =>
      have owner : record.id = other := by simpa using List.find?_some found
      simp [owner, same]

/-- The record that was found is changed. -/
theorem find?_update_of_found {change : TaskRecord → TaskRecord}
    (keeps : ∀ record, (change record).envelope = record.envelope) (found : broker.find? id = some record) :
    (broker.update id change).find? = Function.update broker.find? id (some (change record)) := by
  rw [find?_update broker id change keeps, found]
  rfl

/-- A task whose record was dropped is not found; all others are found as before. -/
theorem find?_drop (broker : Broker) (id : TaskId) :
    (broker.drop id).find? = Function.update broker.find? id none := by
  funext other
  unfold drop find?
  rw [List.find?_filter]
  by_cases same : other = id
  · subst same
    simp
  · rw [Function.update_of_ne same]
    congr 1
    funext record
    by_cases owner : record.id = other <;> simp [owner, same]

/-- A stored record is found under its identifier; all others are found as before. -/
theorem find?_store (broker : Broker) (record : TaskRecord) :
    (broker.store record).find? = Function.update broker.find? record.id (some record) := by
  funext other
  have kept := congrFun (find?_drop broker record.id) other
  unfold find? at kept
  unfold store find?
  rw [List.find?_append, kept]
  by_cases same : other = record.id
  · subst same
    simp
  · rw [Function.update_of_ne same, Function.update_of_ne same]
    simp [Ne.symm same]

/-! ## Envelopes -/

/-- A change of a record keeps the list of envelopes. -/
theorem envelopes_update (broker : Broker) (id : TaskId) (change : TaskRecord → TaskRecord)
    (keeps : ∀ record, (change record).envelope = record.envelope) :
    (broker.update id change).envelopes = broker.envelopes := by
  unfold envelopes update
  rw [List.map_map]
  apply List.map_congr_left
  intro record _
  by_cases same : record.id = id <;> simp [same, keeps]

/-- Dropping a record takes its envelope out of the list. -/
theorem envelopes_drop (broker : Broker) (id : TaskId) :
    (broker.drop id).envelopes = broker.envelopes.filter (·.id ≠ id) := by
  unfold envelopes drop
  rw [List.filter_map]
  rfl

/-- The record of a task that was not there goes to the end. -/
theorem records_store (fresh : record.id ∉ broker.taskIds) :
    (broker.store record).records = broker.records ++ [record] := by
  have all : (broker.drop record.id).records = broker.records := by
    refine List.filter_eq_self.2 fun other member => ?_
    have known : other.id ∈ broker.taskIds := List.mem_map_of_mem (List.mem_map_of_mem member)
    have different : other.id ≠ record.id := ne_of_mem_of_not_mem known fresh
    simpa using different
  unfold store
  rw [all]

/-- The envelope of a task that was not there goes to the end. -/
theorem envelopes_store (fresh : record.id ∉ broker.taskIds) :
    (broker.store record).envelopes = broker.envelopes ++ [record.envelope] := by
  unfold envelopes
  rw [records_store fresh, List.map_append]
  rfl

/-- With one record for each task, dropping a record takes out one envelope. -/
theorem envelopes_drop_perm (distinct : broker.taskIds.Nodup)
    (found : broker.find? id = some record) :
    broker.envelopes.Perm (record.envelope :: (broker.drop id).envelopes) := by
  have owner : record.envelope.id = id := find?_id found
  have member : record.envelope ∈ broker.envelopes := List.mem_map_of_mem (find?_mem found)
  have erased : broker.envelopes.erase record.envelope = broker.envelopes.filter (·.id ≠ id) := by
    rw [erase_eq_filter_ne (List.Nodup.of_map _ distinct)]
    apply List.filter_congr
    intro other isOther
    have same : other = record.envelope ↔ other.id = id := by
      constructor
      · rintro rfl
        exact owner
      · intro equal
        exact List.inj_on_of_nodup_map distinct isOther member (equal.trans owner.symm)
    simp [same]
  rw [envelopes_drop, ← erased]
  exact List.perm_cons_erase member

/-- Dropping a record drops no other identifier and adds none. -/
theorem taskIds_drop_sublist (broker : Broker) (id : TaskId) :
    (broker.drop id).taskIds.Sublist broker.taskIds := by
  unfold taskIds
  rw [envelopes_drop]
  exact (List.filter_sublist).map _

end Broker

/-! ## Schedule -/

namespace PendingRetry

variable {a b c : PendingRetry}

/-- The place of a scheduled task: its time, then the number of its identifier. -/
def place (task : PendingRetry) : Lex (Nat × Nat) := toLex (task.due, task.id.toNat)

/-- Scheduled tasks are ordered by their places. -/
theorem before_iff : a.before b ↔ a.place < b.place := by
  have less : a.id < b.id ↔ a.id.toNat < b.id.toNat := Iff.rfl
  simp [before, place, less, Prod.Lex.toLex_lt_toLex]

/-- Tasks with different identifiers have different places. -/
theorem place_ne (different : a.id ≠ b.id) : a.place ≠ b.place := by
  intro same
  have numbers : a.id.bits.toNat = b.id.bits.toNat := congrArg (fun place => (ofLex place).2) same
  have bits : a.id.bits = b.id.bits := BitVec.eq_of_toNat_eq numbers
  exact different (congrArg TaskId.mk bits)

/-- The order of scheduled tasks is transitive. -/
theorem before_trans (first : a.before b) (second : b.before c) : a.before c := by
  rw [before_iff] at first second ⊢
  exact first.trans second

/-- Of two scheduled tasks with different identifiers one is before the other. -/
theorem before_of_not_before (different : a.id ≠ b.id) (not : ¬ a.before b) : b.before a := by
  rw [before_iff] at not ⊢
  exact lt_of_le_of_ne (not_lt.1 not) (place_ne different).symm

/-- A task that is before another one is not due later. -/
theorem due_le_of_before (first : a.before b) : a.due ≤ b.due := by
  rw [before_iff, place, place, Prod.Lex.toLex_lt_toLex] at first
  rcases first with earlier | ⟨same, -⟩
  · exact Nat.le_of_lt earlier
  · exact Nat.le_of_eq same

end PendingRetry

namespace Broker

/-- A task that is put into the schedule stands between those that were there. -/
theorem schedule_between (task : PendingRetry) (tasks : List PendingRetry) :
    ∃ front back, tasks = front ++ back ∧ schedule task tasks = front ++ task :: back := by
  induction tasks with
  | nil => exact ⟨[], [], rfl, rfl⟩
  | cons first more ih =>
    unfold schedule
    split
    · exact ⟨[], first :: more, rfl, rfl⟩
    · obtain ⟨front, back, split, placed⟩ := ih
      refine ⟨first :: front, back, ?_, ?_⟩
      · rw [split, List.cons_append]
      · rw [placed, List.cons_append]

/-- Scheduling a task adds it and nothing else. -/
theorem schedule_perm (task : PendingRetry) (tasks : List PendingRetry) :
    (schedule task tasks).Perm (task :: tasks) := by
  obtain ⟨front, back, rfl, placed⟩ := schedule_between task tasks
  rw [placed]
  exact List.perm_middle

/-- A schedule stays in order when a task that is not in it is added. -/
theorem schedule_ordered {task : PendingRetry} {tasks : List PendingRetry}
    (fresh : task.id ∉ tasks.map (·.id)) (ordered : tasks.Pairwise (fun a b => a.before b)) :
    (schedule task tasks).Pairwise (fun a b => a.before b) := by
  induction tasks with
  | nil => simp [schedule]
  | cons first more ih =>
    obtain ⟨least, rest⟩ := List.pairwise_cons.1 ordered
    rw [List.map_cons, List.mem_cons, not_or] at fresh
    unfold schedule
    split
    · rename_i earlier
      refine List.pairwise_cons.2 ⟨fun other member => ?_, ordered⟩
      rcases List.mem_cons.1 member with rfl | later
      · exact earlier
      · exact PendingRetry.before_trans earlier (least other later)
    · rename_i late
      refine List.pairwise_cons.2 ⟨fun other member => ?_, ih fresh.2 rest⟩
      rcases List.mem_cons.1 ((schedule_perm task more).mem_iff.1 member) with rfl | later
      · exact PendingRetry.before_of_not_before fresh.1 late
      · exact least other later

end Broker

end ReminderDispatch
