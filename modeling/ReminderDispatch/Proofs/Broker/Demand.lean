import Mathlib.Data.List.TakeWhile
import ReminderDispatch.Proofs.Broker.Deliveries

/-!
# Demand for consumers

How many consumers a broker has work for by a given time: one for each task in line and one for each
scheduled task that is due by then. A look for work lets due tasks join the line and so leaves the
demand as it is, but for the task that is found.
-/

namespace ReminderDispatch.Broker

variable {broker after : Broker} {now time due : Moment} {id : TaskId} {record : TaskRecord}
  {envelope : Envelope}

/-- The tasks that can be taken until a time. -/
def demandBy (broker : Broker) (time : Moment) : Nat :=
  broker.ready.length + broker.scheduled.countP fun task => decide (task.due ≤ time)

/-- Without demand the line is empty and no scheduled task is due. -/
theorem demandBy_eq_zero (none : broker.demandBy time = 0) :
    broker.ready = [] ∧ ∀ task ∈ broker.scheduled, time < task.due := by
  obtain ⟨empty, later⟩ := Nat.add_eq_zero_iff.1 none
  refine ⟨List.length_eq_zero_iff.1 empty, fun task member => ?_⟩
  have notDue := List.countP_eq_zero.1 later task member
  exact Nat.lt_of_not_le fun isDue => notDue (decide_eq_true isDue)

/-- A published task is one more to be taken. -/
theorem demandBy_publish (published : broker.publish now envelope = (.ok (), after)) (time : Moment) :
    after.demandBy time = broker.demandBy time + 1 := by
  obtain ⟨-, rfl⟩ := publish_eq_ok published
  have line : (broker.ready ++ [envelope.id]).length = broker.ready.length + 1 := by simp
  change (broker.ready ++ [envelope.id]).length + _ = _
  rw [line]
  unfold demandBy
  exact Nat.add_right_comm _ _ _

/-- A task that is scheduled for another attempt is at most one more to be taken. -/
theorem demandBy_postponed (broker : Broker) (now time : Moment) (task : PendingRetry)
    (error : String) :
    (broker.postponed now task error).demandBy time ≤ broker.demandBy time + 1 := by
  have perm := schedule_perm task broker.scheduled
  change broker.ready.length + (schedule task broker.scheduled).countP _ ≤ _
  rw [perm.countP_eq, List.countP_cons]
  unfold demandBy
  split <;> omega

/-- A look for work leaves as many tasks to be taken as before. -/
theorem Consistent.demandBy_promote (consistent : broker.Consistent) (later : now ≤ time) :
    (broker.promote now).demandBy time = broker.demandBy time := by
  have admitted := consistent.promote_admitted now
  have allDue : (broker.dueTasks now).countP (fun task => decide (task.due ≤ time)) =
      (broker.dueTasks now).length := by
    rw [List.countP_eq_length]
    intro task member
    have isDue : task.due ≤ now := by simpa using List.mem_takeWhile_imp member
    exact decide_eq_true (Nat.le_trans isDue later)
  unfold demandBy
  rw [admitted.ready_eq, consistent.promote_scheduled now, List.length_append, List.length_map,
    ← dueTasks_append broker now, List.countP_append, allDue]
  exact Nat.add_assoc _ _ _

/-- A task that is handed out is one less to be taken. -/
theorem demandBy_startFirst {line : List TaskId} (first : broker.ready = id :: line)
    (now time : Moment) :
    (broker.startFirst now id line).demandBy time + 1 = broker.demandBy time := by
  unfold demandBy
  rw [first, List.length_cons]
  exact Nat.add_right_comm _ _ _

/-- With an empty line there is nothing to take before the first scheduled task is due. -/
theorem Consistent.demandBy_idle (consistent : broker.Consistent) (empty : broker.ready = [])
    (early : ∀ due, broker.scheduled.head?.map (·.due) = some due → time < due) :
    broker.demandBy time = 0 := by
  unfold demandBy
  rw [empty, List.length_nil, Nat.zero_add, List.countP_eq_zero]
  intro task member
  cases scheduled : broker.scheduled with
  | nil => simp [scheduled] at member
  | cons first more =>
    have begins : time < first.due := early first.due (by rw [scheduled]; rfl)
    have ordered := consistent.agree.ordered
    rw [scheduled] at ordered member
    have isLater : first.due ≤ task.due := by
      rcases List.mem_cons.1 member with rfl | isMore
      · exact Nat.le_refl _
      · exact PendingRetry.due_le_of_before ((List.pairwise_cons.1 ordered).1 task isMore)
    simpa using Nat.lt_of_lt_of_le begins isLater

end ReminderDispatch.Broker
