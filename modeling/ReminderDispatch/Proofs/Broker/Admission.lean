import Mathlib.Data.List.Sort
import ReminderDispatch.Proofs.Broker.Soundness

/-!
# First in, first out

Tasks join the line of a broker in two ways: a published task joins its end at once, and a task that
waits for another attempt joins it at the first look for work after its time has come, all such
tasks together and in the order of their times. The log of admissions is written from the requests
alone, with a sort of its own; the line itself takes its order from the schedule.

The main result is that nobody overtakes: the tasks that were handed out, followed by the line, are
the log of admissions, and a look for work finds a task if anyone is in line.
-/

namespace ReminderDispatch

/-- The task that was handed out, if that is what happened. -/
def Event.leased? : Event → Option TaskId
  | leased delivery => some delivery.id
  | accepted _ | acked _ | failed _ _ _ _ => none

namespace Broker

variable {broker : Broker} {now : Moment}

/-- The scheduled tasks whose time has come, the earliest first, and of those with equal times the
one with the least identifier first. -/
def ripeTasks (broker : Broker) (now : Moment) : List PendingRetry :=
  (broker.scheduled.filter fun task => task.due ≤ now).insertionSort fun a b => a.place ≤ b.place

/-- The tasks whose time has come are those from which the schedule begins. -/
theorem Consistent.dueTasks_eq_filter (consistent : broker.Consistent) (now : Moment) :
    broker.dueTasks now = broker.scheduled.filter fun task => task.due ≤ now := by
  apply takeWhile_eq_filter consistent.agree.ordered
  intro a b first due
  have notLater : a.due ≤ b.due := PendingRetry.due_le_of_before first
  have dueB : b.due ≤ now := of_decide_eq_true due
  exact decide_eq_true (notLater.trans dueB)

/-- The tasks whose time has yet to come are those with which the schedule ends. -/
theorem Consistent.laterTasks_eq_filter (consistent : broker.Consistent) (now : Moment) :
    broker.laterTasks now = broker.scheduled.filter fun task => now < task.due := by
  have dropped : broker.laterTasks now =
      broker.scheduled.filter fun task => !decide (task.due ≤ now) := by
    apply dropWhile_eq_filter_not consistent.agree.ordered
    intro a b first due
    have notLater : a.due ≤ b.due := PendingRetry.due_le_of_before first
    have dueB : b.due ≤ now := of_decide_eq_true due
    exact decide_eq_true (notLater.trans dueB)
  rw [dropped]
  apply List.filter_congr
  intro task _
  rw [← decide_not, decide_eq_decide]
  exact Nat.not_le

/-- The schedule is sorted, so that its front is what sorting makes of the tasks whose time has
come. -/
theorem Consistent.ripeTasks_eq (consistent : broker.Consistent) (now : Moment) :
    broker.ripeTasks now = broker.dueTasks now := by
  unfold ripeTasks
  rw [← consistent.dueTasks_eq_filter now]
  apply List.Pairwise.insertionSort_eq
  have front : (broker.dueTasks now).Sublist broker.scheduled := List.takeWhile_sublist _
  apply (consistent.agree.ordered.sublist front).imp
  intro a b first
  exact (PendingRetry.before_iff.1 first).le

/-- After a look for work the tasks whose time had come are at the end of the line. -/
theorem Consistent.ready_promote (consistent : broker.Consistent) (now : Moment) :
    (broker.promote now).ready = broker.ready ++ (broker.ripeTasks now).map (·.id) := by
  rw [consistent.ripeTasks_eq now]
  exact (consistent.promote_admitted now).ready_eq

/-- A look for work at an open broker finds a task exactly when someone is in line after those whose
time has come have joined it. -/
theorem Consistent.lease_finds_iff (consistent : broker.Consistent) (isOpen : broker.closed = false)
    (now : Moment) :
    (∃ delivery, (broker.lease now).1 = .leased delivery) ↔
      broker.ready ++ (broker.ripeTasks now).map (·.id) ≠ [] := by
  rw [← consistent.ready_promote now]
  rcases consistent.lease_cases now with ⟨closed, -⟩ | ⟨-, empty, looked⟩ |
    ⟨id, line, record, -, first, -, looked⟩
  · rw [isOpen] at closed
    contradiction
  · rw [looked, empty]
    simp
  · rw [looked, first]
    simp

/-- A look for work at an open broker leaves exactly the later tasks in the schedule. -/
theorem Consistent.scheduled_lease (consistent : broker.Consistent)
    (isOpen : broker.closed = false) (now : Moment) :
    (broker.lease now).2.scheduled = broker.scheduled.filter fun task => now < task.due := by
  have promoted : (broker.promote now).scheduled =
      broker.scheduled.filter fun task => now < task.due :=
    (consistent.promote_scheduled now).trans (consistent.laterTasks_eq_filter now)
  rcases consistent.lease_cases now with ⟨closed, -⟩ | ⟨-, -, looked⟩ | ⟨_, _, _, -, -, -, looked⟩
  · rw [isOpen] at closed
    contradiction
  · rw [looked]
    exact promoted
  · rw [looked]
    exact promoted

end Broker

namespace Session

variable {session : Session}

/-- The tasks that were handed out, in order. -/
def handedOut (session : Session) : List TaskId := session.history.filterMap (·.leased?)

/-- The tasks that join the line by a request, in order. -/
def admitted (session : Session) : Request → List TaskId
  | .publish envelope =>
    match (session.broker.publish session.now envelope).1 with
    | .ok () => [envelope.id]
    | .error _ => []
  | .lease =>
    if session.broker.closed then [] else (session.broker.ripeTasks session.now).map (·.id)
  | .ack _ | .fail _ _ _ | .abandon _ | .close | .advance _ => []

/-- The log of admissions: the tasks that join the line by a list of requests, in order. -/
def admissions (session : Session) : List Request → List TaskId
  | [] => []
  | request :: more => session.admitted request ++ (session.perform request).admissions more

/-- Everyone who has been in the line, in order: those who were handed out and those who wait. -/
def procession (session : Session) : List TaskId := session.handedOut ++ session.broker.ready

/-- An event that is recorded leaves the line as it is, and comes before it if a task was handed
out. -/
theorem procession_record (session : Session) (event : Event) :
    (session.record event).procession =
      session.handedOut ++ event.leased?.toList ++ session.broker.ready := by
  have told : (session.record event).handedOut = session.handedOut ++ event.leased?.toList := by
    simp only [handedOut, record, List.filterMap_append]
    cases isLeased : event.leased? <;> simp [isLeased]
  unfold procession
  rw [told]
  rfl

/-- Nobody passes when something else happens than that a task is handed out. -/
theorem procession_record_other (session : Session) {event : Event} (other : event.leased? = none) :
    (session.record event).procession = session.procession := by
  rw [procession_record, other, Option.toList_none, List.append_nil]
  rfl

/-! ## One request -/

/-- A published task joins the end of the line. -/
theorem procession_publish (session : Session) (envelope : Envelope) :
    (session.perform (.publish envelope)).procession =
      session.procession ++ session.admitted (.publish envelope) := by
  rcases session.broker.publish_cases session.now envelope with ⟨broker, published⟩ | refused
  · have line : broker.ready = session.broker.ready ++ [envelope.id] :=
      congrArg (·.ready) (Broker.publish_eq_ok published).2
    simp only [perform, admitted, published]
    rw [procession_record_other _ rfl]
    show session.handedOut ++ broker.ready =
      session.handedOut ++ session.broker.ready ++ [envelope.id]
    rw [line, List.append_assoc]
  · simp only [perform, admitted, refused]
    exact (List.append_nil _).symm

/-- At a look for work the tasks whose time has come join the end of the line, and the first of the
line passes to those who were handed out. -/
theorem Sound.procession_lease (sound : session.Sound) :
    (session.perform .lease).procession = session.procession ++ session.admitted .lease := by
  have line := sound.serving.ready_promote session.now
  rcases sound.serving.lease_cases session.now with ⟨closed, looked⟩ | ⟨isOpen, empty, looked⟩ |
    ⟨id, rest, record, isOpen, first, found, looked⟩
  · simp only [perform, admitted, looked, closed, if_true]
    exact (List.append_nil _).symm
  · simp only [perform, admitted, looked, isOpen, Bool.false_eq_true, if_false]
    show session.handedOut ++ (session.broker.promote session.now).ready =
      session.handedOut ++ session.broker.ready ++ (session.broker.ripeTasks session.now).map (·.id)
    rw [line, List.append_assoc]
  · have owner : record.id = id := Broker.find?_id found
    simp only [perform, admitted, looked, isOpen, Bool.false_eq_true, if_false]
    rw [procession_record]
    show session.handedOut ++ [record.id] ++ rest =
      session.handedOut ++ session.broker.ready ++ (session.broker.ripeTasks session.now).map (·.id)
    rw [List.append_assoc session.handedOut session.broker.ready, ← line, first, owner,
      List.append_assoc, List.singleton_append]

/-- An acknowledgement moves nobody in the line. -/
theorem procession_ack (session : Session) (delivery : Delivery) :
    (session.perform (.ack delivery)).procession = session.procession := by
  cases found : session.broker.find? delivery.id with
  | none => simp only [perform, Broker.ack, found]; rfl
  | some record =>
    simp only [perform, Broker.ack_eq found]
    exact procession_record_other _ rfl

/-- A failure moves nobody in the line: the task waits for its time outside the line. -/
theorem procession_fail (session : Session) (delivery : Delivery) (error : String)
    (kind : FailureKind) :
    (session.perform (.fail delivery error kind)).procession = session.procession := by
  cases found : session.broker.find? delivery.id with
  | none => simp only [perform, Broker.fail, found]; rfl
  | some record =>
    by_cases last : session.broker.IsLast record kind
    · simp only [perform, Broker.fail_eq_dead found last]
      exact procession_record_other _ rfl
    · simp only [perform, Broker.fail_eq_retry found last]
      exact procession_record_other _ rfl

/-- The procession grows at its end by those who join the line, whatever is asked. -/
theorem Sound.procession_perform (sound : session.Sound) (request : Request) :
    (session.perform request).procession = session.procession ++ session.admitted request := by
  cases request with
  | publish envelope => exact procession_publish session envelope
  | lease => exact sound.procession_lease
  | ack delivery => exact (procession_ack session delivery).trans (List.append_nil _).symm
  | fail delivery error kind =>
    exact (procession_fail session delivery error kind).trans (List.append_nil _).symm
  | abandon _ | close | advance _ => exact (List.append_nil _).symm

/-! ## Any number of requests -/

/-- The procession grows by the log of admissions. -/
theorem Sound.procession_run (sound : session.Sound) {requests : List Request}
    (allowed : machine.AllowsAll session requests) :
    (session.run requests).procession = session.procession ++ session.admissions requests := by
  induction requests generalizing session with
  | nil => exact (List.append_nil _).symm
  | cons request more ih =>
    have step : session.Step (session.perform request) := ⟨request, allowed.1, rfl⟩
    have next : (session.perform request).Sound := sound.of_change (sound.change step)
    calc
      (session.run (request :: more)).procession
      _ = ((session.perform request).run more).procession := rfl
      _ = (session.perform request).procession ++ (session.perform request).admissions more :=
        ih next allowed.2
      _ = session.procession ++ session.admissions (request :: more) := by
        rw [sound.procession_perform request, List.append_assoc]
        rfl

/-- No task overtakes another one. The tasks that a broker in use has handed out, followed by those
in line, are the log of admissions; a look for work at an open broker leaves those scheduled whose
time has yet to come, and finds a task exactly when the rest of the log is not empty then. -/
theorem first_in_first_out {policy : RetryPolicy} {begin : Moment} {requests : List Request}
    (allowed : machine.AllowsAll (start policy begin) requests)
    (reached : (start policy begin).run requests = session) :
    (start policy begin).admissions requests = session.handedOut ++ session.broker.ready ∧
      (session.broker.closed = false →
        (session.broker.lease session.now).2.scheduled =
          session.broker.scheduled.filter (fun task => session.now < task.due) ∧
        ((∃ delivery, (session.broker.lease session.now).1 = .leased delivery) ↔
          session.broker.ready ++ session.admitted .lease ≠ [])) := by
  have consistent : session.broker.Consistent := by
    rw [← reached]
    exact (leads_sound (machine.leads_run _ requests allowed)).serving.toConsistent
  constructor
  · have grown := (start_sound policy begin).procession_run allowed
    rw [reached] at grown
    exact grown.symm
  · intro isOpen
    have joins : session.admitted .lease =
        (session.broker.ripeTasks session.now).map (·.id) := by
      simp only [admitted, isOpen, Bool.false_eq_true, if_false]
    rw [joins]
    exact ⟨consistent.scheduled_lease isOpen session.now,
      consistent.lease_finds_iff isOpen session.now⟩

/-- Three attempts fail, the last two of them at one time and in the reverse order of their
identifiers; a task is published before the next attempts are due, and taken when they are. -/
def threeRefused : List Request :=
  [.publish (mail 1), .publish (mail 2), .publish (mail 3), .lease, .lease, .lease,
    .fail ⟨mail 3, 1⟩ "refused" .transient, .advance (.ofMillis 1),
    .fail ⟨mail 2, 1⟩ "refused" .transient, .fail ⟨mail 1, 1⟩ "refused" .transient,
    .publish (mail 4), .advance (.ofSeconds 2), .lease]

/-- The task that was published in between is handed out first. The others follow in the order of
their times, and the two with equal times in the order of their identifiers; the next look for work
finds one of them. -/
theorem first_in_first_out_threeRefused :
    machine.AllowsAll (start .default 0) threeRefused ∧
      (start .default 0).admissions threeRefused =
        ((start .default 0).run threeRefused).handedOut ++
          ((start .default 0).run threeRefused).broker.ready ∧
      ((start .default 0).run threeRefused).handedOut = [1, 2, 3, 4].map (.ofNat ·) ∧
      ((start .default 0).run threeRefused).broker.ready = [3, 1, 2].map (.ofNat ·) ∧
      ∃ delivery, (((start .default 0).run threeRefused).broker.lease
        ((start .default 0).run threeRefused).now).1 = .leased delivery := by
  have allowed : machine.AllowsAll (start .default 0) threeRefused := by decide +kernel
  obtain ⟨inOrder, looked⟩ := first_in_first_out allowed rfl
  obtain ⟨-, finds⟩ := looked (by decide +kernel)
  exact ⟨allowed, inOrder, by decide +kernel, by decide +kernel, finds.2 (by decide +kernel)⟩

end Session

end ReminderDispatch
