import ReminderDispatch.Proofs.Broker.Admission
import ReminderDispatch.Proofs.Broker.Attempts

/-!
# Backoff

A task whose attempt failed rests until the broker's delay has passed. It is in the schedule, and
what is done with other tasks neither moves it nor wakes it: the only request that does is a look
for work at the open broker at or after its time. That look lets the task join the line, behind the
tasks that were in line before and behind those of the schedule that were due before it.

The main result says both for every session that begins with the failure.
-/

namespace ReminderDispatch

namespace Broker

variable {broker : Broker} {now : Moment} {task : PendingRetry}

/-- The tasks that come before a scheduled task once its time has come: those in line, and those of
the schedule that are due before it. -/
def tasksAhead (broker : Broker) (task : PendingRetry) : List TaskId :=
  broker.ready ++ (broker.scheduled.filter (·.before task)).map (·.id)

/-- In a schedule in order, a task stands behind those that are due before it. -/
theorem Consistent.scheduled_split (consistent : broker.Consistent)
    (member : task ∈ broker.scheduled) :
    ∃ behind, broker.scheduled = broker.scheduled.filter (·.before task) ++ task :: behind := by
  obtain ⟨front, back, split⟩ := List.append_of_mem member
  have ordered := consistent.agree.ordered
  rw [split] at ordered
  obtain ⟨-, fromTask, across⟩ := List.pairwise_append.1 ordered
  have ahead : front.filter (·.before task) = front := by
    apply List.filter_eq_self.2
    intro other earlier
    exact across other earlier task List.mem_cons_self
  have others : (task :: back).filter (·.before task) = [] := by
    apply List.filter_eq_nil_iff.2
    intro other notEarlier before
    rw [PendingRetry.before_iff] at before
    rcases List.mem_cons.1 notEarlier with rfl | later
    · exact lt_irrefl _ before
    · have after := (List.pairwise_cons.1 fromTask).1 other later
      rw [PendingRetry.before_iff] at after
      exact lt_asymm before after
  refine ⟨back, ?_⟩
  rw [split, List.filter_append, ahead, others, List.append_nil]

/-- When the time of a task has come, it joins the line behind the tasks ahead of it. -/
theorem Consistent.ready_promote_of_due (consistent : broker.Consistent)
    (member : task ∈ broker.scheduled) (due : task.due ≤ now) :
    ∃ behind, (broker.promote now).ready = broker.tasksAhead task ++ task.id :: behind := by
  obtain ⟨rest, split⟩ := consistent.scheduled_split member
  have ahead : (broker.scheduled.filter (·.before task)).filter (fun other => other.due ≤ now) =
      broker.scheduled.filter (·.before task) := by
    apply List.filter_eq_self.2
    intro other isAhead
    have before : other.before task := (List.mem_filter.1 isAhead).2
    have notLater : other.due ≤ task.due := PendingRetry.due_le_of_before before
    exact decide_eq_true (notLater.trans due)
  have fromTask : (task :: rest).filter (fun other => other.due ≤ now) =
      task :: rest.filter fun other => other.due ≤ now :=
    List.filter_cons_of_pos (decide_eq_true due)
  have dueTasks : broker.dueTasks now = broker.scheduled.filter (·.before task) ++
      task :: rest.filter fun other => other.due ≤ now := by
    rw [consistent.dueTasks_eq_filter now]
    conv_lhs => rw [split]
    rw [List.filter_append, ahead, fromTask]
  refine ⟨(rest.filter fun other => other.due ≤ now).map (·.id), ?_⟩
  rw [(consistent.promote_admitted now).ready_eq, dueTasks, List.map_append, List.map_cons,
    tasksAhead, List.append_assoc]

/-- A task of the schedule waits for another attempt. -/
theorem Consistent.state?_of_scheduled (consistent : broker.Consistent)
    (member : task ∈ broker.scheduled) : broker.state? task.id = some .retryScheduled :=
  (consistent.agree.mem_scheduled task.id).1 (List.mem_map_of_mem member)

end Broker

namespace Session

variable {session before after since later failed : Session} {task : PendingRetry}
  {request : Request} {due : Moment} {delivery : Delivery} {error : String} {kind : FailureKind}

/-- The request is a look for work at the open broker, at or after a time. -/
def Calls (session : Session) (due : Moment) (request : Request) : Prop :=
  request = .lease ∧ session.broker.closed = false ∧ due ≤ session.now

/-- Sessions in which nobody looks for work at the open broker at or after a time. Everything else
may be asked, and at other times or at a closed broker this too. -/
def lull (due : Moment) : Machine Session Request :=
  ⟨fun session request => session.Allows request ∧ ¬ session.Calls due request, perform⟩

instance (session : Session) (due : Moment) (request : Request) :
    Decidable (session.Calls due request) :=
  inferInstanceAs (Decidable (request = .lease ∧ session.broker.closed = false ∧ due ≤ session.now))

instance (due : Moment) (session : Session) (request : Request) :
    Decidable ((lull due).Allows session request) :=
  inferInstanceAs (Decidable (session.Allows request ∧ ¬ session.Calls due request))

/-- A scheduled task has not been touched since an earlier session. -/
structure Rests (task : PendingRetry) (since later : Session) : Prop where
  /-- The task is in the schedule. -/
  scheduled : task ∈ later.broker.scheduled
  /-- The broker tells that the task waits for another attempt. -/
  waiting : later.broker.state? task.id = some .retryScheduled
  /-- Nothing has happened to the task; it was not handed out, above all. -/
  quiet : ∃ events, later.history = since.history ++ events ∧
    ∀ event ∈ events, event.envelope.id ≠ task.id

/-- What the next look for work does with a scheduled task whose time has come. -/
structure TurnComes (task : PendingRetry) (session : Session) : Prop where
  /-- The task joins the line behind those ahead of it. -/
  joins : ∃ behind, (session.broker.promote session.now).ready =
    session.broker.tasksAhead task ++ task.id :: behind
  /-- If nothing is ahead of the task, it is handed out. -/
  handedOut : session.broker.tasksAhead task = [] → ∃ delivery, delivery.id = task.id ∧
    (session.perform .lease).history = session.history ++ [.leased delivery]
  /-- Otherwise the first of those ahead is handed out, and the task is in line behind the rest. -/
  queued : ∀ first more, session.broker.tasksAhead task = first :: more →
    (∃ delivery, delivery.id = first ∧
      (session.perform .lease).history = session.history ++ [.leased delivery]) ∧
    (∃ behind, (session.perform .lease).broker.ready = more ++ task.id :: behind) ∧
    (session.perform .lease).broker.state? task.id = some .queued

/-! ## One request -/

/-- Time does not go backwards. -/
theorem Sound.now_le (sound : before.Sound) (step : before.Step after) :
    before.now ≤ after.now := by
  cases sound.change step with
  | advance span => exact Nat.le_add_right before.now span.nanos
  | _ => exact Nat.le_refl before.now

/-- A task stays in the schedule unless somebody looks for work when its time has come. -/
theorem Sound.scheduled_perform (sound : before.Sound) (member : task ∈ before.broker.scheduled)
    (calm : ¬ before.Calls task.due request) :
    task ∈ (before.perform request).broker.scheduled := by
  cases request with
  | publish envelope =>
    rcases before.broker.publish_cases before.now envelope with ⟨broker, published⟩ | refused
    · have same : broker.scheduled = before.broker.scheduled :=
        congrArg (·.scheduled) (Broker.publish_eq_ok published).2
      simp only [perform, published]
      show task ∈ broker.scheduled
      rw [same]
      exact member
    · simpa only [perform, refused] using member
  | lease =>
    cases isOpen : before.broker.closed with
    | true =>
      have looked : before.broker.lease before.now = (.closed, before.broker) := by
        unfold Broker.lease
        rw [isOpen]
        rfl
      simpa only [perform, looked] using member
    | false =>
      have early : before.now < task.due := Nat.lt_of_not_le fun due => calm ⟨rfl, isOpen, due⟩
      have left := sound.serving.scheduled_lease isOpen before.now
      have same : (before.perform .lease).broker = (before.broker.lease before.now).2 := by
        unfold perform
        rcases before.broker.lease before.now with ⟨_ | _ | _, _⟩ <;> rfl
      rw [same, left]
      exact List.mem_filter.2 ⟨member, decide_eq_true early⟩
  | ack delivery =>
    cases found : before.broker.find? delivery.id with
    | none =>
      simp only [perform, Broker.ack, found]
      exact member
    | some record =>
      simp only [perform, Broker.ack_eq found]
      exact member
  | fail delivery error kind =>
    cases found : before.broker.find? delivery.id with
    | none =>
      simp only [perform, Broker.fail, found]
      exact member
    | some record =>
      by_cases last : before.broker.IsLast record kind
      · simp only [perform, Broker.fail_eq_dead found last]
        exact member
      · simp only [perform, Broker.fail_eq_retry found last]
        exact (Broker.schedule_perm _ _).mem_iff.2 (List.mem_cons_of_mem _ member)
  | abandon _ | close | advance _ => exact member

/-- What happens in a change before and after which a task waits for another attempt does not happen
to this task. -/
theorem Sound.others (sound : before.Sound) (change : before.Change after) {id : TaskId}
    (waited : before.broker.state? id = some .retryScheduled)
    (waits : after.broker.state? id = some .retryScheduled) :
    ∃ events, after.history = before.history ++ events ∧
      ∀ event ∈ events, event.envelope.id ≠ id := by
  have nothingNew : before.history = before.history ++ [] := (List.append_nil _).symm
  obtain ⟨resting, foundResting, state⟩ := Option.map_eq_some_iff.1 waited
  have notHeld : ∀ delivery ∈ before.held, delivery.id ≠ id := fun delivery inHand =>
    (sound.serving.running delivery inHand).id_ne foundResting (by simp [state])
  have one : ∀ event : Event, event.envelope.id ≠ id → ∃ events,
      before.history ++ [event] = before.history ++ events ∧
        ∀ event ∈ events, event.envelope.id ≠ id := by
    intro event other
    refine ⟨[event], rfl, fun each member => ?_⟩
    rw [List.mem_singleton.1 member]
    exact other
  cases change with
  | @accept envelope broker fresh published =>
    apply one
    intro same
    have unknown : envelope.id ∉ before.broker.taskIds := fun member => fresh (sound.known _ member)
    have absent : before.broker.find? id = none := Broker.find?_eq_none_iff.2 (same ▸ unknown)
    rw [foundResting] at absent
    contradiction
  | @handOut first line record isOpen isFirst found =>
    apply one
    intro same
    have owner : record.id = first := Broker.find?_id found
    have isTask : first = id := owner.symm.trans same
    -- the first task of the line is running afterwards
    change (Broker.find? (Broker.startFirst _ before.now first line) id).map (·.state) = _ at waits
    rw [Broker.find?_startFirst before.now line found, isTask, Function.update_self] at waits
    have isRunning : some TaskState.running = some .retryScheduled := waits
    contradiction
  | acknowledge inHand => exact one _ (notHeld _ inHand)
  | giveUp inHand found last => exact one _ (notHeld _ inHand)
  | retry inHand found goesOn => exact one _ (notHeld _ inHand)
  | nothing | promote _ _ | abandon _ | close | advance _ => exact ⟨[], nothingNew, by simp⟩

/-- A task that rests goes on to rest unless somebody looks for work when its time has come. -/
theorem Rests.step (rests : Rests task since before) (sound : before.Sound)
    (step : (lull task.due).Step before after) : Rests task since after := by
  obtain ⟨request, ⟨allowed, calm⟩, rfl⟩ := step
  have change : before.Change (before.perform request) := sound.change ⟨request, allowed, rfl⟩
  have member := sound.scheduled_perform rests.scheduled calm
  have waits := (sound.of_change change).serving.state?_of_scheduled member
  obtain ⟨earlier, sinceThen, quiet⟩ := rests.quiet
  obtain ⟨events, longer, others⟩ := sound.others change rests.waiting waits
  refine ⟨member, waits, earlier ++ events, ?_, ?_⟩
  · rw [← List.append_assoc, ← sinceThen]
    exact longer
  · intro event happened
    rcases List.mem_append.1 happened with early | late
    · exact quiet event early
    · exact others event late

/-- A look for work at the open broker hands out the first task of the line, and leaves the rest. -/
theorem Sound.perform_lease (sound : session.Sound) (isOpen : session.broker.closed = false)
    {first : TaskId} {line : List TaskId}
    (isFirst : (session.broker.promote session.now).ready = first :: line) :
    (∃ delivery, delivery.id = first ∧
      (session.perform .lease).history = session.history ++ [.leased delivery]) ∧
    (session.perform .lease).broker.ready = line := by
  rcases sound.serving.lease_cases session.now with ⟨closed, -⟩ | ⟨-, empty, -⟩ |
    ⟨id, rest, record, -, ready, found, looked⟩
  · rw [isOpen] at closed
    contradiction
  · rw [isFirst] at empty
    contradiction
  · obtain ⟨rfl, rfl⟩ := List.cons.inj (isFirst.symm.trans ready)
    have owner : record.id = first := Broker.find?_id found
    simp only [perform, looked]
    exact ⟨⟨(record.startAttempt session.now).delivery, owner, rfl⟩, rfl⟩

/-- When the time of a scheduled task has come, a look for work at the open broker is its turn. -/
theorem Sound.turnComes (sound : session.Sound) (member : task ∈ session.broker.scheduled)
    (isOpen : session.broker.closed = false) (due : task.due ≤ session.now) :
    TurnComes task session := by
  obtain ⟨behind, line⟩ := sound.serving.ready_promote_of_due member due
  refine ⟨⟨behind, line⟩, fun alone => ?_, fun first more ahead => ?_⟩
  · rw [alone, List.nil_append] at line
    exact (sound.perform_lease isOpen line).1
  · rw [ahead, List.cons_append] at line
    obtain ⟨leased, rest⟩ := sound.perform_lease isOpen line
    have looked : (session.perform .lease).Sound :=
      sound.of_change (sound.change ⟨.lease, trivial, rfl⟩)
    have inLine : task.id ∈ (session.perform .lease).broker.ready := by simp [rest]
    exact ⟨leased, ⟨behind, rest⟩, (looked.serving.agree.mem_ready task.id).1 inLine⟩

/-! ## Any number of requests -/

/-- While nobody looks for work when its time has come, a task goes on to rest. -/
theorem Rests.run {policy : RetryPolicy} {begin : Moment}
    (reached : (start policy begin).Leads since) (rests : Rests task since since)
    (calm : (lull task.due).Leads since later) :
    Rests task since later ∧ later.Sound := by
  induction calm with
  | refl => exact ⟨rests, leads_sound reached⟩
  | @tail middle last earlier step ih =>
    obtain ⟨resting, sound⟩ := ih
    have allowed : middle.Step last := by
      obtain ⟨request, allowed, same⟩ := step
      exact ⟨request, allowed.1, same⟩
    exact ⟨resting.step sound step, sound.of_change (sound.change allowed)⟩

/-- Before a time nobody looks for work at or after it. -/
theorem lull_of_early {policy : RetryPolicy} {begin : Moment}
    (reached : (start policy begin).Leads since) (run : since.Leads later)
    (early : later.now < due) : (lull due).Leads since later := by
  induction run with
  | refl => exact .refl
  | @tail middle last earlier step ih =>
    have sound : middle.Sound := leads_sound (reached.trans earlier)
    have stillEarly : middle.now < due := Nat.lt_of_le_of_lt (sound.now_le step) early
    obtain ⟨request, allowed, same⟩ := step
    have calm : ¬ middle.Calls due request := fun calls => Nat.not_le.2 stillEarly calls.2.2
    exact (ih stillEarly).tail ⟨request, ⟨allowed, calm⟩, same⟩

/-- A task rests when its attempt has failed and another one was scheduled. -/
theorem Sound.rests_of_fail (sound : before.Sound) (inHand : delivery ∈ before.held)
    {delay : Duration}
    (retried :
      before.broker.verdict? before.now delivery error kind = some (.retryScheduled delay)) :
    Rests ⟨before.now + delay.nanos, delivery.id⟩ (before.perform (.fail delivery error kind))
      (before.perform (.fail delivery error kind)) := by
  obtain ⟨record, found, -⟩ := sound.serving.running delivery inHand
  have owner : record.id = delivery.id := Broker.find?_id found
  have failed : (before.perform (.fail delivery error kind)).Sound :=
    sound.of_change (sound.change ⟨.fail delivery error kind, inHand, rfl⟩)
  have member : ⟨before.now + delay.nanos, delivery.id⟩ ∈
      (before.perform (.fail delivery error kind)).broker.scheduled := by
    unfold Broker.verdict? at retried
    by_cases last : before.broker.IsLast record kind
    · rw [Broker.fail_eq_dead found last] at retried
      have isLast : some Verdict.deadLettered = some (.retryScheduled delay) := retried
      cases isLast
    · rw [Broker.fail_eq_retry found last] at retried
      obtain rfl := Verdict.retryScheduled.inj (Option.some.inj retried)
      simp only [perform, Broker.fail_eq_retry found last]
      rw [← owner]
      exact (Broker.schedule_perm _ _).mem_iff.2 List.mem_cons_self
  exact ⟨member, failed.serving.state?_of_scheduled member, [], (List.append_nil _).symm, by simp⟩

/-- A delay is kept to the moment. When an attempt has failed and another one is due after a delay,
nothing happens to the task before that time, whatever is asked; and it rests until the first look
for work at the open broker at or after that time, which is its turn. -/
theorem backoff_honoured {policy : RetryPolicy} {begin : Moment} {delay : Duration}
    (run : (start policy begin).Leads before) (inHand : delivery ∈ before.held)
    (retried : before.broker.verdict? before.now delivery error kind = some (.retryScheduled delay))
    (failing : before.perform (.fail delivery error kind) = failed) :
    (∀ later, failed.Leads later → later.now < before.now + delay.nanos →
      Rests ⟨before.now + delay.nanos, delivery.id⟩ failed later) ∧
    ∀ later, (lull (before.now + delay.nanos)).Leads failed later →
      Rests ⟨before.now + delay.nanos, delivery.id⟩ failed later ∧
        (later.broker.closed = false → before.now + delay.nanos ≤ later.now →
          TurnComes ⟨before.now + delay.nanos, delivery.id⟩ later) := by
  have sound : before.Sound := leads_sound run
  have reached : (start policy begin).Leads failed :=
    run.tail ⟨.fail delivery error kind, inHand, failing⟩
  have rests : Rests ⟨before.now + delay.nanos, delivery.id⟩ failed failed := by
    rw [← failing]
    exact sound.rests_of_fail inHand retried
  refine ⟨fun later goesOn early => ?_, fun later calm => ?_⟩
  · exact (Rests.run reached rests (lull_of_early reached goesOn early)).1
  · obtain ⟨resting, laterSound⟩ := Rests.run reached rests calm
    exact ⟨resting, laterSound.turnComes resting.scheduled⟩

/-- Three tasks are worked on. -/
def threeAtWork : Session :=
  (start .default 0).run
    [.publish (mail 1), .publish (mail 2), .publish (mail 3), .lease, .lease, .lease]

/-- The attempt of the second task fails. -/
def secondRefused : Session := threeAtWork.perform (.fail ⟨mail 2, 1⟩ "refused" .transient)

/-- The other two attempts fail as well, one at once and one later, a task is published, and
somebody looks for work too early. -/
def untilDue : List Request :=
  [.fail ⟨mail 1, 1⟩ "refused" .transient, .advance (.ofSeconds 1), .lease,
    .fail ⟨mail 3, 1⟩ "refused" .transient, .publish (mail 4), .advance (.ofSeconds 1)]

/-- The second task has rested for its two seconds, and its turn comes behind the published task and
behind the one that is due at the same time and has the lesser identifier. -/
theorem backoff_honoured_secondRefused :
    (start .default 0).Leads threeAtWork ∧ ⟨mail 2, 1⟩ ∈ threeAtWork.held ∧
      threeAtWork.broker.verdict? 0 ⟨mail 2, 1⟩ "refused" .transient =
        some (.retryScheduled (.ofSeconds 2)) ∧
      (lull (Duration.ofSeconds 2).nanos).Leads secondRefused (secondRefused.run untilDue) ∧
      Rests ⟨(Duration.ofSeconds 2).nanos, .ofNat 2⟩ secondRefused (secondRefused.run untilDue) ∧
      TurnComes ⟨(Duration.ofSeconds 2).nanos, .ofNat 2⟩ (secondRefused.run untilDue) ∧
      (secondRefused.run untilDue).broker.tasksAhead ⟨(Duration.ofSeconds 2).nanos, .ofNat 2⟩ =
        [.ofNat 4, .ofNat 1] := by
  have run : (start .default 0).Leads threeAtWork := machine.leads_run _ _ (by decide +kernel)
  have inHand : ⟨mail 2, 1⟩ ∈ threeAtWork.held := by decide +kernel
  have retried : threeAtWork.broker.verdict? threeAtWork.now ⟨mail 2, 1⟩ "refused" .transient =
      some (.retryScheduled (.ofSeconds 2)) := by decide +kernel
  have calm : (lull (Duration.ofSeconds 2).nanos).Leads secondRefused
      (secondRefused.run untilDue) :=
    (lull (Duration.ofSeconds 2).nanos).leads_run _ _ (by decide +kernel)
  obtain ⟨rests, turn⟩ := (backoff_honoured run inHand retried rfl).2 _ calm
  exact ⟨run, inHand, retried, calm, rests, turn (by decide +kernel) (by decide +kernel),
    by decide +kernel⟩

end Session

end ReminderDispatch
