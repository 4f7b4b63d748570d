import ReminderDispatch.Proofs.Broker.Deliveries
import ReminderDispatch.Proofs.Scan.Deadlines
import ReminderDispatch.Proofs.Scan.Simulated
import ReminderDispatch.Simulation.Run

/-!
# Programs of the foreground

A simulated system performs the programs of its foreground. While it has no actors, its world makes
surroundings for a scan: the script says how long each call takes and whether it is answered at all,
and the collaborators answer it, of whose answers to a scan none breaks off. So what is shown of
scans in all surroundings holds of the simulation.
-/

namespace ReminderDispatch.Simulation

variable {α : Type} {world : World} {system : System} {call : Call} {limit : Option Duration}

/-- A failure of an operation, which one does not matter. -/
def someFailure : (operation : Operation) → operation.Failure
  | .dueReminders | .dueBirthdays | .mark | .createNotification => StoreError.unavailable ""
  | .publish => BrokerError.closed
  | .send => TransportError.rejected ""
  | .handOver => HandlerError.transient ""

namespace World

/-- The world at a moment, if this has yet to come. -/
def later (world : World) (moment : Moment) : World :=
  if moment ≤ world.now then world else world.moveTo moment

/-- A world answers calls when its script says. -/
def surroundings : Surroundings World where
  delay call _ world :=
    let behaviour := (world.script.take call.operation).1
    match behaviour.ending with
    | .never => none
    | .answered | .refused _ | .crashed => some behaviour.delay
  answer call now world :=
    let behaviour := (world.script.take call.operation).1
    let ended := (world.begin call none).2.later (now + behaviour.delay.nanos)
    match behaviour.ending with
    | .refused failure => (.error failure, ended)
    | .answered | .crashed | .never =>
      ((ended.answer call).1.getD (.error (someFailure call.operation)), (ended.answer call).2)
  giveUp call limit now world := (world.begin call none).2.later (now + limit.nanos)

/-- Nobody can go on or listens for tasks, and according to the script nobody ever breaks off. -/
structure IsQuiet (world : World) : Prop where
  /-- Nobody can go on. -/
  awake : world.awake = []
  /-- Nobody listens for tasks. -/
  listeners : world.exchange.bell.listeners = []
  /-- Nobody breaks off. -/
  script : ∀ operation, ∀ behaviour ∈ world.script.upcoming operation,
    behaviour.ending ≠ .crashed

/-- A moment that is not past comes. -/
theorem now_later {moment : Moment} (notPast : world.now ≤ moment) :
    (world.later moment).now = moment := by
  unfold later
  split
  · rename_i hasCome
    exact Nat.le_antisymm notPast hasCome
  · rfl

/-- Nothing but the clocks changes when time passes. -/
theorem IsQuiet.later (quiet : world.IsQuiet) (moment : Moment) :
    (world.later moment).IsQuiet := by
  unfold World.later
  split
  · exact quiet
  · exact ⟨quiet.awake, quiet.listeners, quiet.script⟩

/-- What is left of a script says no more than before. -/
theorem take_upcoming (script : Script) (operation other : Operation)
    {behaviour : Behaviour other.Failure}
    (member : behaviour ∈ (script.take operation).2.upcoming other) :
    behaviour ∈ script.upcoming other := by
  unfold Script.take at member
  cases upcoming : script.upcoming operation with
  | nil =>
    rw [upcoming] at member
    exact member
  | cons first more =>
    rw [upcoming] at member
    have left : behaviour ∈
        if same : operation = other then same ▸ more else script.upcoming other := member
    by_cases same : operation = other
    · subst same
      rw [dif_pos rfl] at left
      rw [upcoming]
      exact List.mem_cons_of_mem first left
    · rw [dif_neg same] at left
      exact left

/-- The next behaviour is to answer at once, or the script says it. -/
theorem take_cases (script : Script) (operation : Operation) :
    (script.take operation).1 = .prompt ∨
      (script.take operation).1 ∈ script.upcoming operation := by
  unfold Script.take
  cases script.upcoming operation with
  | nil => exact .inl rfl
  | cons first more => exact .inr List.mem_cons_self

/-- The world is quiet while a call goes on. -/
theorem IsQuiet.begin (quiet : world.IsQuiet) (call : Call) (limit : Option Duration) :
    (world.begin call limit).2.IsQuiet :=
  ⟨quiet.awake, quiet.listeners, fun operation behaviour member =>
    quiet.script operation behaviour (take_upcoming world.script call.operation operation member)⟩

/-- A call does not break off. -/
theorem IsQuiet.ending (quiet : world.IsQuiet) (operation : Operation) :
    (world.script.take operation).1.ending ≠ .crashed := by
  rcases take_cases world.script operation with prompt | member
  · rw [prompt]
    simp [Behaviour.prompt]
  · exact quiet.script operation _ member

/-- A bell for which nobody listens wakes nobody. -/
theorem publish_unheard {exchange next : Exchange} {now : Moment} {envelope : Envelope}
    {woken : Option Nat} (listeners : exchange.bell.listeners = [])
    (published : exchange.publish now envelope = (.ok woken, next)) :
    woken = none ∧ next.bell.listeners = [] := by
  unfold Exchange.publish at published
  rcases accepted : exchange.broker.publish now envelope with ⟨failure | _, broker⟩
  · rw [accepted] at published
    cases published
  · rw [accepted] at published
    have rung : (Exchange.ring { exchange with broker := broker }) =
        (none, ⟨broker, ⟨[], true⟩⟩) := by
      unfold Exchange.ring Bell.ring
      rw [listeners]
    simp only [rung] at published
    obtain ⟨isOk, rfl⟩ := Prod.mk.inj published
    exact ⟨(Except.ok.inj isOk).symm, rfl⟩

/-- Nobody wakes when a task is published. -/
theorem IsQuiet.publish (quiet : world.IsQuiet) (type : TaskType) (body : List UInt8) :
    (world.publish type body).2.IsQuiet := by
  rcases published : world.exchange.publish world.now
      ⟨.madeAt world.brokerClock world.published, type, body, world.brokerClock⟩ with
    ⟨failure | woken, exchange⟩
  · obtain rfl := Exchange.publish_refused published
    simp only [World.publish, published]
    exact quiet
  · obtain ⟨rfl, listeners⟩ := publish_unheard quiet.listeners published
    simp only [World.publish, published]
    exact ⟨quiet.awake, listeners, quiet.script⟩

/-- The world is quiet after a call. -/
theorem IsQuiet.answer (quiet : world.IsQuiet) (call : Call) : (world.answer call).2.IsQuiet := by
  cases call with
  | publish type body => exact quiet.publish type body
  | dueReminders | dueBirthdays | mark | createNotification | send | handOver =>
    exact ⟨quiet.awake, quiet.listeners, quiet.script⟩

/-- No call of a scan breaks off. -/
theorem exists_answer (world : World) (isOfScan : call.IsOfScan) :
    ∃ told after, world.answer call = (some told, after) := by
  cases call with
  | dueReminders | dueBirthdays | mark | publish => exact ⟨_, _, rfl⟩
  | createNotification | send | handOver => exact isOfScan.elim

/-- A call ends when the script says, if it ends. -/
theorem endsAt_begin (world : World) (call : Call) (limit : Option Duration) :
    (world.begin call limit).1.endsAt =
      (surroundings.delay call world.now world).map fun delay => world.now + delay.nanos := by
  unfold World.begin surroundings
  dsimp only
  cases (world.script.take call.operation).1.ending <;> rfl

/-- A call that is late is given up when its limit has passed. -/
theorem status_late {limit : Duration}
    (late : isLate (some limit) (surroundings.delay call world.now world) = true) :
    (world.begin call (some limit)).1.alarm = some (world.now + limit.nanos) ∧
      (world.begin call (some limit)).1.status
          ((world.begin call (some limit)).2.later (world.now + limit.nanos)) =
        (.over none, surroundings.giveUp call limit world.now world) := by
  have endsAt := endsAt_begin world call (some limit)
  have limitAt : (world.begin call (some limit)).1.limitAt = some (world.now + limit.nanos) := rfl
  have now : ((world.begin call (some limit)).2.later (world.now + limit.nanos)).now =
      world.now + limit.nanos := now_later (Nat.le_add_right world.now limit.nanos)
  unfold CallInProgress.alarm CallInProgress.status
  rw [endsAt, limitAt, now]
  cases time : surroundings.delay call world.now world with
  | none => exact ⟨rfl, if_pos (decide_eq_true (Nat.le_refl _))⟩
  | some delay =>
    rw [time] at late
    have shorter : limit.nanos < delay.nanos := of_decide_eq_true late
    have earlierLimit : world.now + limit.nanos < world.now + delay.nanos :=
      Nat.add_lt_add_left shorter world.now
    have goesOn : ¬ hasCome (world.now + limit.nanos) (some (world.now + delay.nanos)) = true :=
      fun ended => Nat.not_le_of_lt earlierLimit (of_decide_eq_true ended)
    constructor
    · exact congrArg some (Nat.min_eq_right (Nat.le_of_lt earlierLimit))
    · rw [Option.map_some, if_neg goesOn]
      exact if_pos (decide_eq_true (Nat.le_refl _))

/-- A call of a scan that is not late is answered. -/
theorem status_inTime {delay : Duration} (quiet : world.IsQuiet) (isOfScan : call.IsOfScan)
    (answered : surroundings.delay call world.now world = some delay)
    (inTime : isLate limit (some delay) = false) :
    (world.begin call limit).1.alarm = some (world.now + delay.nanos) ∧
      (world.begin call limit).1.status
          ((world.begin call limit).2.later (world.now + delay.nanos)) =
        (.over (some (surroundings.answer call world.now world).1),
          (surroundings.answer call world.now world).2) := by
  have endsAt := endsAt_begin world call limit
  rw [answered] at endsAt
  have limitAt : (world.begin call limit).1.limitAt =
      limit.map fun limit => world.now + limit.nanos := rfl
  have now : ((world.begin call limit).2.later (world.now + delay.nanos)).now =
      world.now + delay.nanos := now_later (Nat.le_add_right world.now delay.nanos)
  constructor
  · unfold CallInProgress.alarm
    rw [endsAt, limitAt]
    cases limit with
    | none => rfl
    | some limit =>
      have notShorter : delay.nanos ≤ limit.nanos :=
        Nat.le_of_not_lt (of_decide_eq_false inTime)
      exact congrArg some (Nat.min_eq_left (Nat.add_le_add_left notShorter world.now))
  · have ended : hasCome (world.now + delay.nanos) (some (world.now + delay.nanos)) = true :=
      decide_eq_true (Nat.le_refl _)
    have notCrashed := quiet.ending call.operation
    unfold CallInProgress.status
    rw [endsAt, now, Option.map_some, if_pos ended]
    obtain ⟨told, after, answers⟩ :=
      exists_answer ((world.begin call none).2.later (world.now + delay.nanos)) isOfScan
    unfold surroundings at answered ⊢
    unfold World.begin at answers ⊢
    dsimp only at answered answers ⊢
    cases ending : (world.script.take call.operation).1.ending with
    | answered =>
      rw [ending] at answered
      obtain rfl := Option.some.inj answered
      dsimp only
      rw [answers]
      rfl
    | refused failure =>
      rw [ending] at answered
      obtain rfl := Option.some.inj answered
      rfl
    | crashed => exact absurd ending notCrashed
    | never =>
      rw [ending] at answered
      cases answered

/-- The world is quiet after somebody has looked what has come of a call. -/
theorem IsQuiet.status (quiet : world.IsQuiet) (progress : CallInProgress call) :
    (progress.status world).2.IsQuiet := by
  unfold CallInProgress.status
  split
  · cases progress.ending with
    | answered =>
      have after := quiet.answer call
      dsimp only
      split <;> simpa only [*] using after
    | refused failure => exact quiet
    | crashed => exact quiet
    | never => exact quiet
  · split <;> exact quiet

/-- What the surroundings do about a call of a scan is found out at the alarm of this call. -/
theorem status_of_await {awaited : Awaited World call} (quiet : world.IsQuiet)
    (isOfScan : call.IsOfScan) (awaits : surroundings.await call limit world.now world = some awaited) :
    world.now ≤ awaited.ended ∧ (world.begin call limit).1.alarm = some awaited.ended ∧
      (world.begin call limit).1.status ((world.begin call limit).2.later awaited.ended) =
        (.over awaited.reply, awaited.after) := by
  unfold Surroundings.await at awaits
  dsimp only at awaits
  cases late : isLate limit (surroundings.delay call world.now world) with
  | true =>
    rw [if_pos late] at awaits
    cases limit with
    | none => cases late
    | some limit =>
      obtain rfl := Option.some.inj awaits
      exact ⟨Nat.le_add_right _ _, status_late late⟩
  | false =>
    rw [late, if_neg Bool.false_ne_true] at awaits
    cases time : surroundings.delay call world.now world with
    | none =>
      rw [time] at awaits
      cases awaits
    | some delay =>
      rw [time] at awaits late
      obtain rfl := Option.some.inj awaits
      exact ⟨Nat.le_add_right _ _, status_inTime quiet isOfScan time late⟩

end World

/-- While nobody else is there, waiting for a moment is nothing but to let it come. -/
theorem System.wait_alone (system : System) (alone : system.actors = [])
    (awake : system.world.awake = []) (moment : Moment) :
    system.wait (some moment) (fun _ => false) =
      { system with world := system.world.later moment } := by
  have twoSteps : 2 ≤ patience := by decide
  obtain ⟨more, isPatience⟩ := Nat.exists_eq_add_of_le' twoSteps
  unfold wait
  rw [isPatience]
  unfold waitWithin World.later
  by_cases past : moment ≤ system.world.now
  · have isPast : hasCome system.world.now (some moment) = true := decide_eq_true past
    rw [if_pos past, isPast, Bool.or_true, if_pos rfl]
  · have isFuture : hasCome system.world.now (some moment) = false := decide_eq_false past
    have next : earlier system.nextAlarm (some moment) = some moment := by
      unfold nextAlarm
      rw [alone]
      rfl
    have moved : system.moveTo moment =
        { system with world := system.world.moveTo moment } := by
      unfold moveTo alarmed
      dsimp only
      rw [alone, List.filter_nil, List.mergeSort_nil]
      rfl
    rw [if_neg past, isFuture, awake, next]
    show waitWithin (some moment) (fun _ => false) (more + 1) (system.moveTo moment) = _
    have hasCome : hasCome (system.world.moveTo moment).now (some moment) = true :=
      decide_eq_true (Nat.le_refl moment)
    rw [moved, waitWithin, hasCome, Bool.or_true, if_pos rfl]

/-- A system without actors performs a program that makes the calls of a scan as its world answers
it, and its clock shows the moment at which the program has come to its end. -/
theorem System.perform_alone {program : Program α} {finish : Finish World α}
    (uses : program.Uses Call.IsOfScan) (alone : system.actors = []) (quiet : system.world.IsQuiet)
    (finishes : program.finish World.surroundings system.world.now system.world = some finish) :
    system.perform program = (some finish.value, { system with world := finish.after }) ∧
      finish.after.now = finish.ended ∧ finish.after.IsQuiet := by
  induction program generalizing system finish with
  | done value =>
    obtain rfl := Option.some.inj finishes
    exact ⟨rfl, rfl, quiet⟩
  | ask call limit next ih =>
    rw [Program.finish, Option.bind_eq_bind, Option.bind_eq_some_iff] at finishes
    obtain ⟨awaited, awaits, goesOn⟩ := finishes
    rw [Option.bind_eq_bind, Option.bind_eq_some_iff] at goesOn
    obtain ⟨rest, finishesNext, same⟩ := goesOn
    obtain rfl := Option.some.inj same
    obtain ⟨notPast, alarm, status⟩ := World.status_of_await quiet uses.1 awaits
    have begun := quiet.begin call limit
    have quietAfter : awaited.after.IsQuiet := by
      have after := (begun.later awaited.ended).status (system.world.begin call limit).1
      rwa [status] at after
    have now : awaited.after.now = awaited.ended := by
      have after := (system.world.begin call limit).1.now_status
        ((system.world.begin call limit).2.later awaited.ended)
      rw [status] at after
      exact after.trans (World.now_later notPast)
    have waited := wait_alone { system with world := (system.world.begin call limit).2 } alone
      begun.awake awaited.ended
    rw [← now] at finishesNext
    have performs : System.perform (next awaited.reply) { system with world := awaited.after } =
          (some rest.value, { system with world := rest.after }) ∧
        rest.after.now = rest.ended ∧ rest.after.IsQuiet :=
      ih awaited.reply (uses.2 awaited.reply) alone quietAfter finishesNext
    have first : system.perform (.ask call limit next) =
        System.perform (next awaited.reply) { system with world := awaited.after } := by
      rw [perform]
      dsimp only
      rw [alarm, waited]
      dsimp only
      rw [status]
    rw [first]
    exact performs

/-- A scan of a simulated run without actors has an outcome, after the limits of its calls at the
latest. -/
theorem Run.scan_alone (run : Run) (alone : run.system.actors = [])
    (quiet : run.system.world.IsQuiet) :
    ∃ finish : Finish World (Scanner × Except IncompleteScan ScanReport),
      run.scan = (some finish.value.2, { run with
        system := { run.system with world := finish.after }, scanner := finish.value.1 }) ∧
      finish.after.now = finish.ended ∧
      finish.ended ≤ run.system.world.now + allowance run.scanner.limitOf finish.said := by
  obtain ⟨finish, finishes, keepsTo⟩ :=
    (run.scanner.scan_limited run.world.wall).exists_finish World.surroundings
      run.system.world.now run.system.world
  obtain ⟨performs, now, -⟩ := System.perform_alone (run.scanner.scan_uses run.world.wall) alone quiet finishes
  refine ⟨finish, ?_, now, keepsTo.ended_le⟩
  unfold Run.scan
  rw [performs]

end ReminderDispatch.Simulation
