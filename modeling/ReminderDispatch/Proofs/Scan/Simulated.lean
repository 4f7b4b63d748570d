import ReminderDispatch.Proofs.Scan.Timetable
import ReminderDispatch.Simulation.Actor

/-!
# Simulated scanners

The turn of a scanner loop in a simulation is a sequence of events of a spawned scanner, one for each
answer that a scan hears, and no time passes in it. So a spawned scanner that is never late can
follow a simulated loop from its start on, one turn after the other.
-/

namespace ReminderDispatch.Simulation

variable {world : World} {loop : RunningScanner} {spawned : SpawnedScanner} {ticker : Ticker}
  {scan : ScanUnderway}

/-! ## Executions -/

/-- What is left of a program that has come so far with its execution. -/
inductive Execution.Leaves {α : Type} : Execution α → Program α → Prop where
  /-- All of a program that has yet to start is left. -/
  | ready (program : Program α) : Leaves (.ready program) program
  /-- A call goes on, and then the program. -/
  | calling (call : Call) (progress : CallInProgress call) (limit : Option Duration)
      (next : Option call.Reply → Program α) :
      Leaves (.calling call progress next) (.ask call limit next)
  /-- Nothing is left. -/
  | returned (value : α) : Leaves (.returned value) (.done value)

/-- The clock does not move when activities wake. -/
theorem World.now_foldl_wake (world : World) (woken : List Nat) :
    (woken.foldl wake world).now = world.now := by
  induction woken generalizing world with
  | nil => rfl
  | cons number more ih =>
    have same : (world.wake number).now = world.now := by
      unfold wake
      split <;> rfl
    exact (ih (world.wake number)).trans same

/-- The clock does not move when a world answers a call. -/
theorem World.now_answer (world : World) (call : Call) : (world.answer call).2.now = world.now := by
  cases call with
  | dueReminders | dueBirthdays | mark | createNotification | send | handOver => rfl
  | publish type body =>
    show (world.publish type body).2.now = world.now
    unfold publish
    dsimp only
    split
    · rfl
    · exact now_foldl_wake _ _

/-- The clock does not move when somebody looks what has come of a call. -/
theorem CallInProgress.now_status {call : Call} (progress : CallInProgress call) (world : World) :
    (progress.status world).2.now = world.now := by
  unfold status
  split
  · cases progress.ending with
    | answered =>
      have same := world.now_answer call
      dsimp only
      split <;> simpa only [*] using same
    | refused failure => rfl
    | crashed => rfl
    | never => rfl
  · split <;> rfl

/-- The answer to one call, and no answer to any other. -/
def onlyReply {call : Call} (reply : Option call.Reply) (other : Call) : Option other.Reply :=
  if same : call = other then same ▸ reply else none

/-- The call has its answer. -/
theorem onlyReply_self {call : Call} (reply : Option call.Reply) : onlyReply reply call = reply :=
  dif_pos rfl

/-! ## Loops -/

/-- A simulated loop is where a spawned scanner is. -/
inductive RunningScanner.IsAt : RunningScanner → ScanLoop ScanUnderway → Prop where
  /-- Both wait for the beginning of a minute. -/
  | aligning (scanner : Scanner) (minute : Moment) :
      IsAt (.aligning scanner minute) (.aligning scanner minute)
  /-- Both wait for a tick. -/
  | resting (scanner : Scanner) (ticker : Ticker) :
      IsAt (.resting scanner ticker) (.resting scanner ticker)
  /-- Both make a scan, and have come equally far with it. -/
  | scanning (ticker : Ticker) {execution : Execution (Scanner × Except IncompleteScan ScanReport)}
      {scan : ScanUnderway} (leaves : execution.Leaves scan.left) :
      IsAt (.scanning ticker execution) (.scanning ticker scan)
  /-- Both have stopped. -/
  | stopped : IsAt .stopped .stopped
  /-- Both broke off. -/
  | crashed : IsAt .crashed .crashed

/-- A spawned scanner can do what a simulated loop has done in a turn that took no time. -/
def Reaches (spawned : SpawnedScanner) (world : World) (outcome : RunningScanner × World) : Prop :=
  ∃ after loop, SpawnedScanner.punctual.Leads spawned after ∧ after.task = .running loop ∧
    outcome.1.IsAt loop ∧ after.handle = spawned.handle ∧ after.now = outcome.2.now ∧
    outcome.2.now = world.now

/-- What happens at once happens in time. -/
theorem step_at_once (event : SpawnedScanner.Event) {after : SpawnedScanner}
    (allowed : spawned.Allows event) (performed : spawned.perform event = after)
    (atOnce : after.now = spawned.now) : SpawnedScanner.punctual.Step spawned after := by
  refine ⟨event, ⟨allowed, fun alarm _ => ?_⟩, performed⟩
  rw [performed, atOnce]
  exact Nat.le_max_left _ _

/-- A scan hears the answer to its call, and goes on with it. -/
theorem step_hear (scans : spawned.task = .running (.scanning ticker scan)) {call : Call}
    {limit : Option Duration}
    {next : Option call.Reply → Program (Scanner × Except IncompleteScan ScanReport)}
    (asks : scan.left = .ask call limit next) (reply : Option call.Reply) :
    SpawnedScanner.punctual.Step spawned
        { spawned with task := .running (.scanning ticker (scan.hear (onlyReply reply))) } ∧
      (scan.hear (onlyReply reply)).left = next reply := by
  constructor
  · refine step_at_once (.hear (onlyReply reply)) trivial ?_ rfl
    show spawned.hear _ = _
    unfold SpawnedScanner.hear
    rw [scans]
  · unfold ScanUnderway.hear
    rw [asks]
    exact congrArg next (onlyReply_self reply)

/-- The scan of a spawned scanner can come as far as the execution of a simulated scan, or break off
with it. -/
def GoesOn (spawned : SpawnedScanner) (ticker : Ticker) (world : World)
    (outcome : Execution (Scanner × Except IncompleteScan ScanReport) × World) : Prop :=
  ∃ later, SpawnedScanner.punctual.Leads spawned
      { spawned with task := .running (.scanning ticker later) } ∧
    (outcome.1 = .crashed ∨ outcome.1.Leaves later.left) ∧ outcome.2.now = world.now

/-- A scan that does nothing has come as far as before. -/
theorem goesOn_self {outcome : Execution (Scanner × Except IncompleteScan ScanReport) × World}
    (scans : spawned.task = .running (.scanning ticker scan))
    (reached : outcome.1 = .crashed ∨ outcome.1.Leaves scan.left)
    (sameNow : outcome.2.now = world.now) : GoesOn spawned ticker world outcome := by
  refine ⟨scan, ?_, reached, sameNow⟩
  rw [← scans]
  exact .refl

/-- A scan that has heard an answer goes on with it. -/
theorem goesOn_hear {outcome : Execution (Scanner × Except IncompleteScan ScanReport) × World}
    (scans : spawned.task = .running (.scanning ticker scan)) {call : Call}
    {limit : Option Duration}
    {next : Option call.Reply → Program (Scanner × Except IncompleteScan ScanReport)}
    (asks : scan.left = .ask call limit next) {reply : Option call.Reply} {answered : World}
    (sameNow : answered.now = world.now)
    (rest : ∀ (spawned : SpawnedScanner) (scan : ScanUnderway),
      spawned.task = .running (.scanning ticker scan) → scan.left = next reply →
        GoesOn spawned ticker answered outcome) :
    GoesOn spawned ticker world outcome := by
  obtain ⟨first, left⟩ := step_hear scans asks reply
  obtain ⟨later, leads, reached, now⟩ := rest { spawned with
    task := .running (.scanning ticker (scan.hear (onlyReply reply))) } _ rfl left
  exact ⟨later, .head first leads, reached, now.trans sameNow⟩

/-- A program is executed as far as it can be, one answer after the other. -/
theorem goesOn_start (world : World)
    (program : Program (Scanner × Except IncompleteScan ScanReport))
    (scans : spawned.task = .running (.scanning ticker scan)) (left : scan.left = program) :
    GoesOn spawned ticker world (Execution.start program world) := by
  induction program generalizing world spawned scan with
  | done value => exact goesOn_self scans (.inr (by rw [left]; exact .returned value)) rfl
  | ask call limit next ih =>
    have sameNow := (world.begin call limit).1.now_status (world.begin call limit).2
    rw [Execution.start]
    dsimp only
    split
    · rename_i reply answered status
      rw [status] at sameNow
      exact goesOn_hear scans left sameNow fun spawned scan => ih reply answered
    · rename_i answered status
      rw [status] at sameNow
      exact goesOn_self scans (.inl rfl) sameNow
    · rename_i answered status
      rw [status] at sameNow
      exact goesOn_self scans (.inr (left ▸ .calling call _ limit next)) sameNow

/-- An execution goes on as far as it can. -/
theorem goesOn_resume (world : World)
    {execution : Execution (Scanner × Except IncompleteScan ScanReport)}
    (scans : spawned.task = .running (.scanning ticker scan)) (leaves : execution.Leaves scan.left) :
    GoesOn spawned ticker world (execution.resume world) := by
  generalize isLeft : scan.left = program at leaves
  cases leaves with
  | ready => exact goesOn_start world program scans isLeft
  | returned value => exact goesOn_self scans (.inr (isLeft ▸ .returned value)) rfl
  | calling call progress limit next =>
    have sameNow := progress.now_status world
    unfold Execution.resume
    dsimp only
    split
    · rename_i reply answered status
      rw [status] at sameNow
      exact goesOn_hear scans isLeft sameNow fun spawned scan =>
        goesOn_start answered (next reply)
    · rename_i answered status
      rw [status] at sameNow
      exact goesOn_self scans (.inl rfl) sameNow
    · rename_i answered status
      rw [status] at sameNow
      exact goesOn_self scans (.inr (isLeft ▸ .calling call progress limit next)) sameNow

/-! ## Turns -/

/-- A turn in which nothing happens. -/
theorem reaches_self {point : ScanLoop ScanUnderway} (runs : spawned.task = .running point)
    (isAt : loop.IsAt point) (sameNow : spawned.now = world.now) :
    Reaches spawned world (loop, world) :=
  ⟨spawned, point, .refl, runs, isAt, rfl, sameNow, rfl⟩

/-- A turn in which one thing happens at once. -/
theorem reaches_become (event : SpawnedScanner.Event) (allowed : spawned.Allows event)
    {point : ScanLoop ScanUnderway} (performed : spawned.perform event = spawned.become point)
    (isAt : loop.IsAt point) (sameNow : spawned.now = world.now) :
    Reaches spawned world (loop, world) :=
  ⟨spawned.become point, point, .single (step_at_once event allowed performed rfl), rfl, isAt, rfl,
    sameNow, rfl⟩

/-- Both loops wait for the next tick, or stop. -/
theorem rest_isAt (signal : StopSignal) (scanner : Scanner) (ticker : Ticker) :
    RunningScanner.IsAt (.rest signal scanner ticker) (.rest signal scanner ticker) := by
  unfold ScanLoop.rest
  split
  · exact .stopped
  · exact .resting scanner ticker

/-- Both loops wait for the first tick, or stop. -/
theorem ticking_isAt (signal : StopSignal) (scanner : Scanner) (now : Moment) :
    RunningScanner.IsAt (.ticking signal scanner now) (.ticking signal scanner now) := by
  unfold ScanLoop.ticking
  split
  · exact rest_isAt signal scanner _
  · exact .crashed

/-- Both loops begin at one point. -/
theorem start_isAt (signal : StopSignal) (scanner : Scanner) (now : Moment) (wall : Instant) :
    RunningScanner.IsAt (.start signal scanner now wall) (.start signal scanner now wall) := by
  unfold ScanLoop.start
  split
  · exact .aligning scanner _
  · exact ticking_isAt signal scanner now

/-- Both loops go on after a wait. -/
theorem proceed_isAt {point : ScanLoop ScanUnderway} (isAt : loop.IsAt point)
    (signal : StopSignal) (now deadline : Moment) (wall : Instant) :
    RunningScanner.IsAt (loop.proceed signal now fun scanner => .ready (scanner.scan wall))
      (point.proceed signal now (.start deadline now wall)) := by
  cases isAt with
  | aligning scanner minute =>
    unfold ScanLoop.proceed
    dsimp only
    split
    · exact ticking_isAt signal scanner now
    · exact .aligning scanner minute
  | resting scanner ticker =>
    unfold ScanLoop.proceed
    dsimp only
    split
    · exact .scanning _ (.ready _)
    · exact .resting scanner ticker
  | scanning ticker leaves => exact .scanning ticker leaves
  | stopped => exact .stopped
  | crashed => exact .crashed

/-- Both loops hear the holder. -/
theorem heed_isAt {point : ScanLoop ScanUnderway} (isAt : loop.IsAt point) :
    RunningScanner.IsAt loop.heed point.heed := by
  cases isAt with
  | aligning | resting | stopped => exact .stopped
  | scanning ticker leaves => exact .scanning ticker leaves
  | crashed => exact .crashed

/-- A loop that is started is where a spawned scanner is that has begun to run. -/
theorem start_reaches (scanner : Scanner) (world : World) :
    Reaches (.new scanner world.now) world
      (.start .silent scanner world.now world.wall, world) :=
  reaches_become (.begin world.wall) trivial rfl (start_isAt .silent scanner world.now world.wall)
    rfl

/-- The turn of a loop that waits is what a spawned scanner does that waits. -/
theorem waits_reaches {point : ScanLoop ScanUnderway} (runs : spawned.task = .running point)
    (isAt : loop.IsAt point) (goesOn : point.isOver = false)
    (sameNow : spawned.now = world.now) :
    Reaches spawned world
      (if spawned.signal.endsWaiting then (loop.heed, world)
      else (loop.proceed spawned.signal world.now fun scanner =>
        .ready (scanner.scan world.wall), world)) := by
  split
  · rename_i told
    refine reaches_become .heed told ?_ (heed_isAt isAt) sameNow
    show spawned.heed = _
    unfold SpawnedScanner.heed
    rw [runs]
    exact if_neg (by rw [goesOn]; exact Bool.false_ne_true)
  · refine reaches_become (.wake world.wall) trivial ?_
      (proceed_isAt isAt _ _ (point.alarm.getD spawned.now) _) sameNow
    show spawned.wake world.wall = _
    unfold SpawnedScanner.wake
    rw [runs, ← sameNow]
    exact if_neg (by rw [goesOn]; exact Bool.false_ne_true)

/-- A scan that has nothing left to do ends. -/
theorem step_finish (scans : spawned.task = .running (.scanning ticker scan))
    {result : Scanner × Except IncompleteScan ScanReport} (ended : scan.left = .done result) :
    SpawnedScanner.punctual.Step spawned
      ((spawned.close scan (.finished result)).become (.rest spawned.signal result.1 ticker)) := by
  refine step_at_once .finish trivial ?_ rfl
  show spawned.finish = _
  unfold SpawnedScanner.finish
  rw [scans]
  dsimp only
  rw [ended]

/-- The turn of a loop that makes a scan is what a spawned scanner does that makes it. -/
theorem scans_reaches {execution : Execution (Scanner × Except IncompleteScan ScanReport)}
    (runs : spawned.task = .running (.scanning ticker scan)) (leaves : execution.Leaves scan.left)
    (sameNow : spawned.now = world.now) :
    Reaches spawned world (scannerTurn spawned.signal world (.scanning ticker execution)) := by
  obtain ⟨later, leads, reached, now⟩ := goesOn_resume world runs leaves
  unfold scannerTurn
  dsimp only
  generalize execution.resume world = outcome at reached now ⊢
  obtain ⟨execution, after⟩ := outcome
  have atOnce : spawned.now = after.now := sameNow.trans now.symm
  cases execution with
  | ready program =>
    have leaves := reached.resolve_left (by simp)
    exact ⟨_, _, leads, rfl, .scanning ticker leaves, rfl, atOnce, now⟩
  | calling call progress next =>
    have leaves := reached.resolve_left (by simp)
    exact ⟨_, _, leads, rfl, .scanning ticker leaves, rfl, atOnce, now⟩
  | crashed =>
    have last := leads.tail (step_at_once .breakOff trivial rfl rfl)
    exact ⟨_, .crashed, last, rfl, .crashed, rfl, atOnce, now⟩
  | returned result =>
    have leaves := reached.resolve_left (by simp)
    generalize isLeft : later.left = program at leaves
    cases leaves
    have last := leads.tail (step_finish rfl isLeft)
    exact ⟨_, _, last, rfl, rest_isAt spawned.signal result.1 ticker, rfl, atOnce, now⟩

/-- The turn of a simulated loop is what a spawned scanner at the same point does. -/
theorem scannerTurn_reaches {point : ScanLoop ScanUnderway} (isAt : loop.IsAt point)
    (runs : spawned.task = .running point) (sameNow : spawned.now = world.now) :
    Reaches spawned world (scannerTurn spawned.signal world loop) := by
  cases isAt with
  | aligning scanner minute => exact waits_reaches runs (.aligning scanner minute) rfl sameNow
  | resting scanner ticker => exact waits_reaches runs (.resting scanner ticker) rfl sameNow
  | scanning ticker leaves => exact scans_reaches runs leaves sameNow
  | stopped =>
    unfold scannerTurn
    dsimp only
    split <;> exact reaches_self runs .stopped sameNow
  | crashed =>
    unfold scannerTurn
    dsimp only
    split <;> exact reaches_self runs .crashed sameNow

end ReminderDispatch.Simulation
