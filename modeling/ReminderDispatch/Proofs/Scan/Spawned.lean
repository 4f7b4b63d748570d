import ReminderDispatch.Proofs.Dialogue
import ReminderDispatch.Proofs.Machine
import ReminderDispatch.Scan.Loop

/-!
# Spawned scanners

A scanner that was spawned runs by itself, beside a holder who can ask it to stop and who then waits
for its end, but no longer than a time of grace: a scanner that goes on after that is cut off at
once. A scanner that waits goes on when its wait is over or when the holder has spoken; when both has
happened, either may come first. A scan takes any time, and each of its calls is answered in any way
or not at all. It can break off.

The holder who waits is told in time: no time passes beyond the end of the grace before the holder
has an answer. A scanner may be late in every other respect.
-/

namespace ReminderDispatch

/-! ## Scans -/

/-- A scan that is being made. -/
structure ScanUnderway where
  /-- The time of the tick for which the scan is made. -/
  deadline : Moment
  /-- The time at which the scan began. -/
  begun : Moment
  /-- The reading of the clock at that time. -/
  wall : Instant
  /-- The scanner as it was then. -/
  scanner : Scanner
  /-- The calls that were made, with the answers to them. -/
  said : List Answered
  /-- What is left to do. -/
  left : Program (Scanner × Except IncompleteScan ScanReport)

namespace ScanUnderway

variable {scan later : ScanUnderway}

/-- A scan begins. -/
def start (deadline begun : Moment) (wall : Instant) (scanner : Scanner) : ScanUnderway :=
  ⟨deadline, begun, wall, scanner, [], scanner.scan wall⟩

/-- The next call of a scan is answered, or stays without an answer. -/
def hear (scan : ScanUnderway) (reply : (call : Call) → Option call.Reply) : ScanUnderway :=
  match scan.left with
  | .ask call _ next =>
    { scan with said := scan.said ++ [⟨call, reply call⟩], left := next (reply call) }
  | .done _ => scan

/-- The one scan is the other one at a later time. -/
structure Continues (later scan : ScanUnderway) : Prop where
  /-- Both are made for the same tick. -/
  deadline : later.deadline = scan.deadline
  /-- Both began at the same time. -/
  begun : later.begun = scan.begun
  /-- Both read the clock at the same time. -/
  wall : later.wall = scan.wall
  /-- Both are made by the same scanner. -/
  scanner : later.scanner = scan.scanner
  /-- Nothing that was said is forgotten. -/
  said : scan.said <+: later.said

/-- Each call of a scan may be answered in every way. -/
abbrev Anything : (call : Call) → Option call.Reply → Unit → Unit → Prop := fun _ _ _ _ => True

/-- What was said and what is left to do make up the whole scan. -/
def IsWhole (scan : ScanUnderway) : Prop :=
  ∀ more out, Program.Runs Anything scan.left () more () out →
    Program.Runs Anything (scan.scanner.scan scan.wall) () (scan.said ++ more) () out

/-- A scan is the same scan at any time. -/
theorem Continues.refl (scan : ScanUnderway) : scan.Continues scan :=
  ⟨rfl, rfl, rfl, rfl, List.prefix_rfl⟩

/-- A scan that continues a continuation of another one continues that one. -/
theorem Continues.trans {last : ScanUnderway} (second : last.Continues later)
    (first : later.Continues scan) : last.Continues scan :=
  ⟨second.deadline.trans first.deadline, second.begun.trans first.begun,
    second.wall.trans first.wall, second.scanner.trans first.scanner, first.said.trans second.said⟩

/-- A scan goes on when it hears an answer. -/
theorem hear_continues (scan : ScanUnderway) (reply : (call : Call) → Option call.Reply) :
    (scan.hear reply).Continues scan := by
  unfold hear
  cases scan.left with
  | done value => exact .refl scan
  | ask call limit next => exact ⟨rfl, rfl, rfl, rfl, List.prefix_append _ _⟩

/-- A scan that begins is whole. -/
theorem start_isWhole (deadline begun : Moment) (wall : Instant) (scanner : Scanner) :
    (start deadline begun wall scanner).IsWhole := fun _ _ runs => runs

/-- An answer belongs to what was said, and what follows it to what is left. -/
theorem IsWhole.hear (whole : scan.IsWhole) (reply : (call : Call) → Option call.Reply) :
    (scan.hear reply).IsWhole := by
  unfold ScanUnderway.hear
  cases left : scan.left with
  | done value => exact whole
  | ask call limit next =>
    intro more out runs
    have asked : Program.Runs Anything scan.left () (⟨call, reply call⟩ :: more) () out := by
      rw [left]
      exact .ask trivial runs
    have said := whole _ _ asked
    rw [List.append_cons] at said
    exact said

/-- A scan that has nothing left to do has said all that it had to say. -/
theorem IsWhole.runs (whole : scan.IsWhole) {result : Scanner × Except IncompleteScan ScanReport}
    (ended : scan.left = .done result) :
    Program.Runs Anything (scan.scanner.scan scan.wall) () scan.said () (some result) := by
  have last : Program.Runs Anything scan.left () [] () (some result) := by
    rw [ended]
    exact .done result ()
  have said := whole [] _ last
  rw [List.append_nil] at said
  exact said

end ScanUnderway

/-- How a scan came to its end. -/
inductive ScanEnding where
  /-- The scan had nothing left to do. -/
  | finished (result : Scanner × Except IncompleteScan ScanReport)
  /-- The scan broke off by itself. -/
  | brokeOff
  /-- The holder of the scanner cut the scan off. -/
  | cutOff

/-- A scan that is over. -/
structure PastScan where
  /-- The scan as it was at its end. -/
  scan : ScanUnderway
  /-- The time at which the scan ended. -/
  endedAt : Moment
  /-- How the scan came to its end. -/
  ending : ScanEnding

/-- When a scan was made. -/
structure ScanSpan where
  /-- The time of the tick for which the scan was made. -/
  deadline : Moment
  /-- The time at which the scan began. -/
  begun : Moment
  /-- The time at which the scan ended, or until which it was watched. -/
  endedAt : Moment
  deriving DecidableEq

/-- A scan that is being made has lasted until now. -/
def ScanUnderway.span (scan : ScanUnderway) (now : Moment) : ScanSpan :=
  ⟨scan.deadline, scan.begun, now⟩

/-- A scan that is over has lasted until its end. -/
def PastScan.span (past : PastScan) : ScanSpan := past.scan.span past.endedAt

/-! ## The scanner and its holder -/

/-- What the holder of a scanner has done. -/
inductive ScannerHandle where
  /-- The holder has not spoken. -/
  | held
  /-- The holder is gone and has not spoken. -/
  | dropped
  /-- The holder has asked the scanner to stop, and waits. -/
  | waiting (asked : Moment) (grace : Duration)
  /-- The holder has asked, and knows whether the scanner came to its end in time. -/
  | answered (asked : Moment) (grace : Duration) (clean : Bool)
  deriving DecidableEq

/-- What the scanner hears from its holder. -/
def ScannerHandle.signal : ScannerHandle → StopSignal
  | .held => .silent
  | .dropped => .abandoned
  | .waiting _ _ | .answered _ _ _ => .requested

/-- What a spawned scanner does. -/
inductive ScannerTask where
  /-- The scanner was spawned and has yet to run. -/
  | spawned (scanner : Scanner)
  /-- The scanner runs. -/
  | running (loop : ScanLoop ScanUnderway)
  /-- The scanner was cut off. -/
  | cutOff

namespace ScannerTask

/-- The scanner will do nothing more. -/
def isOver : ScannerTask → Bool
  | .spawned _ => false
  | .running loop => loop.isOver
  | .cutOff => true

/-- The scanner waits for a tick. -/
def isResting : ScannerTask → Bool
  | .running (.resting _ _) => true
  | .running (.aligning _ _) | .running (.scanning _ _) | .running .stopped | .running .crashed
  | .spawned _ | .cutOff => false

/-- The scanner came to its end by itself, as it was asked to. -/
def hasStopped : ScannerTask → Bool
  | .running .stopped => true
  | .running (.aligning _ _) | .running (.resting _ _) | .running (.scanning _ _)
  | .running .crashed | .spawned _ | .cutOff => false

/-- The scan that is being made. -/
def scan? : ScannerTask → Option ScanUnderway
  | .running (.scanning _ scan) => some scan
  | .running (.aligning _ _) | .running (.resting _ _) | .running .stopped | .running .crashed
  | .spawned _ | .cutOff => none

/-- The scanner that has yet to begin to wait for ticks. -/
def early? : ScannerTask → Option Scanner
  | .spawned scanner | .running (.aligning scanner _) => some scanner
  | .running (.resting _ _) | .running (.scanning _ _) | .running .stopped | .running .crashed
  | .cutOff => none

variable {task : ScannerTask} {scanner : Scanner}

/-- A scanner that has yet to begin to wait for ticks is not over, and makes no scan. -/
theorem idle_of_early (early : task.early? = some scanner) :
    task.isOver = false ∧ task.scan? = none := by
  cases task with
  | spawned => exact ⟨rfl, rfl⟩
  | cutOff => contradiction
  | running loop =>
    cases loop with
    | aligning => exact ⟨rfl, rfl⟩
    | resting | scanning | stopped | crashed => contradiction

/-- A scan that is being made is made beside a ticker. -/
theorem eq_of_scan? {scan : ScanUnderway} (makes : task.scan? = some scan) :
    ∃ ticker, task = .running (.scanning ticker scan) := by
  cases task with
  | spawned | cutOff => contradiction
  | running loop =>
    cases loop with
    | scanning ticker current =>
      obtain rfl := Option.some.inj makes
      exact ⟨ticker, rfl⟩
    | aligning | resting | stopped | crashed => contradiction

/-- There is one way in which a scanner has stopped. -/
theorem eq_of_hasStopped (stopped : task.hasStopped = true) : task = .running .stopped := by
  cases task with
  | spawned | cutOff => contradiction
  | running loop =>
    cases loop with
    | stopped => rfl
    | aligning | resting | scanning | crashed => contradiction

/-- A scanner that has stopped is over. -/
theorem isOver_of_hasStopped (stopped : task.hasStopped = true) : task.isOver = true := by
  rw [eq_of_hasStopped stopped]
  rfl

end ScannerTask

/-- A spawned scanner with its holder. -/
structure SpawnedScanner where
  /-- The time. -/
  now : Moment
  /-- What the scanner does. -/
  task : ScannerTask
  /-- What the holder has done. -/
  handle : ScannerHandle
  /-- The scans that are over, in order. -/
  past : List PastScan
  /-- The time at which the scanner stopped by itself. -/
  stoppedAt : Option Moment

namespace SpawnedScanner

variable (spawned : SpawnedScanner)

/-- A scanner is spawned. -/
def new (scanner : Scanner) (now : Moment) : SpawnedScanner :=
  ⟨now, .spawned scanner, .held, [], none⟩

/-- What the scanner hears from its holder. -/
def signal : StopSignal := spawned.handle.signal

/-- When the scans were made, in order; one that is being made is the last of them. -/
def spans : List ScanSpan :=
  spawned.past.map (·.span) ++ (spawned.task.scan?.map (·.span spawned.now)).toList

/-- The times at which scans began. -/
def starts : List Moment := spawned.spans.map (·.begun)

/-! ## What can happen -/

/-- The scanner comes to a point of its loop. -/
def become (loop : ScanLoop ScanUnderway) : SpawnedScanner :=
  { spawned with
    task := .running loop
    stoppedAt :=
      if (ScannerTask.running loop).hasStopped then some spawned.now else spawned.stoppedAt }

/-- A scanner that has yet to run begins to. -/
def begin (wall : Instant) : SpawnedScanner :=
  match spawned.task with
  | .spawned scanner => spawned.become (.start spawned.signal scanner spawned.now wall)
  | .running _ | .cutOff => spawned

/-- A scanner whose wait is over goes on. -/
def wake (wall : Instant) : SpawnedScanner :=
  match spawned.task with
  | .running loop =>
    if loop.isOver then spawned
    else
      let deadline := loop.alarm.getD spawned.now
      spawned.become (loop.proceed spawned.signal spawned.now (.start deadline spawned.now wall))
  | .spawned _ | .cutOff => spawned

/-- A scanner that waits hears its holder. -/
def heed : SpawnedScanner :=
  match spawned.task with
  | .running loop => if loop.isOver then spawned else spawned.become loop.heed
  | .spawned _ | .cutOff => spawned

/-- A call of a scan is answered, or stays without an answer. -/
def hear (reply : (call : Call) → Option call.Reply) : SpawnedScanner :=
  match spawned.task with
  | .running (.scanning ticker scan) =>
    { spawned with task := .running (.scanning ticker (scan.hear reply)) }
  | .running (.aligning _ _) | .running (.resting _ _) | .running .stopped | .running .crashed
  | .spawned _ | .cutOff => spawned

/-- A scan is over. -/
def close (scan : ScanUnderway) (ending : ScanEnding) : SpawnedScanner :=
  { spawned with past := spawned.past ++ [⟨scan, spawned.now, ending⟩] }

/-- A scan that has nothing left to do is over, and the scanner goes on. -/
def finish : SpawnedScanner :=
  match spawned.task with
  | .running (.scanning ticker scan) =>
    match scan.left with
    | .done result =>
      (spawned.close scan (.finished result)).become (.rest spawned.signal result.1 ticker)
    | .ask _ _ _ => spawned
  | .running (.aligning _ _) | .running (.resting _ _) | .running .stopped | .running .crashed
  | .spawned _ | .cutOff => spawned

/-- A scan breaks off, and the scanner with it. -/
def breakOff : SpawnedScanner :=
  match spawned.task with
  | .running (.scanning _ scan) => (spawned.close scan .brokeOff).become .crashed
  | .running (.aligning _ _) | .running (.resting _ _) | .running .stopped | .running .crashed
  | .spawned _ | .cutOff => spawned

/-- The holder asks the scanner to stop, and begins to wait for its end. -/
def ask (grace : Duration) : SpawnedScanner :=
  match spawned.handle with
  | .held => { spawned with handle := .waiting spawned.now grace }
  | .dropped | .waiting _ _ | .answered _ _ _ => spawned

/-- The scanner is cut off, in the middle of a scan if there is one. -/
def cut : SpawnedScanner :=
  match spawned.task.scan? with
  | some scan => { spawned.close scan .cutOff with task := .cutOff }
  | none => { spawned with task := .cutOff }

/-- A holder who waits looks whether the scanner is over, and cuts it off if the grace is. -/
def look : SpawnedScanner :=
  match spawned.handle with
  | .waiting asked grace =>
    if spawned.task.isOver then
      { spawned with handle := .answered asked grace spawned.task.hasStopped }
    else if asked + grace.nanos ≤ spawned.now then
      { spawned.cut with handle := .answered asked grace false }
    else spawned
  | .held | .dropped | .answered _ _ _ => spawned

/-- A holder who has not spoken goes away. -/
def drop : SpawnedScanner :=
  match spawned.handle with
  | .held => { spawned with handle := .dropped }
  | .dropped | .waiting _ _ | .answered _ _ _ => spawned

/-- What can happen to a spawned scanner. -/
inductive Event where
  /-- The scanner begins to run, at a reading of the clock. -/
  | begin (wall : Instant)
  /-- The scanner goes on after a wait, at a reading of the clock. -/
  | wake (wall : Instant)
  /-- The scanner hears its holder. -/
  | heed
  /-- A call of a scan is answered, or stays without an answer. -/
  | hear (reply : (call : Call) → Option call.Reply)
  /-- A scan has come to its end. -/
  | finish
  /-- A scan breaks off. -/
  | breakOff
  /-- The holder asks the scanner to stop, and leaves it a time of grace. -/
  | ask (grace : Duration)
  /-- The holder looks whether the scanner is over. -/
  | look
  /-- The holder goes away. -/
  | drop
  /-- Time passes. -/
  | advance (span : Duration)

/-- The scanner after something has happened. -/
def perform : Event → SpawnedScanner
  | .begin wall => spawned.begin wall
  | .wake wall => spawned.wake wall
  | .heed => spawned.heed
  | .hear reply => spawned.hear reply
  | .finish => spawned.finish
  | .breakOff => spawned.breakOff
  | .ask grace => spawned.ask grace
  | .look => spawned.look
  | .drop => spawned.drop
  | .advance span => { spawned with now := spawned.now + span.nanos }

/-- The time until which nobody needs to look after the holder. -/
def patience : Option Moment :=
  match spawned.handle with
  | .waiting asked grace => some (asked + grace.nanos)
  | .held | .dropped | .answered _ _ _ => none

/-- The scanner hears only a holder who has spoken or is gone, and the holder who waits is told in
time. -/
def Allows : Event → Prop
  | .heed => spawned.signal.endsWaiting = true
  | .advance span => ∀ deadline ∈ spawned.patience, spawned.now + span.nanos ≤ deadline
  | .begin _ | .wake _ | .hear _ | .finish | .breakOff | .ask _ | .look | .drop => True

instance (event : Event) : Decidable (spawned.Allows event) :=
  match event with
  | .heed => inferInstanceAs (Decidable (spawned.signal.endsWaiting = true))
  | .advance span =>
    inferInstanceAs (Decidable (∀ deadline ∈ spawned.patience, spawned.now + span.nanos ≤ deadline))
  | .begin _ | .wake _ | .hear _ | .finish | .breakOff | .ask _ | .look | .drop => .isTrue trivial

/-- Spawned scanners and what can happen to them. -/
def machine : Machine SpawnedScanner Event := ⟨Allows, perform⟩

instance (spawned : SpawnedScanner) (event : Event) : Decidable (machine.Allows spawned event) :=
  inferInstanceAs (Decidable (spawned.Allows event))

variable {spawned after : SpawnedScanner} {scan : ScanUnderway}

/-! ## One event -/

/-- What can become of a spawned scanner. -/
inductive Change (before : SpawnedScanner) : SpawnedScanner → Prop where
  /-- Nothing changes. -/
  | stay : Change before before
  /-- The scanner begins to wait for the beginning of a minute. -/
  | align {scanner : Scanner} {minute : Moment} (early : before.task.early? = some scanner) :
      Change before { before with task := .running (.aligning scanner minute) }
  /-- The scanner begins to wait for its first tick. -/
  | tick {scanner : Scanner} {ticker : Ticker} (early : before.task.early? = some scanner)
      (silent : before.signal.isRequested = false)
      (starts : Ticker.starting? before.now scanner.settings.interval = some ticker) :
      Change before { before with task := .running (.resting scanner ticker) }
  /-- There are no ticks for the scanner. -/
  | fail {scanner : Scanner} (early : before.task.early? = some scanner) :
      Change before { before with task := .running .crashed }
  /-- The scanner stops in a wait. -/
  | halt (waits : before.task.scan? = none) (goesOn : before.task.isOver = false)
      (told : before.signal.endsWaiting = true) :
      Change before { before with task := .running .stopped, stoppedAt := some before.now }
  /-- A scan begins. -/
  | scan {scanner : Scanner} {ticker : Ticker} {wall : Instant}
      (rests : before.task = .running (.resting scanner ticker))
      (due : ticker.deadline ≤ before.now) :
      Change before { before with
        task := .running (.scanning (ticker.next before.now)
          (.start ticker.deadline before.now wall scanner)) }
  /-- A scan goes on. -/
  | hear {ticker : Ticker} {scan : ScanUnderway} {reply : (call : Call) → Option call.Reply}
      (scans : before.task = .running (.scanning ticker scan)) :
      Change before { before with task := .running (.scanning ticker (scan.hear reply)) }
  /-- A scan ends, and the scanner waits for the next tick. -/
  | rest {ticker : Ticker} {scan : ScanUnderway}
      {result : Scanner × Except IncompleteScan ScanReport}
      (scans : before.task = .running (.scanning ticker scan)) (ended : scan.left = .done result)
      (silent : before.signal.isRequested = false) :
      Change before { before.close scan (.finished result) with
        task := .running (.resting result.1 ticker) }
  /-- A scan ends, and the scanner stops. -/
  | stop {ticker : Ticker} {scan : ScanUnderway}
      {result : Scanner × Except IncompleteScan ScanReport}
      (scans : before.task = .running (.scanning ticker scan)) (ended : scan.left = .done result)
      (told : before.signal.isRequested = true) :
      Change before { before.close scan (.finished result) with
        task := .running .stopped, stoppedAt := some before.now }
  /-- A scan breaks off. -/
  | breakOff {ticker : Ticker} {scan : ScanUnderway}
      (scans : before.task = .running (.scanning ticker scan)) :
      Change before { before.close scan .brokeOff with task := .running .crashed }
  /-- The holder asks the scanner to stop. -/
  | ask {grace : Duration} (held : before.handle = .held) :
      Change before { before with handle := .waiting before.now grace }
  /-- The holder goes away. -/
  | drop (held : before.handle = .held) : Change before { before with handle := .dropped }
  /-- The holder learns that the scanner is over. -/
  | answer {asked : Moment} {grace : Duration} (waits : before.handle = .waiting asked grace)
      (isOver : before.task.isOver = true) :
      Change before { before with handle := .answered asked grace before.task.hasStopped }
  /-- The holder cuts the scanner off when the grace is over. -/
  | cut {asked : Moment} {grace : Duration} (waits : before.handle = .waiting asked grace)
      (goesOn : before.task.isOver = false) (passed : asked + grace.nanos ≤ before.now) :
      Change before { before.cut with handle := .answered asked grace false }
  /-- Time passes. -/
  | advance {span : Duration}
      (inTime : ∀ deadline ∈ before.patience, before.now + span.nanos ≤ deadline) :
      Change before { before with now := before.now + span.nanos }

/-- A scanner that stays where it is and has not stopped is as before. -/
theorem become_self {loop : ScanLoop ScanUnderway} (runs : spawned.task = .running loop)
    (goesOn : (ScannerTask.running loop).hasStopped = false) : spawned.become loop = spawned := by
  unfold become
  rw [goesOn, ← runs]
  rfl

/-- The scanner comes to the point at which it has a ticker, or not. -/
theorem change_ticking {scanner : Scanner} (early : spawned.task.early? = some scanner) :
    spawned.Change (spawned.become (.ticking spawned.signal scanner spawned.now)) := by
  obtain ⟨goesOn, waits⟩ := ScannerTask.idle_of_early early
  unfold ScanLoop.ticking
  cases starts : Ticker.starting? spawned.now scanner.settings.interval with
  | none => exact .fail early
  | some ticker =>
    cases told : spawned.signal.isRequested with
    | false =>
      show spawned.Change (spawned.become (.rest spawned.signal scanner ticker))
      rw [ScanLoop.rest_of_silent told]
      exact .tick early told starts
    | true =>
      show spawned.Change (spawned.become (.rest spawned.signal scanner ticker))
      rw [ScanLoop.rest_of_requested told]
      exact .halt waits goesOn (StopSignal.endsWaiting_of_isRequested told)

/-- A scanner that goes on after a wait makes one of the listed changes. -/
theorem change_wake (wall : Instant) : spawned.Change (spawned.wake wall) := by
  unfold wake
  split
  · rename_i loop runs
    cases loop with
    | aligning scanner minute =>
      have early : spawned.task.early? = some scanner := by rw [runs]; rfl
      show spawned.Change (spawned.become (if minute ≤ spawned.now then _ else _))
      split
      · exact change_ticking early
      · exact .align early
    | resting scanner ticker =>
      show spawned.Change (spawned.become (if ticker.isDue spawned.now then _ else _))
      split
      · rename_i due
        exact .scan runs (of_decide_eq_true due)
      · rw [become_self runs rfl]
        exact .stay
    | scanning ticker scan =>
      show spawned.Change (spawned.become (.scanning ticker scan))
      rw [become_self runs rfl]
      exact .stay
    | stopped => exact .stay
    | crashed => exact .stay
  · exact .stay
  · exact .stay

/-- A scanner that hears its holder makes one of the listed changes. -/
theorem change_heed (told : spawned.signal.endsWaiting = true) :
    spawned.Change spawned.heed := by
  unfold heed
  split
  · rename_i loop runs
    cases loop with
    | aligning scanner minute => exact .halt (by rw [runs]; rfl) (by rw [runs]; rfl) told
    | resting scanner ticker => exact .halt (by rw [runs]; rfl) (by rw [runs]; rfl) told
    | scanning ticker scan =>
      show spawned.Change (spawned.become (.scanning ticker scan))
      rw [become_self runs rfl]
      exact .stay
    | stopped => exact .stay
    | crashed => exact .stay
  · exact .stay
  · exact .stay

/-- A scan that has come to its end makes one of the listed changes. -/
theorem change_finish : spawned.Change spawned.finish := by
  unfold finish
  split
  · rename_i ticker scan scans
    split
    · rename_i result ended
      cases told : spawned.signal.isRequested with
      | false =>
        rw [ScanLoop.rest_of_silent told]
        exact .rest scans ended told
      | true =>
        rw [ScanLoop.rest_of_requested told]
        exact .stop scans ended told
    · exact .stay
  all_goals exact .stay

/-- A holder who looks makes one of the listed changes. -/
theorem change_look : spawned.Change spawned.look := by
  unfold look
  split
  · rename_i asked grace waits
    cases isOver : spawned.task.isOver with
    | true => exact .answer waits isOver
    | false =>
      rw [if_neg Bool.false_ne_true]
      split
      · rename_i passed
        exact .cut waits isOver passed
      · exact .stay
  all_goals exact .stay

/-- Whatever happens makes one of the listed changes. -/
theorem change {event : Event} (allowed : spawned.Allows event) :
    spawned.Change (spawned.perform event) := by
  cases event with
  | begin wall =>
    show spawned.Change (spawned.begin wall)
    unfold begin
    split
    · rename_i scanner fresh
      have early : spawned.task.early? = some scanner := by rw [fresh]; rfl
      unfold ScanLoop.start
      split
      · exact .align early
      · exact change_ticking early
    all_goals exact .stay
  | wake wall => exact change_wake wall
  | heed => exact change_heed allowed
  | hear reply =>
    show spawned.Change (spawned.hear reply)
    unfold hear
    split
    · rename_i ticker scan scans
      exact .hear scans
    all_goals exact .stay
  | finish => exact change_finish
  | breakOff =>
    show spawned.Change spawned.breakOff
    unfold breakOff
    split
    · rename_i ticker scan scans
      exact .breakOff scans
    all_goals exact .stay
  | ask grace =>
    show spawned.Change (spawned.ask grace)
    unfold ask
    split
    · rename_i held
      exact .ask held
    all_goals exact .stay
  | look => exact change_look
  | drop =>
    show spawned.Change spawned.drop
    unfold drop
    split
    · rename_i held
      exact .drop held
    all_goals exact .stay
  | advance span => exact .advance allowed

/-! ## The scans -/

/-- A scanner that makes no scan has no scans but those that are over. -/
theorem spans_of_idle (idle : spawned.task.scan? = none) :
    spawned.spans = spawned.past.map (·.span) := by
  unfold spans
  rw [idle]
  exact List.append_nil _

/-- The scan that is being made is the last one. -/
theorem spans_of_scan (makes : spawned.task.scan? = some scan) :
    spawned.spans = spawned.past.map (·.span) ++ [scan.span spawned.now] := by
  unfold spans
  rw [makes]
  rfl

/-- A scan that ends was made until now. -/
theorem spans_close (makes : spawned.task.scan? = some scan) (ending : ScanEnding) :
    (spawned.close scan ending).past.map (·.span) = spawned.spans := by
  rw [spans_of_scan makes]
  exact List.map_append

/-- A scanner that makes no scan and goes on without one has no other scans then. -/
theorem spans_idle (idle : spawned.task.scan? = none) {task : ScannerTask}
    (stillIdle : task.scan? = none) : { spawned with task := task }.spans = spawned.spans := by
  rw [spans_of_idle idle]
  exact spans_of_idle stillIdle

/-- A scan that hears an answer is made as before. -/
theorem spans_hear {ticker : Ticker} (scans : spawned.task = .running (.scanning ticker scan))
    (reply : (call : Call) → Option call.Reply) :
    { spawned with task := .running (.scanning ticker (scan.hear reply)) }.spans =
      spawned.spans := by
  have makes : spawned.task.scan? = some scan := by rw [scans]; rfl
  have same := scan.hear_continues reply
  have span : (scan.hear reply).span spawned.now = scan.span spawned.now := by
    rw [ScanUnderway.span, same.deadline, same.begun]
    rfl
  rw [spans_of_scan makes, ← span]
  rfl

/-- A scanner that is cut off does nothing more, and its scans have ended now. -/
theorem cut_eq (spawned : SpawnedScanner) :
    spawned.cut.task = .cutOff ∧ spawned.cut.now = spawned.now ∧
      spawned.cut.stoppedAt = spawned.stoppedAt ∧ spawned.cut.spans = spawned.spans := by
  unfold cut
  split
  · rename_i current makes
    refine ⟨rfl, rfl, rfl, ?_⟩
    rw [← spans_close makes .cutOff]
    exact spans_of_idle rfl
  · rename_i idle
    exact ⟨rfl, rfl, rfl, spans_idle idle rfl⟩

/-- One scan begins when the scanner waits for a tick, or time passes, or else the scans stay as
they are. -/
theorem spans_of_change (change : spawned.Change after) :
    after.spans = spawned.spans ∨
      (∃ scanner ticker, spawned.task = .running (.resting scanner ticker) ∧
        after.task.isResting = false ∧ after.task.isOver = false ∧
        after.spans = spawned.spans ++ [⟨ticker.deadline, spawned.now, spawned.now⟩]) ∨
      ∃ span : Duration, after = { spawned with now := spawned.now + span.nanos } := by
  cases change with
  | stay | ask held | drop held | answer waits isOver => exact .inl rfl
  | align early | tick early silent starts | fail early =>
    exact .inl (spans_idle (ScannerTask.idle_of_early early).2 rfl)
  | halt waits goesOn told => exact .inl (spans_idle waits rfl)
  | scan rests due =>
    have idle : spawned.task.scan? = none := by rw [rests]; rfl
    refine .inr (.inl ⟨_, _, rests, rfl, rfl, ?_⟩)
    rw [spans_of_idle idle]
    rfl
  | hear scans => exact .inl (spans_hear scans _)
  | @rest _ current _ scans | @stop _ current _ scans | @breakOff _ current scans =>
    have makes : spawned.task.scan? = some current := by rw [scans]; rfl
    rw [← spans_close makes]
    exact .inl (spans_of_idle rfl)
  | cut waits goesOn passed => exact .inl spawned.cut_eq.2.2.2
  | @advance span inTime => exact .inr (.inr ⟨span, rfl⟩)

end SpawnedScanner

end ReminderDispatch
