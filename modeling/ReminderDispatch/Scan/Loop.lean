import ReminderDispatch.Scan.Tick
import ReminderDispatch.Scan.Ticker
import ReminderDispatch.StopSignal

/-!
# The loop of the scanner

A running scanner waits for the beginning of a minute if it is to, and then scans at every tick. A
scan is done within the loop, so that no two scans overlap. The signal to stop ends every wait; a
scan that has begun is not cut short by it.
-/

namespace ReminderDispatch

/-- What a running scanner does; `ω` tells how far it has come with a scan. -/
inductive ScanLoop (ω : Type) where
  /-- The scanner waits for the beginning of a minute. -/
  | aligning (scanner : Scanner) (minute : Moment)
  /-- The scanner waits for a tick. -/
  | resting (scanner : Scanner) (ticker : Ticker)
  /-- The scanner scans. -/
  | scanning (ticker : Ticker) (progress : ω)
  /-- The scanner has stopped. -/
  | stopped
  /-- The scanner broke off. -/
  | crashed

namespace ScanLoop

variable {ω : Type}

/-- The scanner will do nothing more. -/
def isOver : ScanLoop ω → Bool
  | .stopped | .crashed => true
  | .aligning _ _ | .resting _ _ | .scanning _ _ => false

/-- The scanner waits for the next tick unless it was asked to stop. -/
def rest (signal : StopSignal) (scanner : Scanner) (ticker : Ticker) : ScanLoop ω :=
  if signal.isRequested then .stopped else .resting scanner ticker

/-- A scanner that was not asked to stop waits for the next tick. -/
theorem rest_of_silent {signal : StopSignal} (silent : signal.isRequested = false)
    (scanner : Scanner) (ticker : Ticker) :
    (rest signal scanner ticker : ScanLoop ω) = .resting scanner ticker :=
  if_neg (by rw [silent]; exact Bool.false_ne_true)

/-- A scanner that was asked to stop does. -/
theorem rest_of_requested {signal : StopSignal} (told : signal.isRequested = true)
    (scanner : Scanner) (ticker : Ticker) :
    (rest signal scanner ticker : ScanLoop ω) = .stopped :=
  if_pos told

/-- The scanner waits for its first tick, which comes at once. -/
def ticking (signal : StopSignal) (scanner : Scanner) (now : Moment) : ScanLoop ω :=
  match Ticker.starting? now scanner.settings.interval with
  | some ticker => rest signal scanner ticker
  | none => .crashed

/-- A scanner starts to run. -/
def start (signal : StopSignal) (scanner : Scanner) (now : Moment) (wall : Instant) : ScanLoop ω :=
  if scanner.settings.alignToMinute then .aligning scanner (now + (startDelay wall).nanos)
  else ticking signal scanner now

/-- The signal is raised: a scanner that waits stops. -/
def heed : ScanLoop ω → ScanLoop ω
  | .aligning _ _ | .resting _ _ => .stopped
  | loop => loop

/-- The time at which a wait ends by itself. -/
def alarm : ScanLoop ω → Option Moment
  | .aligning _ minute => some minute
  | .resting _ ticker => some ticker.deadline
  | .scanning _ _ | .stopped | .crashed => none

/-- A scanner whose wait is over goes on. -/
def proceed (signal : StopSignal) (now : Moment) (scan : Scanner → ω) : ScanLoop ω → ScanLoop ω
  | .aligning scanner minute =>
    if minute ≤ now then ticking signal scanner now else .aligning scanner minute
  | .resting scanner ticker =>
    if ticker.isDue now then .scanning (ticker.next now) (scan scanner)
    else .resting scanner ticker
  | loop => loop

end ScanLoop

end ReminderDispatch
