/-!
# Stop signals

Loops that run on their own are asked to stop by whoever holds the signal.
-/

namespace ReminderDispatch

/-- What the holder of a signal has told a loop. -/
inductive StopSignal where
  /-- The loop goes on. -/
  | silent
  /-- The loop has to stop. -/
  | requested
  /-- The holder is gone, so that nobody can ask any more. -/
  | abandoned
  deriving DecidableEq, Repr

namespace StopSignal

/-- The loop was asked to stop. -/
def isRequested (signal : StopSignal) : Bool := signal == .requested

/-- A loop that waits need not wait any longer. -/
def endsWaiting (signal : StopSignal) : Bool := signal != .silent

/-- A loop that was asked to stop need not wait any longer. -/
theorem endsWaiting_of_isRequested {signal : StopSignal} (told : signal.isRequested = true) :
    signal.endsWaiting = true := by
  cases signal with
  | requested => rfl
  | silent | abandoned => contradiction

end StopSignal

end ReminderDispatch
