import ReminderDispatch.Duration

/-!
# Ticker

A ticker gives the times at which something takes place again and again. The first tick comes at
once. A tick that is taken up in time is followed by the next one after a period; after one that is
taken up late the times that have passed are dropped, and the ticker goes on with the next multiple
of the period since the tick that was late.
-/

namespace ReminderDispatch

/-- A sequence of ticks. -/
structure Ticker where
  /-- The time from one tick to the next. -/
  period : Duration
  /-- The time of the next tick. -/
  deadline : Moment
  deriving DecidableEq, Repr

namespace Ticker

/-- A tick that is taken up later than this is late. -/
def tolerance : Duration := .ofMillis 5

/-- A ticker with its first tick now; there is none without a period. -/
def starting? (now : Moment) (period : Duration) : Option Ticker :=
  if period = .zero then none else some ⟨period, now⟩

/-- A ticker starts with its period and with a tick at once. -/
theorem starting?_eq_some {now : Moment} {period : Duration} {ticker : Ticker}
    (starts : starting? now period = some ticker) :
    ticker.period = period ∧ ticker.deadline = now := by
  unfold starting? at starts
  split at starts
  · contradiction
  · rw [← Option.some.inj starts]
    exact ⟨rfl, rfl⟩

/-- The time of the next tick has come. -/
def isDue (ticker : Ticker) (now : Moment) : Bool := ticker.deadline ≤ now

/-- The tick after the one that is taken up now. -/
def next (ticker : Ticker) (now : Moment) : Ticker :=
  if ticker.deadline + tolerance.nanos < now then
    let passed := (now - ticker.deadline) % ticker.period.nanos
    { ticker with deadline := now + ticker.period.nanos - passed }
  else { ticker with deadline := ticker.deadline + ticker.period.nanos }

end Ticker

end ReminderDispatch
