import ReminderDispatch.Calendar.Instant

/-!
# Settings of the scanner
-/

namespace ReminderDispatch

/-- How the scanner runs. -/
structure ScannerSettings where
  /-- The time from one scan to the next. -/
  interval : Duration
  /-- The limit of every call to the store. -/
  ioTimeout : Duration
  /-- Wait for the beginning of a minute before the first scan. -/
  alignToMinute : Bool
  deriving DecidableEq, Repr

/-- The time until the next minute begins, which is none at the beginning of a minute. -/
def startDelay (now : Instant) : Duration :=
  let intoMinute := (now.unixMillis % 60000).toNat
  if intoMinute = 0 then .zero else .ofMillis (60000 - intoMinute)

end ReminderDispatch
