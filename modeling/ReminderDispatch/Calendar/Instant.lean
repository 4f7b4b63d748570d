import ReminderDispatch.Calendar.Date
import ReminderDispatch.Duration

/-!
# Instants

Instants of wall-clock time in UTC: a date, a second of that day and a part of the second. A second
may run for two: from one on, its nanoseconds count a leap second. What is made from numbers has a
leap second only at the end of a minute; other readings arise when the nanoseconds are set alone.
-/

namespace ReminderDispatch

/-- A reading of a wall clock in UTC. -/
structure Instant where
  /-- The day. -/
  date : Date
  /-- The second of the day. -/
  second : Nat
  /-- The nanoseconds since the beginning of the second. -/
  nanos : Nat
  /-- The second lies in the day. -/
  inDay : second < 86400
  /-- The second runs past its end by a second at most. -/
  inSecond : nanos < 2000000000
  deriving DecidableEq, Repr

namespace Instant

/-- The beginning of a day. -/
def midnight (date : Date) : Instant := ⟨date, 0, 0, by decide, by decide⟩

instance : Inhabited Instant := ⟨midnight default⟩

/-- The instant of a date, a second of the day and nanoseconds, if there is one. Only the last
second of a minute is let run past its end. -/
def of? (date : Date) (second nanos : Nat) : Option Instant :=
  if h : second < 86400 ∧ nanos < 2000000000 ∧ (nanos < 1000000000 ∨ second % 60 = 59) then
    some ⟨date, second, nanos, h.1, h.2.1⟩
  else none

/-- Earlier instants are less: by date, then second, then nanoseconds. -/
instance : LT Instant := ⟨fun a b =>
  a.date < b.date ∨
    a.date = b.date ∧ (a.second < b.second ∨ a.second = b.second ∧ a.nanos < b.nanos)⟩

instance (a b : Instant) : Decidable (a < b) := inferInstanceAs (Decidable (_ ∨ _))

/-- An instant is at most another when the other is not earlier. -/
instance : LE Instant := ⟨fun a b => ¬ b < a⟩

instance (a b : Instant) : Decidable (a ≤ b) := inferInstanceAs (Decidable (¬ _))

/-- The whole seconds since the beginning of 1970; a leap second counts as the second before it. -/
def unixSeconds (time : Instant) : Int :=
  (time.date.dayNumber - Date.epoch.dayNumber) * 86400 + time.second

/-- The whole milliseconds since the beginning of 1970; a leap second counts past its second. -/
def unixMillis (time : Instant) : Int := time.unixSeconds * 1000 + time.nanos / 1000000

/-- The instant a number of seconds after a midnight, on another day if need be. -/
def ofSeconds? (date : Date) (seconds : Int) (nanos : Nat) : Option Instant := do
  let day ← date.addDays? (seconds / 86400)
  of? day (seconds % 86400).toNat nanos

/-- The instant a number of seconds after the beginning of 1970. -/
def ofUnix? (seconds : Int) (nanos : Nat) : Option Instant := ofSeconds? Date.epoch seconds nanos

/-- The instant a number of nanoseconds later, or earlier when it is negative. The time stays in a
leap second while it can; otherwise a leap second has no length. -/
def shift? (time : Instant) (nanos : Int) : Option Instant :=
  let seconds := nanos.tdiv 1000000000
  let part := nanos.tmod 1000000000
  if time.nanos < 1000000000 then carry time.second time.nanos seconds part
  else if left : seconds > 0 ∨ (part > 0 ∧ time.nanos + part ≥ 2000000000) then
    carry time.second (time.nanos - 1000000000) seconds part
  else if seconds < 0 then carry (time.second + 1) (time.nanos - 1000000000) seconds part
  else
    have inSecond : (time.nanos + part).toNat < 2000000000 := by
      have := time.inSecond
      omega
    some { time with nanos := (time.nanos + part).toNat, inSecond }
where
  /-- The sum of a time without a leap second and a span. -/
  carry (second nanos seconds part : Int) : Option Instant :=
    let sum := nanos + part
    ofSeconds? time.date (second + seconds + sum / 1000000000) (sum % 1000000000).toNat

/-- The instant a span later; the end of the calendar is never passed. -/
def after (time : Instant) (span : Duration) : Instant := (time.shift? span.nanos).getD time

end Instant

end ReminderDispatch
