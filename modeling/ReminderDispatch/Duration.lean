import ReminderDispatch.Number.Powers
import ReminderDispatch.Text.Decimal

/-!
# Durations

Spans of monotonic time in whole nanoseconds, and the text in which messages give them: the
largest of the units s, ms, µs and ns whose count is not zero, with the remainder as a decimal
fraction that has no trailing zeros.
-/

namespace ReminderDispatch

/-- A moment of the monotonic clock, in nanoseconds since its origin. -/
abbrev Moment := Nat

/-- A span of time. -/
structure Duration where
  /-- The length in nanoseconds. -/
  nanos : Nat
  deriving DecidableEq, Repr, Inhabited

namespace Duration

/-- No time at all. -/
def zero : Duration := ⟨0⟩

/-- A span of whole milliseconds. -/
def ofMillis (n : Nat) : Duration := ⟨n * 1000000⟩

/-- A span of whole seconds. -/
def ofSeconds (n : Nat) : Duration := ⟨n * 1000000000⟩

/-- The whole seconds of the span. -/
def wholeSeconds (span : Duration) : Nat := span.nanos / 1000000000

/-- The nanoseconds beyond the whole seconds. -/
def subsecond (span : Duration) : Nat := span.nanos % 1000000000

/-- Longer spans are greater. -/
instance : LE Duration := ⟨fun a b => a.nanos ≤ b.nanos⟩

/-- Longer spans are greater. -/
instance : LT Duration := ⟨fun a b => a.nanos < b.nanos⟩

instance (a b : Duration) : Decidable (a ≤ b) := inferInstanceAs (Decidable (a.nanos ≤ b.nanos))

instance (a b : Duration) : Decidable (a < b) := inferInstanceAs (Decidable (a.nanos < b.nanos))

/-- The shorter of two spans. -/
instance : Min Duration := ⟨fun a b => if a ≤ b then a else b⟩

/-- A fraction below one as `places` decimal digits after a point, without trailing zeros; nothing
for zero. -/
def fractionText (places fraction : Nat) : String :=
  let kept := ((Text.paddedDigits places fraction).reverse.dropWhile (· == '0')).reverse
  if kept.isEmpty then "" else "." ++ String.ofList kept

/-- The span as a count of one unit, which is `10 ^ places` nanoseconds long. -/
def inUnit (span : Duration) (places : Nat) (unit : String) : String :=
  Text.decimal (span.nanos / tenTo places) ++ fractionText places (span.nanos % tenTo places)
    ++ unit

/-- The text of a span, in the largest unit that it fills at least once. -/
def text (span : Duration) : String :=
  if span.nanos ≥ tenTo 9 then span.inUnit 9 "s"
  else if span.nanos ≥ tenTo 6 then span.inUnit 6 "ms"
  else if span.nanos ≥ tenTo 3 then span.inUnit 3 "µs"
  else span.inUnit 0 "ns"

end Duration

end ReminderDispatch
