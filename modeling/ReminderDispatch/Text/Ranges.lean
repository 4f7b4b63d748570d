/-!
# Ranges of code points

A property of characters is given by the ranges of code points that have it.
-/

namespace ReminderDispatch.Text

/-- The code points from `first` to `last`, both included. -/
structure CodeRange where
  /-- The least code point of the range. -/
  first : Nat
  /-- The greatest code point of the range. -/
  last : Nat
  deriving DecidableEq, Repr

/-- The code point lies in the range. -/
def CodeRange.holds (range : CodeRange) (code : Nat) : Bool :=
  range.first ≤ code && code ≤ range.last

/-- Some range of the list holds the character. -/
def inRanges (ranges : List CodeRange) (c : Char) : Bool :=
  ranges.any (·.holds c.toNat)

/-- A character is in the ranges exactly when one of them spans its code point. -/
theorem inRanges_iff (ranges : List CodeRange) (c : Char) :
    inRanges ranges c = true ↔
      ∃ range ∈ ranges, range.first ≤ c.toNat ∧ c.toNat ≤ range.last := by
  simp [inRanges, CodeRange.holds]

end ReminderDispatch.Text
