/-!
# Rounding of quotients

The whole number nearest to a quotient, with a half going to the even neighbour. The result is
never further than half a unit from the quotient.
-/

namespace ReminderDispatch.Number

/-- The quotient rounded to the nearest whole number, a half to the even neighbour. -/
def roundDiv (num den : Nat) : Nat :=
  let whole := num / den
  let part := 2 * (num % den)
  if part < den then whole else if den < part then whole + 1 else whole + whole % 2

/-- The rounded quotient is at most half a unit above the quotient. -/
theorem roundDiv_le (num den : Nat) (positive : 0 < den) :
    2 * (roundDiv num den * den) ≤ 2 * num + den := by
  have split := Nat.div_add_mod' num den
  have small := Nat.mod_lt num positive
  simp only [roundDiv]
  split
  · omega
  · split
    · rw [Nat.add_mul]; omega
    · have : num / den % 2 ≤ 1 := by omega
      have : num / den % 2 * den ≤ 1 * den := Nat.mul_le_mul_right _ this
      rw [Nat.add_mul]; omega

/-- The rounded quotient is at most half a unit below the quotient. -/
theorem le_roundDiv (num den : Nat) (positive : 0 < den) :
    2 * num ≤ 2 * (roundDiv num den * den) + den := by
  have split := Nat.div_add_mod' num den
  have small := Nat.mod_lt num positive
  simp only [roundDiv]
  split
  · omega
  · split
    · rw [Nat.add_mul]; omega
    · rw [Nat.add_mul]; omega

/-- A quotient without remainder is its own rounding. -/
theorem roundDiv_mul_right (n den : Nat) (positive : 0 < den) : roundDiv (n * den) den = n := by
  simp [roundDiv, Nat.mul_div_cancel _ positive, positive]

end ReminderDispatch.Number
