import Mathlib.Algebra.Order.Field.Power
import Mathlib.Algebra.Order.Field.Rat
import Mathlib.Tactic.FieldSimp
import Mathlib.Tactic.Linarith
import Mathlib.Tactic.NormNum
import Mathlib.Tactic.Positivity
import Mathlib.Tactic.Ring
import ReminderDispatch.Number.Binary64

/-!
# Precision of double-precision numbers

One rounding changes a positive number by at most one part in `2 ^ 53`, as long as the number is not
too small for a full mantissa. So the result of a few operations is within a few roundings of the
exact one, and it is infinite only if the exact one is very large. Powers of two are not rounded at
all.
-/

namespace ReminderDispatch

namespace Number

variable {num den : ℕ} {exact : ℚ}

/-! ## Powers of two and quotients -/

/-- A power of two as a rational number. -/
theorem cast_twoTo (n : ℕ) : (twoTo n : ℚ) = 2 ^ (n : ℤ) := by
  rw [zpow_natCast]
  exact Nat.cast_pow 2 n

/-- A power of two is positive. -/
theorem twoTo_pos (n : ℕ) : 0 < twoTo n := Nat.two_pow_pos n

/-- A power of two with a negative exponent divides. -/
theorem twoTo_toNat (exponent : ℤ) :
    (twoTo exponent.toNat : ℚ) = 2 ^ exponent * twoTo (-exponent).toNat := by
  rw [cast_twoTo, cast_twoTo, ← zpow_add₀ (by norm_num)]
  congr 1
  omega

/-- The binary logarithm of a number. -/
theorem log2_bounds {n : ℕ} (positive : 0 < n) :
    (2 : ℚ) ^ (n.log2 : ℤ) ≤ n ∧ (n : ℚ) < 2 ^ ((n.log2 : ℤ) + 1) := by
  have low : 2 ^ n.log2 ≤ n := Nat.log2_self_le (Nat.pos_iff_ne_zero.1 positive)
  have high : n < 2 ^ (n.log2 + 1) := Nat.lt_log2_self
  constructor
  · rw [zpow_natCast]
    exact_mod_cast low
  · exact_mod_cast high

/-- A rounded quotient is within half a unit of the exact one. -/
theorem roundDiv_near (positive : 0 < den) (isQuotient : (num : ℚ) = exact * den) :
    |(roundDiv num den : ℚ) - exact| ≤ 1 / 2 := by
  have den_pos : (0 : ℚ) < den := by exact_mod_cast positive
  have above : (2 : ℚ) * (roundDiv num den * den) ≤ 2 * num + den := by
    exact_mod_cast roundDiv_le num den positive
  have below : (2 : ℚ) * num ≤ 2 * (roundDiv num den * den) + den := by
    exact_mod_cast le_roundDiv num den positive
  rw [isQuotient] at above below
  rw [abs_le]
  constructor
  · apply le_of_mul_le_mul_right _ den_pos
    linarith
  · apply le_of_mul_le_mul_right _ den_pos
    linarith

/-- A quotient in units of a power of two is a quotient of whole numbers, too. -/
theorem scale_quotient (isQuotient : (num : ℚ) = exact * den) (exponent : ℤ) :
    ((num * twoTo (-exponent).toNat : ℕ) : ℚ) =
      exact / 2 ^ exponent * (den * twoTo exponent.toNat : ℕ) := by
  have unit_ne : (2 : ℚ) ^ exponent ≠ 0 := by positivity
  rw [Nat.cast_mul, Nat.cast_mul, twoTo_toNat exponent, isQuotient]
  field_simp

end Number

namespace Binary64

open Number

variable {num den : ℕ} {exact : ℚ}

/-! ## One rounding -/

/-- The logarithm of a quotient is that of the greatest power of two that is at most the quotient. -/
theorem floorLog2_bounds (some : 0 < num) (positive : 0 < den)
    (isQuotient : (num : ℚ) = exact * den) :
    2 ^ floorLog2 num den ≤ exact ∧ exact < 2 ^ (floorLog2 num den + 1) := by
  have den_pos : (0 : ℚ) < den := by exact_mod_cast positive
  obtain ⟨numLow, numHigh⟩ := log2_bounds some
  obtain ⟨denLow, denHigh⟩ := log2_bounds positive
  unfold floorLog2
  generalize atNear : (num.log2 : ℤ) - den.log2 = near
  have low : 2 ^ (near - 1) ≤ exact := by
    apply le_of_mul_le_mul_right _ den_pos
    calc
      (2 : ℚ) ^ (near - 1) * den ≤ 2 ^ (near - 1) * 2 ^ ((den.log2 : ℤ) + 1) :=
        mul_le_mul_of_nonneg_left denHigh.le (by positivity)
      _ = 2 ^ (num.log2 : ℤ) := by
        rw [← zpow_add₀ (by norm_num)]
        congr 1
        omega
      _ ≤ exact * den := isQuotient ▸ numLow
  have high : exact < 2 ^ (near + 1) := by
    apply lt_of_mul_lt_mul_right _ den_pos.le
    calc
      exact * den < 2 ^ ((num.log2 : ℤ) + 1) := isQuotient ▸ numHigh
      _ = 2 ^ (near + 1) * 2 ^ (den.log2 : ℤ) := by
        rw [← zpow_add₀ (by norm_num)]
        congr 1
        omega
      _ ≤ 2 ^ (near + 1) * den := mul_le_mul_of_nonneg_left denLow (by positivity)
  have test : num * twoTo (-near).toNat < den * twoTo near.toNat ↔ exact < 2 ^ near := by
    have scale_pos : (0 : ℚ) < twoTo (-near).toNat := by exact_mod_cast twoTo_pos _
    rw [← @Nat.cast_lt ℚ, Nat.cast_mul, Nat.cast_mul, twoTo_toNat near, isQuotient,
      mul_assoc, mul_left_comm, mul_lt_mul_iff_right₀ den_pos, mul_lt_mul_iff_left₀ scale_pos]
  dsimp only
  by_cases below : exact < 2 ^ near
  · rw [if_pos (test.2 below), sub_add_cancel]
    exact ⟨low, below⟩
  · rw [if_neg fun holds => below (test.1 holds)]
    exact ⟨not_lt.1 below, high⟩

/-- There is only one greatest power of two that is at most a quotient. -/
theorem floorLog2_eq {top : ℤ} (some : 0 < num) (positive : 0 < den)
    (isQuotient : (num : ℚ) = exact * den) (low : 2 ^ top ≤ exact) (high : exact < 2 ^ (top + 1)) :
    floorLog2 num den = top := by
  obtain ⟨atMost, below⟩ := floorLog2_bounds some positive isQuotient
  have notMore := (zpow_lt_zpow_iff_right₀ (by norm_num)).1 (atMost.trans_lt high)
  have notLess := (zpow_lt_zpow_iff_right₀ (by norm_num)).1 (low.trans_lt below)
  omega

/-- The greatest part of a number that one rounding changes. -/
def roundoff : ℚ := 2 ^ (-53 : ℤ)

/-- It is not nothing. -/
theorem roundoff_pos : 0 < roundoff := by
  unfold roundoff
  positivity

/-- A bound that allows for roundings is not below the exact value. -/
theorem le_widened (roundings : ℕ) (notNegative : 0 ≤ exact) :
    exact ≤ (1 + roundings * roundoff) * exact := by
  have widened : 0 ≤ roundings * roundoff := mul_nonneg (Nat.cast_nonneg _) roundoff_pos.le
  exact le_mul_of_one_le_left notNegative (by linarith)

/-- A few roundings change less than a half. -/
theorem roundings_small {roundings : ℕ} (few : roundings ≤ 1000) :
    (roundings : ℚ) * roundoff ≤ 1 / 2 := by
  have bound : (roundings : ℚ) ≤ 1000 := by exact_mod_cast few
  calc
    (roundings : ℚ) * roundoff ≤ 1000 * roundoff :=
      mul_le_mul_of_nonneg_right bound roundoff_pos.le
    _ ≤ 1 / 2 := by unfold roundoff; norm_num

/-- One rounding after some others counts for two: itself, and what it adds to the others. -/
theorem roundoff_compound {roundings : ℕ} (few : roundings ≤ 1000) :
    (1 + roundoff) * (1 + roundings * roundoff) ≤ 1 + (roundings + 2 : ℕ) * roundoff := by
  have product := mul_le_mul_of_nonneg_left (roundings_small few) roundoff_pos.le
  have positive := roundoff_pos
  rw [Nat.cast_add, Nat.cast_ofNat]
  linarith

/-- A value that is larger than all that a finite number is used for here. -/
def huge : ℚ := 2 ^ (900 : ℤ)

/-- No number of nanoseconds or seconds in a day is huge. -/
theorem le_huge : 2 ^ (64 : ℤ) ≤ huge := zpow_le_zpow_right₀ (by norm_num) (by norm_num)

/-- The number is within some roundings of an exact value, which is not negative. An infinite number
stands for a huge value. -/
def Near (roundings : ℕ) (exact : ℚ) : Binary64 → Prop
  | .finite false mantissa exponent =>
    |mantissa * 2 ^ exponent - exact| ≤ roundings * roundoff * exact
  | .infinite false => huge ≤ (1 + roundings * roundoff) * exact
  | _ => False

/-- Zero is exact. -/
theorem zero_near (roundings : ℕ) : Near roundings 0 (zero false) := by
  show |((0 : ℕ) : ℚ) * 2 ^ leastExponent - 0| ≤ _
  simp

/-- A normal number keeps its value when the mantissa is full. -/
theorem normal_near {roundings mantissa : ℕ} {exponent : ℤ}
    (close : |mantissa * 2 ^ exponent - exact| ≤ roundings * roundoff * exact)
    (large : greatestExponent ≤ exponent → huge ≤ (1 + roundings * roundoff) * exact) :
    Near roundings exact (normal false mantissa exponent) := by
  unfold normal
  split
  next m e pair =>
  split at pair
  · next full =>
    obtain ⟨rfl, rfl⟩ := Prod.mk.inj pair
    split
    · next overflow => exact large (by omega)
    · have same : (twoTo 52 : ℚ) * 2 ^ (exponent + 1) = mantissa * 2 ^ exponent := by
        rw [full, cast_twoTo, cast_twoTo, ← zpow_add₀ (by norm_num), ← zpow_add₀ (by norm_num)]
        congr 1
        omega
      show |(twoTo 52 : ℚ) * 2 ^ (exponent + 1) - exact| ≤ _
      rw [same]
      exact close
  · obtain ⟨rfl, rfl⟩ := Prod.mk.inj pair
    split
    · next overflow => exact large (by omega)
    · exact close

/-- Half a unit of the mantissa is one rounding of the number. -/
theorem close_of_rounded {mantissa : ℕ} {top : ℤ}
    (rounded : |(mantissa : ℚ) - exact / 2 ^ (top - 52)| ≤ 1 / 2) (low : 2 ^ top ≤ exact) :
    |(mantissa : ℚ) * 2 ^ (top - 52) - exact| ≤ (1 : ℕ) * roundoff * exact := by
  have unit_pos : (0 : ℚ) < 2 ^ (top - 52) := by positivity
  have half : (1 : ℚ) / 2 * 2 ^ (top - 52) = roundoff * 2 ^ top := by
    unfold roundoff
    rw [one_div, ← zpow_neg_one, ← zpow_add₀ (by norm_num), ← zpow_add₀ (by norm_num)]
    congr 1
    omega
  calc
    |(mantissa : ℚ) * 2 ^ (top - 52) - exact| =
        |(mantissa : ℚ) - exact / 2 ^ (top - 52)| * 2 ^ (top - 52) := by
      rw [← abs_of_pos unit_pos, ← abs_mul, sub_mul, abs_of_pos unit_pos,
        div_mul_cancel₀ _ unit_pos.ne']
    _ ≤ 1 / 2 * 2 ^ (top - 52) := mul_le_mul_of_nonneg_right rounded unit_pos.le
    _ = roundoff * 2 ^ top := half
    _ ≤ roundoff * exact := mul_le_mul_of_nonneg_left low roundoff_pos.le
    _ = (1 : ℕ) * roundoff * exact := by rw [Nat.cast_one, one_mul]

/-- The nearest number is one rounding away, unless it is too small for a full mantissa. -/
theorem ofRatio_near (positive : 0 < den) (isQuotient : (num : ℚ) = exact * den)
    (inRange : exact = 0 ∨ 2 ^ (-1022 : ℤ) ≤ exact) : Near 1 exact (ofRatio false num den) := by
  have den_pos : (0 : ℚ) < den := by exact_mod_cast positive
  unfold ofRatio
  by_cases none : num = 0
  · have isZero : exact = 0 := by
      rw [none, Nat.cast_zero] at isQuotient
      exact (mul_eq_zero.1 isQuotient.symm).resolve_right den_pos.ne'
    rw [if_pos none, isZero]
    exact zero_near 1
  · rw [if_neg none]
    have some : 0 < num := Nat.pos_of_ne_zero none
    have exact_pos : 0 < exact := by
      apply pos_of_mul_pos_left _ den_pos.le
      rw [← isQuotient]
      exact_mod_cast some
    have notSmall : 2 ^ (-1022 : ℤ) ≤ exact := inRange.resolve_left exact_pos.ne'
    obtain ⟨low, high⟩ := floorLog2_bounds some positive isQuotient
    generalize floorLog2 num den = top at low high
    have full : -1022 < top + 1 :=
      (zpow_lt_zpow_iff_right₀ (by norm_num)).1 (notSmall.trans_lt high)
    have unit : max leastExponent (top - 52) = top - 52 := max_eq_right (by
      unfold leastExponent
      omega)
    dsimp only
    rw [unit]
    have rounded := roundDiv_near (Nat.mul_pos positive (twoTo_pos _))
      (scale_quotient isQuotient (top - 52))
    apply normal_near (close_of_rounded rounded low)
    intro large
    calc
      huge ≤ 2 ^ top := by
        unfold greatestExponent at large
        exact zpow_le_zpow_right₀ (by norm_num) (by omega)
      _ ≤ exact := low
      _ ≤ (1 + (1 : ℕ) * roundoff) * exact := le_widened 1 exact_pos.le

/-- The exact value of a mantissa with an exponent as a quotient. -/
theorem scaled_quotient (mantissa : ℕ) (exponent : ℤ) :
    ((mantissa * twoTo exponent.toNat : ℕ) : ℚ) =
      mantissa * 2 ^ exponent * twoTo (-exponent).toNat := by
  rw [Nat.cast_mul, twoTo_toNat exponent, mul_assoc]

/-- The number nearest to a mantissa with an exponent is one rounding away. -/
theorem ofScaled_near {mantissa : ℕ} {exponent : ℤ}
    (inRange : (mantissa : ℚ) * 2 ^ exponent = 0 ∨
      2 ^ (-1022 : ℤ) ≤ (mantissa : ℚ) * 2 ^ exponent) :
    Near 1 (mantissa * 2 ^ exponent) (ofScaled false mantissa exponent) :=
  ofRatio_near (twoTo_pos _) (scaled_quotient mantissa exponent) inRange

/-- The number nearest to a whole number is one rounding away. -/
theorem ofNat_near (n : ℕ) : Near 1 n (ofNat n) := by
  apply ofRatio_near Nat.one_pos (by simp)
  rcases Nat.eq_zero_or_pos n with none | some
  · exact .inl (by rw [none, Nat.cast_zero])
  · right
    calc
      (2 : ℚ) ^ (-1022 : ℤ) ≤ 1 := zpow_le_one_of_nonpos₀ (by norm_num) (by norm_num)
      _ ≤ n := by exact_mod_cast some

/-! ## Exact results -/

/-- A full mantissa is not rounded. -/
theorem ofScaled_full {mantissa : ℕ} {exponent : ℤ} (low : twoTo 52 ≤ mantissa)
    (high : mantissa < twoTo 53) (inRange : leastExponent ≤ exponent) (places : ℕ) :
    ofScaled false (mantissa * twoTo places) (exponent - places) =
      normal false mantissa exponent := by
  have some : 0 < mantissa := Nat.lt_of_lt_of_le (twoTo_pos 52) low
  have value : ((mantissa * twoTo places : ℕ) : ℚ) * 2 ^ (exponent - places) =
      mantissa * 2 ^ exponent := by
    rw [Nat.cast_mul, cast_twoTo, mul_assoc, ← zpow_add₀ (by norm_num)]
    congr 2
    omega
  have isQuotient := scaled_quotient (mantissa * twoTo places) (exponent - places)
  rw [value] at isQuotient
  have num_pos : 0 < mantissa * twoTo places * twoTo (exponent - places).toNat :=
    Nat.mul_pos (Nat.mul_pos some (twoTo_pos _)) (twoTo_pos _)
  have den_pos : 0 < twoTo (-(exponent - places)).toNat := twoTo_pos _
  unfold ofScaled
  generalize mantissa * twoTo places * twoTo (exponent - places).toNat = num at *
  generalize twoTo (-(exponent - places)).toNat = den at *
  have top : floorLog2 num den = 52 + exponent := by
    have lowest : (2 : ℚ) ^ (52 : ℤ) ≤ mantissa := (cast_twoTo 52).ge.trans (Nat.cast_le.2 low)
    have highest : (mantissa : ℚ) < 2 ^ (53 : ℤ) :=
      (Nat.cast_lt.2 high).trans_le (cast_twoTo 53).le
    apply floorLog2_eq num_pos den_pos isQuotient
    · rw [zpow_add₀ (by norm_num)]
      exact mul_le_mul_of_nonneg_right lowest (by positivity)
    · rw [add_right_comm, zpow_add₀ (by norm_num)]
      exact mul_lt_mul_of_pos_right highest (by positivity)
  have unit : max leastExponent (floorLog2 num den - 52) = exponent := by
    rw [top]
    omega
  have whole : num * twoTo (-exponent).toNat = mantissa * (den * twoTo exponent.toNat) := by
    have scaled := scale_quotient isQuotient exponent
    rw [mul_div_cancel_right₀ _ (by positivity)] at scaled
    exact_mod_cast scaled
  unfold ofRatio
  rw [if_neg num_pos.ne', unit]
  dsimp only
  rw [whole, roundDiv_mul_right _ _ (Nat.mul_pos den_pos (twoTo_pos _))]

/-! ## Several roundings -/

/-- A number near to a value that is itself near to an exact one. -/
theorem Near.after {roundings : ℕ} {value : ℚ} {number : Binary64} (near : Near 1 value number)
    (close : |value - exact| ≤ roundings * roundoff * exact) (few : roundings ≤ 1000)
    (notNegative : 0 ≤ exact) : Near (roundings + 2) exact number := by
  have atMost : value ≤ (1 + roundings * roundoff) * exact := by
    have := (abs_le.1 close).2
    linarith
  have compound := mul_le_mul_of_nonneg_right (roundoff_compound few) notNegative
  have widened := mul_le_mul_of_nonneg_left atMost roundoff_pos.le
  cases number with
  | nan => exact near
  | infinite negative =>
    cases negative with
    | true => exact near
    | false =>
      have large : huge ≤ (1 + (1 : ℕ) * roundoff) * value := near
      rw [Nat.cast_one, one_mul] at large
      show huge ≤ _
      linarith
  | finite negative mantissa exponent =>
    cases negative with
    | true => exact near
    | false =>
      have rounded : |(mantissa : ℚ) * 2 ^ exponent - value| ≤ (1 : ℕ) * roundoff * value := near
      rw [Nat.cast_one, one_mul] at rounded
      show |(mantissa : ℚ) * 2 ^ exponent - exact| ≤ _
      have triangle := abs_sub_le ((mantissa : ℚ) * 2 ^ exponent) value exact
      linarith

/-- The value is zero, or not so small that a few operations could lose places of the mantissa. -/
def Moderate (exact : ℚ) : Prop := exact = 0 ∨ 2 ^ (-40 : ℤ) ≤ exact

variable {roundings : ℕ} {x y : ℚ} {a b : Binary64}

/-- A moderate value is not negative. -/
theorem Moderate.notNegative (moderate : Moderate exact) : 0 ≤ exact := by
  rcases moderate with zero | positive
  · exact zero.ge
  · exact (zpow_nonneg (by norm_num) _).trans positive

/-- What is near to a moderate value has a full mantissa. -/
theorem Moderate.inRange {value : ℚ} (moderate : Moderate exact)
    (close : |value - exact| ≤ roundings * roundoff * exact) (few : roundings ≤ 1000) :
    value = 0 ∨ 2 ^ (-1022 : ℤ) ≤ value := by
  rcases moderate with zero | positive
  · left
    rw [zero, mul_zero, sub_zero] at close
    exact abs_nonpos_iff.1 close
  · right
    have exact_nonneg : 0 ≤ exact := (zpow_nonneg (by norm_num) _).trans positive
    have half := mul_le_mul_of_nonneg_right (roundings_small few) exact_nonneg
    have below := (abs_le.1 close).1
    calc
      (2 : ℚ) ^ (-1022 : ℤ) ≤ 2 ^ (-41 : ℤ) := zpow_le_zpow_right₀ (by norm_num) (by norm_num)
      _ = 1 / 2 * 2 ^ (-40 : ℤ) := by norm_num
      _ ≤ 1 / 2 * exact := mul_le_mul_of_nonneg_left positive (by norm_num)
      _ ≤ value := by linarith

/-- A mantissa with an exponent that is near to a moderate value is rounded once more. -/
theorem ofScaled_after {mantissa : ℕ} {exponent : ℤ}
    (close : |mantissa * 2 ^ exponent - exact| ≤ roundings * roundoff * exact)
    (few : roundings ≤ 1000) (moderate : Moderate exact) :
    Near (roundings + 2) exact (ofScaled false mantissa exponent) :=
  (ofScaled_near (moderate.inRange close few)).after close few moderate.notNegative

/-- A number near to a value is finite, or both are very large. -/
theorem Near.cases_eq (near : Near roundings exact a) :
    (∃ mantissa exponent, a = .finite false mantissa exponent ∧
      |mantissa * 2 ^ exponent - exact| ≤ roundings * roundoff * exact) ∨
    a = .infinite false ∧ huge ≤ (1 + roundings * roundoff) * exact := by
  cases a with
  | nan => exact near.elim
  | infinite negative =>
    cases negative with
    | true => exact near.elim
    | false => exact .inr ⟨rfl, near⟩
  | finite negative mantissa exponent =>
    cases negative with
    | true => exact near.elim
    | false => exact .inl ⟨mantissa, exponent, rfl, near⟩

/-- A bound on more roundings is weaker. -/
theorem Near.mono {more : ℕ} (near : Near roundings exact a) (fewer : roundings ≤ more)
    (notNegative : 0 ≤ exact) : Near more exact a := by
  have weaker : roundings * roundoff * exact ≤ more * roundoff * exact :=
    mul_le_mul_of_nonneg_right
      (mul_le_mul_of_nonneg_right (by exact_mod_cast fewer) roundoff_pos.le) notNegative
  rcases near.cases_eq with ⟨m, e, rfl, close⟩ | ⟨rfl, large⟩
  · exact close.trans weaker
  · show huge ≤ _
    linarith

/-- A value that is very large stays so when it grows and is rounded. -/
theorem large_after (large : huge ≤ (1 + roundings * roundoff) * x) (grows : x ≤ y)
    (notNegative : 0 ≤ y) : Near (roundings + 2) y (.infinite false) := by
  show huge ≤ _
  have first : (1 + roundings * roundoff) * x ≤ (1 + roundings * roundoff) * y :=
    mul_le_mul_of_nonneg_left grows (add_nonneg zero_le_one
      (mul_nonneg (Nat.cast_nonneg _) roundoff_pos.le))
  have more := mul_nonneg roundoff_pos.le notNegative
  rw [Nat.cast_add, Nat.cast_ofNat]
  linarith

/-! ### Sums -/

/-- A mantissa in units that are no greater than its own has the same value. -/
theorem units_value {mantissa : ℕ} {exponent unit : ℤ} (fits : unit ≤ exponent) :
    ((mantissa * twoTo (exponent - unit).toNat : ℕ) : ℚ) * 2 ^ unit = mantissa * 2 ^ exponent := by
  rw [Nat.cast_mul, cast_twoTo, mul_assoc, ← zpow_add₀ (by norm_num)]
  congr 2
  omega

/-- No mantissa is zero in any unit. -/
theorem ofScaled_zero (exponent : ℤ) : ofScaled false 0 exponent = zero false := by
  unfold ofScaled ofRatio
  rw [Nat.zero_mul, if_pos rfl]

/-- The mantissas of a sum are added in the smaller one of their units. -/
theorem add_finite (m n : ℕ) (e f : ℤ) :
    (finite false m e).add (.finite false n f) = ofScaled false
      (m * twoTo (e - min e f).toNat + n * twoTo (f - min e f).toNat) (min e f) := by
  unfold add units
  simp only [Bool.false_eq_true, if_false, ← Nat.cast_add, Int.natAbs_natCast]
  generalize m * twoTo (e - min e f).toNat + n * twoTo (f - min e f).toNat = sum
  split
  · next none =>
    rw [Int.natCast_eq_zero.1 none, ofScaled_zero]
    rfl
  · have positive : ¬ (sum : ℤ) < 0 := by omega
    rw [decide_eq_false positive]

/-- A sum of two numbers is rounded once more than these. -/
theorem Near.add (nearX : Near roundings x a) (nearY : Near roundings y b)
    (few : roundings ≤ 1000) (moderateX : Moderate x) (moderateY : Moderate y) :
    Near (roundings + 2) (x + y) (a.add b) := by
  have x_nonneg := moderateX.notNegative
  have y_nonneg := moderateY.notNegative
  have moderate : Moderate (x + y) := by
    rcases moderateX with zero | positive
    · rw [zero, zero_add]
      exact moderateY
    · exact .inr (le_add_of_le_of_nonneg positive y_nonneg)
  rcases nearX.cases_eq with ⟨m, e, rfl, closeX⟩ | ⟨rfl, large⟩
  · rcases nearY.cases_eq with ⟨n, f, rfl, closeY⟩ | ⟨rfl, large⟩
    · rw [add_finite]
      apply ofScaled_after _ few moderate
      rw [Nat.cast_add, add_mul, units_value (min_le_left e f), units_value (min_le_right e f)]
      calc
        |(m : ℚ) * 2 ^ e + n * 2 ^ f - (x + y)| = |(m * 2 ^ e - x) + (n * 2 ^ f - y)| := by
          rw [add_sub_add_comm]
        _ ≤ |(m : ℚ) * 2 ^ e - x| + |(n : ℚ) * 2 ^ f - y| := abs_add_le _ _
        _ ≤ roundings * roundoff * x + roundings * roundoff * y := add_le_add closeX closeY
        _ = roundings * roundoff * (x + y) := (mul_add _ _ _).symm
    · exact large_after large (le_add_of_nonneg_left x_nonneg) moderate.notNegative
  · rcases nearY.cases_eq with ⟨n, f, rfl, -⟩ | ⟨rfl, -⟩
    · exact large_after large (le_add_of_nonneg_right y_nonneg) moderate.notNegative
    · exact large_after large (le_add_of_nonneg_right y_nonneg) moderate.notNegative

/-! ### Quotients -/

/-- A quotient by a fixed number is rounded once more than the dividend. -/
theorem Near.div_finite {mantissa : ℕ} {exponent : ℤ} (near : Near roundings x a)
    (some : 0 < mantissa) (few : roundings ≤ 1000) (notNegative : 0 ≤ x) (bounded : 2 * x < huge)
    (moderate : Moderate (x / (mantissa * 2 ^ exponent))) :
    Near (roundings + 2) (x / (mantissa * 2 ^ exponent))
      (a.div (.finite false mantissa exponent)) := by
  have mantissa_pos : (0 : ℚ) < mantissa := by exact_mod_cast some
  have divisor_pos : (0 : ℚ) < mantissa * 2 ^ exponent := by positivity
  rcases near.cases_eq with ⟨m, e, rfl, close⟩ | ⟨rfl, large⟩
  · have isQuotient : ((m * twoTo (e - exponent).toNat : ℕ) : ℚ) =
        m * 2 ^ e / (mantissa * 2 ^ exponent) * (mantissa * twoTo (exponent - e).toNat : ℕ) := by
      rw [Nat.cast_mul, Nat.cast_mul, twoTo_toNat (e - exponent), neg_sub,
        zpow_sub₀ (by norm_num)]
      field_simp
    have quotient : (finite false m e).div (.finite false mantissa exponent) =
        ofRatio false (m * twoTo (e - exponent).toNat) (mantissa * twoTo (exponent - e).toNat) :=
      if_neg some.ne'
    have closeQuotient : |(m : ℚ) * 2 ^ e / (mantissa * 2 ^ exponent) -
        x / (mantissa * 2 ^ exponent)| ≤
          roundings * roundoff * (x / (mantissa * 2 ^ exponent)) := by
      rw [← sub_div, abs_div, abs_of_pos divisor_pos, ← mul_div_assoc]
      exact div_le_div_of_nonneg_right close divisor_pos.le
    rw [quotient]
    exact (ofRatio_near (Nat.mul_pos some (twoTo_pos _)) isQuotient
      (moderate.inRange closeQuotient few)).after closeQuotient few moderate.notNegative
  · exfalso
    have half := mul_le_mul_of_nonneg_right (roundings_small few) notNegative
    linarith

/-! ### Powers of two -/

/-- Two to a power, which is infinite from `2 ^ 1024` on. -/
def twoPower (exponent : ℕ) : Binary64 := normal false (twoTo 52) (exponent - 52)

/-- The powers of two below `2 ^ 1024` are finite. -/
theorem twoPower_eq_finite {n : ℕ} (small : n < 1024) :
    twoPower n = .finite false (twoTo 52) (n - 52) := by
  have inRange : ¬ (n : ℤ) - 52 > greatestExponent := by
    unfold greatestExponent
    omega
  exact if_neg inRange

/-- From `2 ^ 1024` on a power of two is infinite. -/
theorem twoPower_eq_infinite {n : ℕ} (large : 1024 ≤ n) : twoPower n = .infinite false := by
  have overflow : (n : ℤ) - 52 > greatestExponent := by
    unfold greatestExponent
    omega
  exact if_pos overflow

/-- An infinite factor of a number that is not zero makes the product infinite. -/
theorem infinite_mul {mantissa : ℕ} {exponent : ℤ} (some : 0 < mantissa) :
    (infinite false).mul (.finite false mantissa exponent) = .infinite false := by
  unfold mul
  exact if_neg some.ne'

/-- A number that is not zero has an infinite product with an infinite factor. -/
theorem mul_infinite {mantissa : ℕ} {exponent : ℤ} (some : 0 < mantissa) :
    (finite false mantissa exponent).mul (.infinite false) = .infinite false := by
  unfold mul
  exact if_neg some.ne'

/-- Products of powers of two are not rounded. -/
theorem twoPower_mul (m n : ℕ) : (twoPower m).mul (twoPower n) = twoPower (m + n) := by
  by_cases smallM : m < 1024
  · rw [twoPower_eq_finite smallM]
    by_cases smallN : n < 1024
    · have inRange : leastExponent ≤ ((m + n : ℕ) : ℤ) - 52 := by
        unfold leastExponent
        omega
      have product := ofScaled_full (Nat.le_refl (twoTo 52)) (by decide) inRange 52
      have unit : ((m + n : ℕ) : ℤ) - 52 - (52 : ℕ) = m - 52 + (n - 52) := by omega
      rw [unit] at product
      rw [twoPower_eq_finite smallN]
      exact product
    · rw [twoPower_eq_infinite (Nat.not_lt.1 smallN), twoPower_eq_infinite (by omega),
        mul_infinite (twoTo_pos 52)]
  · rw [twoPower_eq_infinite (Nat.not_lt.1 smallM), twoPower_eq_infinite (n := m + n) (by omega)]
    by_cases smallN : n < 1024
    · rw [twoPower_eq_finite smallN, infinite_mul (twoTo_pos 52)]
    · rw [twoPower_eq_infinite (Nat.not_lt.1 smallN)]
      rfl

/-- Squaring makes the same power of two as multiplying one by one. -/
theorem powFrom_twoPower (m n exponent : ℕ) :
    powFrom (twoPower m) (twoPower n) exponent = twoPower (m + n * exponent) := by
  induction exponent using Nat.strong_induction_on generalizing m n with
  | h exponent ih =>
    rw [powFrom]
    by_cases none : exponent = 0
    · rw [if_pos none, none, Nat.mul_zero, Nat.add_zero]
    · rw [if_neg none]
      have smaller : exponent / 2 < exponent := Nat.div_lt_self (Nat.pos_of_ne_zero none) (by decide)
      have odd : (if exponent % 2 = 1 then (twoPower m).mul (twoPower n) else twoPower m) =
          twoPower (m + n * (exponent % 2)) := by
        rcases Nat.mod_two_eq_zero_or_one exponent with even | odd
        · rw [even, if_neg (by decide), Nat.mul_zero, Nat.add_zero]
        · rw [odd, if_pos rfl, twoPower_mul, Nat.mul_one]
      dsimp only
      rw [odd, twoPower_mul, ih _ smaller]
      have total : n * exponent = n * (exponent % 2) + (n + n) * (exponent / 2) := by
        conv_lhs => rw [← Nat.div_add_mod exponent 2]
        ring
      rw [total, ← Nat.add_assoc]
      split
      · next last => rw [last, Nat.mul_zero, Nat.add_zero]
      · rfl

/-- Powers of two are found without any rounding. -/
theorem pow_ofNat_two (n : ℕ) : (ofNat 2).pow n = twoPower n := by
  have one : ofNat 1 = twoPower 0 := by decide
  have two : ofNat 2 = twoPower 1 := by decide
  unfold pow
  rw [one, two, powFrom_twoPower, Nat.zero_add, Nat.one_mul]

/-- The product with a power of two is rounded once more, unless one is zero and the other infinite. -/
theorem Near.mul_twoPower {n : ℕ} (near : Near roundings x a) (few : roundings ≤ 1000)
    (moderate : Moderate x) (defined : x = 0 → n < 1024) :
    Near (roundings + 2) (x * 2 ^ n) (a.mul (twoPower n)) := by
  have x_nonneg := moderate.notNegative
  have power_ge : (1 : ℚ) ≤ 2 ^ n := one_le_pow₀ (by norm_num)
  have grows : x ≤ x * 2 ^ n := le_mul_of_one_le_right x_nonneg power_ge
  have product_nonneg : 0 ≤ x * 2 ^ n := x_nonneg.trans grows
  rcases near.cases_eq with ⟨m, e, rfl, close⟩ | ⟨rfl, large⟩
  · by_cases small : n < 1024
    · have value : ((m * twoTo 52 : ℕ) : ℚ) * 2 ^ (e + (n - 52)) = m * 2 ^ e * 2 ^ n := by
        rw [Nat.cast_mul, cast_twoTo, ← zpow_natCast (2 : ℚ) n, mul_assoc, mul_assoc,
          ← zpow_add₀ (by norm_num), ← zpow_add₀ (by norm_num)]
        congr 2
        omega
      have moderateProduct : Moderate (x * 2 ^ n) := by
        rcases moderate with zero | positive
        · exact .inl (by rw [zero, zero_mul])
        · exact .inr (positive.trans grows)
      have product : (finite false m e).mul (.finite false (twoTo 52) (n - 52)) =
          ofScaled false (m * twoTo 52) (e + (n - 52)) := rfl
      rw [twoPower_eq_finite small, product]
      apply ofScaled_after _ few moderateProduct
      rw [value, ← sub_mul, abs_mul, abs_of_nonneg (zero_le_one.trans power_ge), ← mul_assoc]
      exact mul_le_mul_of_nonneg_right close (zero_le_one.trans power_ge)
    · have large : 1024 ≤ n := Nat.not_lt.1 small
      have positive : 2 ^ (-40 : ℤ) ≤ x := moderate.resolve_left fun zero => small (defined zero)
      have some : 0 < m := by
        apply Nat.pos_of_ne_zero
        intro none
        rw [none, Nat.cast_zero, zero_mul, zero_sub, abs_neg, abs_of_nonneg x_nonneg] at close
        have half := mul_le_mul_of_nonneg_right (roundings_small few) x_nonneg
        have x_pos : 0 < x := (zpow_pos (by norm_num) _).trans_le positive
        linarith
      rw [twoPower_eq_infinite large, mul_infinite some]
      calc
        huge ≤ 2 ^ (-40 + n : ℤ) := zpow_le_zpow_right₀ (by norm_num) (by omega)
        _ = 2 ^ (-40 : ℤ) * 2 ^ n := by rw [zpow_add₀ (by norm_num), zpow_natCast]
        _ ≤ x * 2 ^ n := mul_le_mul_of_nonneg_right positive (zero_le_one.trans power_ge)
        _ ≤ (1 + (roundings + 2 : ℕ) * roundoff) * (x * 2 ^ n) := le_widened _ product_nonneg
  · by_cases small : n < 1024
    · rw [twoPower_eq_finite small, infinite_mul (twoTo_pos 52)]
      exact large_after large grows product_nonneg
    · rw [twoPower_eq_infinite (Nat.not_lt.1 small)]
      exact large_after large grows product_nonneg

end Binary64

end ReminderDispatch
