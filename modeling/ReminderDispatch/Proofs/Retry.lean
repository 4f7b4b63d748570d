import ReminderDispatch.Proofs.Number.Precision
import ReminderDispatch.Retry

/-!
# Retry delays

The delay after an attempt is the base delay, doubled for every attempt after the first, and at most
a day. It is computed in double precision, but up to a day a few roundings change less than half a
nanosecond, and beyond a day they do not matter. Only a base delay of zero is not doubled for ever:
from the attempt on whose power of two is infinite there is no product with zero, and the delay is a
day.
-/

namespace ReminderDispatch

open Binary64 Number

namespace Duration

/-- Spans of equal length are equal. -/
theorem eq_of_nanos {a b : Duration} (same : a.nanos = b.nanos) : a = b := congrArg mk same

/-- The shorter span has the lower number of nanoseconds. -/
theorem nanos_min (a b : Duration) : (min a b).nanos = min a.nanos b.nanos := by
  show (if a.nanos ≤ b.nanos then a else b).nanos = _
  split
  · next shorter => exact (Nat.min_eq_left shorter).symm
  · next longer => exact (Nat.min_eq_right (Nat.le_of_lt (Nat.not_le.1 longer))).symm

/-- A billion has an exact number. -/
theorem ofNat_billion : Binary64.ofNat 1000000000 = .finite false 8388608000000000 (-23) := by
  decide

/-- A whole number is zero or not small. -/
theorem moderate_natCast (n : ℕ) : Moderate n := by
  rcases Nat.eq_zero_or_pos n with none | some
  · exact .inl (by rw [none, Nat.cast_zero])
  · right
    calc
      (2 : ℚ) ^ (-40 : ℤ) ≤ 1 := zpow_le_one_of_nonpos₀ (by norm_num) (by norm_num)
      _ ≤ n := by exact_mod_cast some

/-- A whole number of nanoseconds is zero or not small in seconds. -/
theorem moderate_seconds (n : ℕ) : Moderate (n / 1000000000) := by
  rcases Nat.eq_zero_or_pos n with none | some
  · exact .inl (by rw [none, Nat.cast_zero, zero_div])
  · right
    calc
      (2 : ℚ) ^ (-40 : ℤ) ≤ 1 / 1000000000 := by norm_num
      _ ≤ n / 1000000000 := by
        apply div_le_div_of_nonneg_right _ (by norm_num)
        exact_mod_cast some

/-- The fraction of a second is rounded three times at most. -/
theorem fraction_near (span : Duration) :
    Near 3 (span.subsecond / 1000000000)
      ((Binary64.ofNat span.subsecond).div (Binary64.ofNat 1000000000)) := by
  have short : (span.subsecond : ℚ) < 1000000000 := by
    exact_mod_cast Nat.mod_lt span.nanos (by decide)
  have bounded : 2 * (span.subsecond : ℚ) < huge := by
    calc
      2 * (span.subsecond : ℚ) ≤ 2 * 1000000000 := by linarith
      _ < 2 ^ (64 : ℤ) := by norm_num
      _ ≤ huge := le_huge
  have billion : ((8388608000000000 : ℕ) : ℚ) * 2 ^ (-23 : ℤ) = 1000000000 := by norm_num
  have moderate := moderate_seconds span.subsecond
  rw [← billion] at moderate ⊢
  rw [ofNat_billion]
  exact (ofNat_near span.subsecond).div_finite (by decide) (by decide) (Nat.cast_nonneg _) bounded
    moderate

/-- The length in seconds is rounded five times at most. -/
theorem toSeconds_near (span : Duration) : Near 5 (span.nanos / 1000000000) span.toSeconds := by
  have whole : Near 3 span.wholeSeconds (Binary64.ofNat span.wholeSeconds) :=
    (ofNat_near _).mono (by decide) (Nat.cast_nonneg _)
  have parts : (span.nanos : ℚ) / 1000000000 =
      span.wholeSeconds + span.subsecond / 1000000000 := by
    have split : 1000000000 * span.wholeSeconds + span.subsecond = span.nanos :=
      Nat.div_add_mod _ _
    rw [← split, Nat.cast_add, Nat.cast_mul, add_div, Nat.cast_ofNat,
      mul_div_cancel_left₀ _ (by norm_num)]
  rw [parts]
  exact whole.add span.fraction_near (by decide) (moderate_natCast _) (moderate_seconds _)

end Duration

namespace RetryPolicy

/-- What is within a few roundings of a number of nanoseconds is that number, or both are more than
a day. -/
theorem min_eq_of_close {rounded exact : ℕ}
    (close : |(rounded : ℚ) - exact| ≤ 1 / 2 + 7 * roundoff * exact) :
    min rounded maxDelay.nanos = min exact maxDelay.nanos := by
  have day : maxDelay.nanos = 86400000000000 := rfl
  have tiny : 7 * roundoff * 86400000000001 < 1 / 4 := by
    unfold roundoff
    norm_num
  obtain ⟨above, below⟩ := abs_le.1 close
  rw [day]
  by_cases short : exact ≤ 86400000000000
  · have exact_le : (exact : ℚ) ≤ 86400000000000 := by exact_mod_cast short
    have error : 7 * roundoff * exact ≤ 7 * roundoff * 86400000000001 :=
      mul_le_mul_of_nonneg_left (by linarith) (mul_nonneg (by norm_num) roundoff_pos.le)
    have notMore : rounded < exact + 1 := by
      have : (rounded : ℚ) < exact + 1 := by linarith
      exact_mod_cast this
    have notLess : exact < rounded + 1 := by
      have : (exact : ℚ) < rounded + 1 := by linarith
      exact_mod_cast this
    rw [show rounded = exact by omega]
  · have exact_ge : (86400000000001 : ℚ) ≤ exact := by exact_mod_cast Nat.not_le.1 short
    have part : 7 * roundoff ≤ 1 / 4 / 86400000000001 := by
      rw [le_div_iff₀ (by norm_num)]
      exact tiny.le
    have error : 7 * roundoff * exact ≤ 1 / 4 / 86400000000001 * exact :=
      mul_le_mul_of_nonneg_right part (Nat.cast_nonneg _)
    have long : 86400000000000 < rounded := by
      have : (86400000000000 : ℚ) < rounded := by linarith
      exact_mod_cast this
    omega

/-- What is near in seconds is as near in nanoseconds. -/
theorem close_in_nanos {seconds : ℚ} {exact : ℕ}
    (close : |seconds - exact / 1000000000| ≤ (7 : ℕ) * roundoff * (exact / 1000000000)) :
    |seconds * 1000000000 - exact| ≤ 7 * roundoff * exact := by
  have billion_pos : (0 : ℚ) < 1000000000 := by norm_num
  calc
    |seconds * 1000000000 - exact| = |(seconds - exact / 1000000000) * 1000000000| := by
      rw [sub_mul, div_mul_cancel₀ _ billion_pos.ne']
    _ = |seconds - exact / 1000000000| * 1000000000 := by rw [abs_mul, abs_of_pos billion_pos]
    _ ≤ (7 : ℕ) * roundoff * (exact / 1000000000) * 1000000000 :=
      mul_le_mul_of_nonneg_right close billion_pos.le
    _ = 7 * roundoff * exact := by
      rw [mul_assoc, div_mul_cancel₀ _ billion_pos.ne', Nat.cast_ofNat]

/-- A finite number of seconds makes a span of the nearest number of nanoseconds, if it is not too
long. -/
theorem ofSeconds?_finite (mantissa : ℕ) (exponent : ℤ) : ∃ rounded : ℕ,
    |(rounded : ℚ) - mantissa * 2 ^ exponent * 1000000000| ≤ 1 / 2 ∧
      Duration.ofSeconds? (.finite false mantissa exponent) =
        if rounded < UInt64.size * 1000000000 then some ⟨rounded⟩ else none := by
  have isQuotient : ((mantissa * 1000000000 * twoTo exponent.toNat : ℕ) : ℚ) =
      mantissa * 2 ^ exponent * 1000000000 * twoTo (-exponent).toNat := by
    rw [scaled_quotient (mantissa * 1000000000) exponent, Nat.cast_mul, Nat.cast_ofNat,
      mul_right_comm (mantissa : ℚ)]
  refine ⟨_, roundDiv_near (twoTo_pos _) isQuotient, ?_⟩
  unfold Duration.ofSeconds? scaledNat?
  simp only [Bool.false_eq_true, false_and, if_false]

/-- A number of seconds that is near to a whole number of nanoseconds is that delay. -/
theorem capped_of_near {exact : ℕ} {seconds : Binary64} (near : Near 7 (exact / 1000000000) seconds) :
    min ((Duration.ofSeconds? seconds).getD maxDelay) maxDelay = min ⟨exact⟩ maxDelay := by
  apply Duration.eq_of_nanos
  rw [Duration.nanos_min, Duration.nanos_min]
  rcases near.cases_eq with ⟨m, e, rfl, close⟩ | ⟨rfl, large⟩
  · obtain ⟨rounded, half, found⟩ := ofSeconds?_finite m e
    have scaled := close_in_nanos close
    have triangle := abs_sub_le (rounded : ℚ) (m * 2 ^ e * 1000000000) exact
    have same : min rounded maxDelay.nanos = min exact maxDelay.nanos :=
      min_eq_of_close (by linarith)
    rw [found]
    split
    · exact same
    · next long =>
      have day : maxDelay.nanos ≤ UInt64.size * 1000000000 := by decide
      rw [Option.getD_none, Nat.min_self, ← same]
      omega
  · have day : maxDelay.nanos ≤ exact := by
      have exact_nonneg : (0 : ℚ) ≤ exact / 1000000000 := by positivity
      have part := mul_le_mul_of_nonneg_right (roundings_small (by decide : 7 ≤ 1000)) exact_nonneg
      have long : (86400000000000 : ℚ) ≤ exact := by
        have below := le_huge
        norm_num at below
        linarith
      exact_mod_cast long
    show min maxDelay.nanos maxDelay.nanos = min exact maxDelay.nanos
    omega

/-- Any delay is a day after 47 doublings. -/
theorem day_le_doubled {nanos doublings : ℕ} (some : 0 < nanos) (many : 47 ≤ doublings) :
    maxDelay.nanos ≤ nanos * 2 ^ doublings := by
  calc
    maxDelay.nanos ≤ 2 ^ 47 := by decide
    _ ≤ 2 ^ doublings := Nat.pow_le_pow_right (by decide) many
    _ ≤ nanos * 2 ^ doublings := Nat.le_mul_of_pos_left _ some

variable {maxAttempts attempt : ℕ} {base : Duration}

/-- No product of zero with an infinite power of two is a number. -/
theorem nextDelay_zero (late : 1024 < attempt) :
    (new maxAttempts .zero).nextDelay attempt = maxDelay := by
  have infinite : 1024 ≤ min (attempt - 1) maxExponent := by
    unfold maxExponent
    omega
  have nothing : Duration.zero.toSeconds = .finite false 0 (-1074) := by decide +kernel
  unfold nextDelay new
  dsimp only
  rw [pow_ofNat_two, twoPower_eq_infinite infinite, nothing]
  rfl

/-- A delay that is not zero is a day long before the exponent reaches its bound. -/
theorem min_doubled {nanos doublings : ℕ} (bounded : nanos = 0 → doublings ≤ maxExponent) :
    (min ⟨nanos * 2 ^ min doublings maxExponent⟩ maxDelay : Duration) =
      min ⟨nanos * 2 ^ doublings⟩ maxDelay := by
  by_cases within : doublings ≤ maxExponent
  · rw [Nat.min_eq_left within]
  · have some : 0 < nanos := Nat.pos_of_ne_zero fun none => within (bounded none)
    have many : 47 ≤ min doublings maxExponent := by
      unfold maxExponent at within ⊢
      omega
    apply Duration.eq_of_nanos
    rw [Duration.nanos_min, Duration.nanos_min, Nat.min_eq_right (day_le_doubled some many),
      Nat.min_eq_right (day_le_doubled some (by omega))]

/-- Any other delay is the base delay, doubled for every attempt after the first. -/
theorem nextDelay_doubled (defined : base = .zero → attempt ≤ 1024) :
    (new maxAttempts base).nextDelay attempt =
      min ⟨base.nanos * 2 ^ (max attempt 1 - 1)⟩ maxDelay := by
  have early : base.nanos = 0 → attempt - 1 < 1024 := by
    intro none
    have := defined (Duration.eq_of_nanos none)
    omega
  have finite : (base.nanos : ℚ) / 1000000000 = 0 → min (attempt - 1) maxExponent < 1024 := by
    intro none
    rw [div_eq_zero_iff, or_iff_left (by norm_num), Nat.cast_eq_zero] at none
    exact Nat.lt_of_le_of_lt (Nat.min_le_left _ _) (early none)
  have product : (base.nanos : ℚ) / 1000000000 * 2 ^ min (attempt - 1) maxExponent =
      (base.nanos * 2 ^ min (attempt - 1) maxExponent : ℕ) / 1000000000 := by
    rw [Nat.cast_mul, Nat.cast_pow, Nat.cast_ofNat, div_mul_eq_mul_div]
  have near := base.toSeconds_near.mul_twoPower (by decide)
    (Duration.moderate_seconds base.nanos) finite
  rw [product] at near
  have first : max attempt 1 - 1 = attempt - 1 := by omega
  have bounded : base.nanos = 0 → attempt - 1 ≤ maxExponent := by
    intro none
    have := early none
    unfold maxExponent
    omega
  rw [first, ← min_doubled bounded]
  unfold nextDelay new
  dsimp only
  rw [pow_ofNat_two]
  exact capped_of_near near

/-- No delay is longer than a day. -/
theorem nextDelay_le_day (policy : RetryPolicy) (attempt : ℕ) :
    policy.nextDelay attempt ≤ maxDelay := by
  unfold nextDelay
  show (min _ maxDelay : Duration).nanos ≤ maxDelay.nanos
  rw [Duration.nanos_min]
  exact Nat.min_le_right _ _

/-- Zero is not doubled, while the power of two is finite. -/
theorem nextDelay_zero_early (early : attempt ≤ 1024) :
    (new maxAttempts .zero).nextDelay attempt = .zero := by
  rw [nextDelay_doubled fun _ => early]
  apply Duration.eq_of_nanos
  have none : Duration.zero.nanos = 0 := rfl
  rw [Duration.nanos_min, none, Nat.zero_mul, Nat.zero_min]

/-- A later attempt never has a shorter delay. -/
theorem nextDelay_mono {earlier later : ℕ} (ordered : earlier ≤ later) :
    (new maxAttempts base).nextDelay earlier ≤ (new maxAttempts base).nextDelay later := by
  by_cases last : base = .zero ∧ 1024 < later
  · obtain ⟨rfl, late⟩ := last
    rw [nextDelay_zero late]
    exact nextDelay_le_day _ earlier
  · have defined : base = .zero → later ≤ 1024 := fun isZero =>
      Nat.not_lt.1 fun late => last ⟨isZero, late⟩
    rw [nextDelay_doubled defined, nextDelay_doubled fun isZero => ordered.trans (defined isZero)]
    show (min _ maxDelay : Duration).nanos ≤ (min _ maxDelay : Duration).nanos
    rw [Duration.nanos_min, Duration.nanos_min]
    have fewer : max earlier 1 - 1 ≤ max later 1 - 1 := by omega
    have shorter : base.nanos * 2 ^ (max earlier 1 - 1) ≤ base.nanos * 2 ^ (max later 1 - 1) :=
      Nat.mul_le_mul_left _ (Nat.pow_le_pow_right (by decide) fewer)
    exact min_le_min_right _ shorter

/-- The delay after an attempt is the base delay, doubled for every attempt after the first, and at
most a day, except that a base delay of zero gives a day from attempt 1025 on. A later attempt never
has a shorter delay. -/
theorem delays_double (maxAttempts : ℕ) (base : Duration) :
    (∀ attempt, (new maxAttempts base).nextDelay attempt =
      if base = .zero ∧ 1024 < attempt then maxDelay
      else min ⟨base.nanos * 2 ^ (max attempt 1 - 1)⟩ maxDelay) ∧
    (∀ attempt, attempt ≤ 1024 → (new maxAttempts .zero).nextDelay attempt = .zero) ∧
    (∀ earlier later, earlier ≤ later →
      (new maxAttempts base).nextDelay earlier ≤ (new maxAttempts base).nextDelay later) := by
  refine ⟨fun attempt => ?_, fun _ => nextDelay_zero_early, fun _ _ => nextDelay_mono⟩
  split
  · next undefined =>
    obtain ⟨rfl, late⟩ := undefined
    exact nextDelay_zero late
  · next defined =>
    exact nextDelay_doubled fun isZero => Nat.not_lt.1 fun late => defined ⟨isZero, late⟩

/-- A base delay just below a day is not rounded, and its double is a day. -/
theorem delays_double_nearDay :
    (new 5 ⟨86399999999999⟩).nextDelay 1 = ⟨86399999999999⟩ ∧
      (new 5 ⟨86399999999999⟩).nextDelay 1 ≤ (new 5 ⟨86399999999999⟩).nextDelay 2 ∧
      (new 5 .zero).nextDelay 1024 = .zero := by
  obtain ⟨doubles, zeros, grows⟩ := delays_double 5 ⟨86399999999999⟩
  refine ⟨?_, grows 1 2 (by decide), zeros 1024 (by decide)⟩
  rw [doubles 1]
  rfl

/-- From attempt 1025 on a base delay of zero is not what doubling makes of it. -/
theorem zero_delay_ends :
    (new 5 .zero).nextDelay 1025 = maxDelay ∧
      (new 5 .zero).nextDelay 1025 ≠ min ⟨Duration.zero.nanos * 2 ^ (max 1025 1 - 1)⟩ maxDelay := by
  have delay : (new 5 .zero).nextDelay 1025 = maxDelay := nextDelay_zero (by decide)
  have none : Duration.zero.nanos = 0 := rfl
  refine ⟨delay, ?_⟩
  rw [delay, none, Nat.zero_mul]
  decide

end RetryPolicy

end ReminderDispatch
