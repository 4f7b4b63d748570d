import ReminderDispatch.Proofs.Calendar.DayOrder
import ReminderDispatch.Proofs.Lists
import ReminderDispatch.Proofs.Wire.Records

/-!
# The order of identifiers

The digits of base 32 stand in the order of their values, and every identifier has as many of them.
So texts are ordered as identifiers are, and different identifiers have different texts. The time
part is above all other bits: whatever tells apart the tasks of one millisecond, those of a later
one come after them.
-/

namespace ReminderDispatch

namespace TaskId

variable {a b id : TaskId}

/-! ## Digits in order -/

/-- Every digit comes after the one before it. -/
theorem digit_lt_succ : ∀ value < 31, digit value < digit (value + 1) := by decide

/-- The digit of a greater value comes later. -/
theorem digit_lt {low high : Nat} (less : low < high) (isDigit : high < 32) :
    digit low < digit high := by
  induction high with
  | zero => exact absurd less (Nat.not_lt_zero low)
  | succ value ih =>
    have next : digit value < digit (value + 1) := digit_lt_succ value (by omega)
    rcases Nat.lt_succ_iff_lt_or_eq.1 less with earlier | same
    · exact Char.lt_trans (ih earlier (by omega)) next
    · rw [same]
      exact next

/-- There are as many digits as are wanted. -/
theorem length_digitsOf (count n : Nat) : (digitsOf count n).length = count := by
  induction count generalizing n with
  | zero => rfl
  | succ count ih => rw [digitsOf, List.length_append, ih, List.length_singleton]

/-- The last digit of a number and the number before it. -/
theorem mod_capacity_succ (count n : Nat) :
    n % capacity (count + 1) = n % 32 + 32 * (n / 32 % capacity count) := by
  rw [capacity_succ, Nat.mod_mul]

/-- Digits tell a number up to what they cannot hold. -/
theorem digitsOf_congr {count m n : Nat} (same : m % capacity count = n % capacity count) :
    digitsOf count m = digitsOf count n := by
  induction count generalizing m n with
  | zero => rfl
  | succ count ih =>
    have last := Nat.mod_lt m (show 0 < 32 by decide)
    have otherLast := Nat.mod_lt n (show 0 < 32 by decide)
    rw [mod_capacity_succ, mod_capacity_succ] at same
    have sameLast : m % 32 = n % 32 := by omega
    have sameFront : m / 32 % capacity count = n / 32 % capacity count := by omega
    rw [digitsOf, digitsOf, ih sameFront, sameLast]

/-- The digits of a greater number come later, whichever digit is the first to differ. -/
theorem digitsOf_lt {count m n : Nat} (less : m % capacity count < n % capacity count) :
    digitsOf count m < digitsOf count n := by
  induction count generalizing m n with
  | zero => simp [capacity, Nat.mod_one] at less
  | succ count ih =>
    have last := Nat.mod_lt m (show 0 < 32 by decide)
    have otherLast := Nat.mod_lt n (show 0 < 32 by decide)
    rw [mod_capacity_succ, mod_capacity_succ] at less
    rw [digitsOf, digitsOf]
    rcases Nat.lt_trichotomy (m / 32 % capacity count) (n / 32 % capacity count) with
      earlier | same | later
    · have sameLength : (digitsOf count (m / 32)).length = (digitsOf count (n / 32)).length := by
        rw [length_digitsOf, length_digitsOf]
      exact append_lt_append sameLength (ih earlier) _ _
    · have lower : m % 32 < n % 32 := by omega
      have digits : [digit (m % 32)] < [digit (n % 32)] :=
        List.cons_lt_cons_iff.2 (.inl (digit_lt lower otherLast))
      rw [digitsOf_congr same]
      exact List.append_left_lt digits
    · omega

/-! ## Texts -/

/-- An identifier has no more digits than a text holds. -/
theorem toNat_lt_capacity (id : TaskId) : id.toNat < capacity width :=
  Nat.lt_trans id.bits.isLt (by decide)

/-- Identifiers with one number are the same. -/
theorem eq_of_toNat_eq (same : a.toNat = b.toNat) : a = b :=
  congrArg mk (BitVec.eq_of_toNat_eq same)

/-- Of two identifiers one is the lesser, or they are the same. -/
protected theorem lt_trichotomy (a b : TaskId) : a < b ∨ a = b ∨ b < a :=
  (Nat.lt_trichotomy a.toNat b.toNat).imp_right (.imp_left eq_of_toNat_eq)

/-- The characters of the text of an identifier. -/
theorem toList_text (id : TaskId) : id.text.toList = "task-".toList ++ digitsOf width id.toNat := by
  have digits : id.digitText.toList = digitsOf width id.toNat := String.toList_ofList
  unfold text
  rw [String.toList_append, digits]

/-- The text of a lesser identifier comes first. -/
theorem text_lt (less : a < b) : a.text < b.text := by
  have numbers : a.toNat % capacity width < b.toNat % capacity width := by
    rw [Nat.mod_eq_of_lt a.toNat_lt_capacity, Nat.mod_eq_of_lt b.toNat_lt_capacity]
    exact less
  change a.text.toList < b.text.toList
  rw [toList_text, toList_text]
  exact List.append_left_lt (digitsOf_lt numbers)

/-- Identifiers are ordered as their texts are. -/
theorem lt_iff_text_lt : a < b ↔ a.text < b.text := by
  constructor
  · exact text_lt
  · intro less
    rcases TaskId.lt_trichotomy a b with lower | same | higher
    · exact lower
    · rw [same] at less
      exact absurd less (String.lt_irrefl _)
    · exact absurd (text_lt higher) (String.lt_asymm less)

/-- The text of a lesser identifier is another one. -/
theorem text_ne (less : a < b) : a.text ≠ b.text := by
  intro same
  have earlier := text_lt less
  rw [same] at earlier
  exact String.lt_irrefl _ earlier

/-- Different identifiers have different texts. -/
theorem text_injective (same : a.text = b.text) : a = b := by
  rcases TaskId.lt_trichotomy a b with lower | equal | higher
  · exact absurd same (text_ne lower)
  · exact equal
  · exact absurd same.symm (text_ne higher)

/-- An identifier has 26 digits. -/
theorem length_digitText (id : TaskId) : id.digitText.length = 26 := by
  unfold digitText chars
  rw [String.length_ofList, length_digitsOf]
  rfl

/-- A text has five characters more than digits. -/
theorem length_text (id : TaskId) : id.text.length = 31 := by
  unfold text
  rw [String.length_append, length_digitText]
  rfl

/-! ## Parts -/

variable {earlier later distinction other : Nat}

/-- The parts of an identifier stand beside each other. -/
theorem toNat_ofParts (millis distinction : Nat) :
    (ofParts millis distinction).toNat =
      millis % twoTo 48 * twoTo 80 + distinction % twoTo 80 := by
  have high : twoTo 48 = 281474976710656 := by decide
  have low : twoTo 80 = 1208925819614629174706176 := by decide
  have time := Nat.mod_lt millis (show 0 < twoTo 48 by decide)
  have rest := Nat.mod_lt distinction (show 0 < twoTo 80 by decide)
  unfold ofParts ofNat toNat
  rw [BitVec.toNat_ofNat]
  apply Nat.mod_eq_of_lt
  rw [high] at time ⊢
  rw [low] at rest ⊢
  omega

/-- The time part is the time in 48 bits, whatever the other part. -/
theorem millis_ofParts (millis distinction : Nat) :
    (ofParts millis distinction).millis = millis % twoTo 48 := by
  have positive : 0 < twoTo 80 := by decide
  unfold TaskId.millis
  rw [toNat_ofParts, Nat.add_comm, Nat.add_mul_div_right _ _ positive,
    Nat.div_eq_of_lt (Nat.mod_lt _ positive), Nat.zero_add]

/-- An identifier of a later time is greater, whatever the other parts. -/
theorem ofParts_lt (ordered : earlier < later) (fits : later < twoTo 48) :
    ofParts earlier distinction < ofParts later other := by
  have low : twoTo 80 = 1208925819614629174706176 := by decide
  have rest := Nat.mod_lt distinction (show 0 < twoTo 80 by decide)
  change (ofParts earlier distinction).toNat < (ofParts later other).toNat
  rw [toNat_ofParts, toNat_ofParts, Nat.mod_eq_of_lt (Nat.lt_trans ordered fits),
    Nat.mod_eq_of_lt fits]
  rw [low] at rest ⊢
  omega

/-! ## Readings of the clock -/

/-- Before 1970 the seconds are counted below zero. -/
theorem unixSeconds_negative {now : Instant} (before : now < .midnight Date.epoch) :
    now.unixSeconds < 0 := by
  have inDay := now.inDay
  rcases before with earlierDay | ⟨-, earlierSecond | ⟨-, earlierNanos⟩⟩
  · have days : now.date.dayNumber < Date.epoch.dayNumber := Date.lt_iff_dayNumber_lt.1 earlierDay
    unfold Instant.unixSeconds
    omega
  · exact absurd earlierSecond (Nat.not_lt_zero _)
  · exact absurd earlierNanos (Nat.not_lt_zero _)

/-- The time part of a reading that is not counted past 1970 is zero. -/
theorem millis_madeAt_of_nonpositive {now : Instant} (before : now.unixMillis ≤ 0)
    (distinction : Nat) : (madeAt now distinction).millis = 0 := by
  have none : now.unixMillis.toNat = 0 := by omega
  unfold madeAt
  rw [millis_ofParts, none, Nat.zero_mod]

/-- An identifier made in an earlier millisecond is lesser, whatever else it is made of. -/
theorem madeAt_lt {now next : Instant} (ordered : now.unixMillis.toNat < next.unixMillis.toNat)
    (fits : next.unixMillis.toNat < twoTo 48) (distinction other : Nat) :
    madeAt now distinction < madeAt next other := ofParts_lt ordered fits

/-- The reading lies in a leap second at the very end of 1969. -/
def InLastLeapSecond (now : Instant) : Prop := now.unixSeconds = -1 ∧ 1000000000 ≤ now.nanos

/-- Before 1970 nothing is counted, up to a leap second at the very end. -/
theorem unixMillis_nonpositive {now : Instant} (before : now < .midnight Date.epoch)
    (noLeap : ¬ InLastLeapSecond now) : now.unixMillis ≤ 0 := by
  have seconds := unixSeconds_negative before
  have nanos := now.inSecond
  unfold InLastLeapSecond at noLeap
  unfold Instant.unixMillis
  omega

/-- That leap second is counted past 1970. -/
theorem unixMillis_leap {now : Instant} (leap : InLastLeapSecond now) :
    now.unixMillis.toNat = (now.nanos - 1000000000) / 1000000 := by
  obtain ⟨last, past⟩ := leap
  unfold Instant.unixMillis
  omega

/-- The text of an identifier is `task-` and 26 digits. Texts have the order of the identifiers and
tell them apart, and the JSON of an identifier reads back. What is made in a later millisecond is
greater, whatever tells apart the identifiers of one millisecond. Readings before 1970 have the time
part zero; only a leap second at the very end of 1969 is counted past it. -/
theorem order_of_texts_and_times :
    (∀ a b : TaskId, a < b ↔ a.text < b.text) ∧
    (∀ a b : TaskId, a.text = b.text → a = b) ∧
    (∀ id : TaskId, id.text = "task-" ++ id.digitText ∧ id.digitText.length = 26 ∧
      id.text.length = 31) ∧
    (∀ id : TaskId, Wire.taskId.codec.readAll (Wire.taskId.codec.write id) = .ok id) ∧
    (∀ (now next : Instant) (distinction other : Nat),
      now.unixMillis.toNat < next.unixMillis.toNat → next.unixMillis.toNat < twoTo 48 →
        madeAt now distinction < madeAt next other) ∧
    (∀ (now : Instant) (distinction : Nat), now < .midnight Date.epoch →
      (¬ InLastLeapSecond now → (madeAt now distinction).millis = 0) ∧
      (InLastLeapSecond now →
        (madeAt now distinction).millis = (now.nanos - 1000000000) / 1000000)) := by
  refine ⟨fun _ _ => lt_iff_text_lt, fun _ _ => text_injective,
    fun id => ⟨rfl, id.length_digitText, id.length_text⟩, Wire.taskId_faithful.readAll_write,
    fun _ _ distinction other ordered fits => madeAt_lt ordered fits distinction other, ?_⟩
  intro now distinction before
  constructor
  · intro noLeap
    exact millis_madeAt_of_nonpositive (unixMillis_nonpositive before noLeap) distinction
  · intro leap
    have few : now.unixMillis.toNat < twoTo 48 := by
      have high : twoTo 48 = 281474976710656 := by decide
      have nanos := now.inSecond
      rw [unixMillis_leap leap, high]
      omega
    unfold madeAt
    rw [millis_ofParts, Nat.mod_eq_of_lt few, unixMillis_leap leap]

/-- The last identifier of a millisecond stands before the first one of the next, and so does its
text; a second before 1970 has the time part zero. -/
theorem order_of_neighbours :
    ∃ now next early : Instant, Instant.ofUnix? 1740830400 0 = some now ∧
      Instant.ofUnix? 1740830400 1000000 = some next ∧ Instant.ofUnix? (-1) 0 = some early ∧
      madeAt now (twoTo 80 - 1) < madeAt next 0 ∧
      (madeAt now (twoTo 80 - 1)).text < (madeAt next 0).text ∧
      (madeAt early 7).millis = 0 := by
  let now : Instant := ⟨⟨2025, 3, 1, by decide⟩, 43200, 0, by decide, by decide⟩
  let next : Instant := ⟨⟨2025, 3, 1, by decide⟩, 43200, 1000000, by decide, by decide⟩
  let early : Instant := ⟨⟨1969, 12, 31, by decide⟩, 86399, 0, by decide, by decide⟩
  obtain ⟨texts, -, -, -, times, zero⟩ := order_of_texts_and_times
  have ordered : madeAt now (twoTo 80 - 1) < madeAt next 0 :=
    times now next (twoTo 80 - 1) 0 (by decide) (by decide)
  exact ⟨now, next, early, rfl, rfl, rfl, ordered, (texts _ _).1 ordered,
    (zero early 7 (by decide)).1 fun leap => absurd leap.2 (by decide)⟩

/-- Half a leap second before 1970 has the time part 500, not zero. -/
theorem leap_second_counted_past_1970 :
    ∃ reading : Instant, Instant.ofUnix? (-1) 1500000000 = some reading ∧
      reading < .midnight Date.epoch ∧ (madeAt reading 0).millis = 500 ∧
      (madeAt reading 0).millis ≠ 0 := by
  let reading : Instant := ⟨⟨1969, 12, 31, by decide⟩, 86399, 1500000000, by decide, by decide⟩
  have counted : (madeAt reading 0).millis = 500 := by decide
  exact ⟨reading, rfl, by decide, counted, by rw [counted]; decide⟩

end TaskId

end ReminderDispatch
