import ReminderDispatch.Calendar.InstantText
import ReminderDispatch.Proofs.Text.Trimming

/-!
# Numerals in dates and times

A numeral of fixed width is filled with zeros in front, which do not change its value. Where it
stands in a text it is scanned up to its last digit: because no more digits are wanted, or because
no digit follows.
-/

namespace ReminderDispatch

namespace Text

variable {c : Char} {width n : Nat} {rest : List Char}

/-- Every character of a numeral of fixed width is a digit. -/
theorem isDigit_of_mem_paddedDigits (member : c ∈ paddedDigits width n) : c.isDigit := by
  rcases List.mem_append.1 member with zero | digit
  · rw [List.eq_of_mem_replicate zero]
    decide
  · exact isDigit_of_mem_digits digit

/-- A numeral of fixed width is never empty. -/
theorem paddedDigits_ne_nil (width n : Nat) : paddedDigits width n ≠ [] := by
  unfold paddedDigits
  simp [digits_ne_nil]

/-- A number that has no more digits fills the width. -/
theorem length_paddedDigits (positive : 0 < width) (fits : n < tenTo width) :
    (paddedDigits width n).length = width := by
  have atMost : (digits n).length ≤ width :=
    (Nat.length_toDigits_le_iff (by decide) positive).2 fits
  unfold paddedDigits
  rw [List.length_append, List.length_replicate]
  omega

/-- Zeros in front do not change the value of a numeral. -/
theorem valueOf_paddedDigits (width n : Nat) : valueOf (paddedDigits width n) = n := by
  have zeros : ∀ count, Nat.ofDigitChars 10 (List.replicate count '0') 0 = 0 := by
    intro count
    induction count with
    | zero => rfl
    | succ count ih =>
      rw [List.replicate_succ, Nat.ofDigitChars_cons]
      exact ih
  unfold valueOf paddedDigits
  rw [Nat.ofDigitChars_append, zeros]
  exact valueOf_digits n

end Text

namespace Calendar

open Text

variable {digits rest : List Char} {most : Nat}

/-- No digit is next. -/
def NoDigitNext (rest : List Char) : Prop := ∀ c ∈ rest.head?, c.isDigit = false

/-- A text that begins with another character begins with no digit. -/
theorem noDigitNext_cons {c : Char} (noDigit : c.isDigit = false) : NoDigitNext (c :: rest) := by
  intro first isFirst
  rw [← Option.some.inj isFirst]
  exact noDigit

/-- Digits are taken up to the last one, when no more are wanted or none follows. -/
theorem spanDigits_append (all : ∀ c ∈ digits, c.isDigit) (fits : digits.length ≤ most)
    (ends : digits.length < most → NoDigitNext rest) :
    spanDigits most (digits ++ rest) = (digits, rest) := by
  induction digits generalizing most with
  | nil =>
    cases most with
    | zero => rfl
    | succ most =>
      cases rest with
      | nil => rfl
      | cons c more =>
        have noDigit : c.isDigit = false := ends (Nat.succ_pos most) c rfl
        rw [List.nil_append, spanDigits, noDigit]
        rfl
  | cons c more ih =>
    cases most with
    | zero => exact absurd fits (Nat.not_succ_le_zero _)
    | succ most =>
      have digit : c.isDigit := all c List.mem_cons_self
      have others := ih (fun c isMore => all c (List.mem_cons_of_mem _ isMore))
        (Nat.le_of_succ_le_succ fits) fun fewer => ends (Nat.succ_lt_succ fewer)
      rw [List.cons_append, spanDigits, if_pos digit, others]

/-- A numeral is scanned, and nothing after it. -/
theorem scanNumber_append (all : ∀ c ∈ digits, c.isDigit) (some : digits ≠ [])
    (fits : digits.length ≤ most) (ends : digits.length < most → NoDigitNext rest) :
    scanNumber most (digits ++ rest) = .ok (valueOf digits, rest) := by
  have taken := spanDigits_append all fits ends
  cases digits with
  | nil => exact absurd rfl some
  | cons c more =>
    unfold scanNumber
    rw [taken]
    rfl

/-- A numeral of fixed width is scanned as its number. -/
theorem scanNumber_paddedDigits {width n : Nat} (positive : 0 < width) (fits : n < tenTo width)
    (within : width ≤ most) (ends : width < most → NoDigitNext rest) :
    scanNumber most (paddedDigits width n ++ rest) = .ok (n, rest) := by
  have length := length_paddedDigits positive fits
  have scanned : scanNumber most (paddedDigits width n ++ rest) = _ :=
    scanNumber_append (fun c => isDigit_of_mem_paddedDigits) (paddedDigits_ne_nil width n)
      (by rw [length]; exact within) (fun fewer => ends (length ▸ fewer))
  rw [valueOf_paddedDigits] at scanned
  exact scanned

/-- A numeral of two digits is scanned as a field whose bounds it keeps. -/
theorem scanField_paddedDigits {least greatest n : Nat} (low : least ≤ n) (high : n ≤ greatest)
    (fits : n < 100) (rest : List Char) :
    scanField least greatest (paddedDigits 2 n ++ rest) = .ok (n, rest) := by
  have scanned : scanNumber 2 (paddedDigits 2 n ++ rest) = .ok (n, rest) :=
    scanNumber_paddedDigits (by decide) fits (Nat.le_refl 2) fun impossible =>
      absurd impossible (Nat.lt_irrefl 2)
  obtain ⟨c, more, digits⟩ := List.exists_cons_of_ne_nil (paddedDigits_ne_nil 2 n)
  have digit : c.isDigit := isDigit_of_mem_paddedDigits (digits ▸ List.mem_cons_self)
  have noSpace : trimFront (paddedDigits 2 n ++ rest) = paddedDigits 2 n ++ rest := by
    rw [digits, List.cons_append, trimFront_cons (isBlank_of_isDigit digit)]
  unfold scanField
  rw [noSpace, scanned]
  simp only [bind, Except.bind]
  rw [if_pos ⟨low, high⟩]

end Calendar

end ReminderDispatch
