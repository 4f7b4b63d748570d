import Mathlib.Tactic.SplitIfs
import ReminderDispatch.Proofs.Json.Readers

/-!
# Integers on the wire

An integer is written in decimal digits without leading zeros, and its digits are taken up again
into the same number as long as it fits in 64 bits.
-/

namespace ReminderDispatch

/-! ## Digits -/

namespace Text

variable {c : Char} {n start : Nat} {digits : List Char}

/-- A numeral of a positive number does not begin with a zero. -/
theorem head_digits_ne_zero (positive : 0 < n) : (Text.digits n).head? ≠ some '0' := by
  induction n using Nat.strongRecOn with
  | ind n ih =>
    unfold Text.digits at ih ⊢
    by_cases small : n < 10
    · have all : ∀ n < 10, 0 < n → [Nat.digitChar n].head? ≠ some '0' := by decide
      rw [Nat.toDigits_of_lt_base small]
      exact all n small positive
    · have big : 10 ≤ n := Nat.le_of_not_lt small
      obtain ⟨first, more, isFirst⟩ := List.exists_cons_of_ne_nil (@Nat.toDigits_ne_nil (n / 10) 10)
      have notZero := ih (n / 10) (by omega) (by omega)
      rw [Nat.toDigits_of_base_le (by decide) big, isFirst]
      rw [isFirst] at notZero
      exact notZero

/-- More digits never make a number less. -/
theorem le_ofDigitChars (start : Nat) (digits : List Char) :
    start ≤ Nat.ofDigitChars 10 digits start := by
  induction digits generalizing start with
  | nil => exact Nat.le_refl start
  | cons c more ih =>
    rw [Nat.ofDigitChars_cons]
    exact Nat.le_trans (by omega) (ih _)

end Text

namespace Json

variable {c : Char} {n start : Nat} {digits : List Char} {rest : List UInt8} {b : UInt8}

/-- The byte of a digit. -/
def digitByte (c : Char) : UInt8 := c.toNat.toUInt8

/-- The number of a digit is between those of zero and nine. -/
theorem toNat_digitByte (isDigit : c.isDigit) :
    (digitByte c).toNat = c.toNat ∧ 48 ≤ c.toNat ∧ c.toNat ≤ 57 := by
  have bounds : '0'.toNat ≤ c.toNat ∧ c.toNat ≤ '9'.toNat := Char.isDigit_iff_toNat.1 isDigit
  have low : 48 ≤ c.toNat := bounds.1
  have high : c.toNat ≤ 57 := bounds.2
  have small : c.toNat < 256 := by omega
  exact ⟨Nat.mod_eq_of_lt small, low, high⟩

/-- The byte of a digit is one of the ten digits. -/
theorem isDigit_digitByte (digit : c.isDigit) : isDigit (digitByte c) = true := by
  obtain ⟨same, low, high⟩ := toNat_digitByte digit
  unfold isDigit
  simp only [Bool.and_eq_true, decide_eq_true_eq, UInt8.le_iff_toNat_le, same]
  exact ⟨low, high⟩

/-- The byte of a digit has the value of the digit. -/
theorem digitValue_digitByte (digit : c.isDigit) :
    digitValue (digitByte c) = c.toNat - '0'.toNat := by
  unfold digitValue
  rw [(toNat_digitByte digit).1]
  rfl

/-- All digits of a number that fits are taken up. -/
theorem absorb_digits (all : ∀ c ∈ digits, c.isDigit)
    (fits : Nat.ofDigitChars 10 digits start < UInt64.size) :
    absorb start (digits.map digitByte) =
      (Nat.ofDigitChars 10 digits start, digits.length, []) := by
  induction digits generalizing start with
  | nil => rfl
  | cons c more ih =>
    have value := digitValue_digitByte (all c (by simp))
    rw [Nat.ofDigitChars_cons] at fits ⊢
    have next : start * 10 + digitValue (digitByte c) = 10 * start + (c.toNat - '0'.toNat) := by
      rw [value, Nat.mul_comm]
    have small := Nat.lt_of_le_of_lt (Text.le_ofDigitChars _ more) fits
    rw [List.map_cons, absorb]
    simp only [next]
    rw [if_neg (Nat.not_le.2 small), ih (fun c isMore => all c (by simp [isMore])) fits]
    rfl

/-- The digits of a numeral, as bytes. -/
theorem naturalBytes_eq (n : Nat) : naturalBytes n = (Text.digits n).map digitByte := rfl

/-- A numeral is never empty. -/
theorem naturalBytes_ne_nil (n : Nat) : naturalBytes n ≠ [] :=
  mt List.map_eq_nil_iff.1 (Text.digits_ne_nil n)

/-- Every byte of a numeral is a digit. -/
theorem isDigit_of_mem_naturalBytes (member : b ∈ naturalBytes n) : isDigit b = true := by
  obtain ⟨c, isDigit, rfl⟩ := List.mem_map.1 member
  exact isDigit_digitByte (Text.isDigit_of_mem_digits isDigit)

/-- A numeral of 64 bits is taken up into its number. -/
theorem absorb_naturalBytes (fits : n < UInt64.size) :
    absorb 0 (naturalBytes n) = (n, (Text.digits n).length, []) := by
  have value : Nat.ofDigitChars 10 (Text.digits n) 0 = n := Text.valueOf_digits n
  have taken := @absorb_digits 0 (Text.digits n) (fun _ => Text.isDigit_of_mem_digits)
    (value.symm ▸ fits)
  rw [value] at taken
  exact taken

/-! ## Numerals -/

/-- No digit, point or exponent follows a written value. -/
theorem Delimited.head (delimited : Delimited rest) (follows : rest.head? = some b) :
    isDigit b = false ∧ (b == point) = false ∧ isExponentMark b = false := by
  unfold Delimited at delimited
  rw [follows, Option.all_some, Bool.or_eq_true, Bool.or_eq_true] at delimited
  simp only [beq_iff_eq] at delimited
  rcases delimited with (rfl | rfl) | rfl <;> decide

/-- Digits are taken, and nothing after them. -/
theorem takeDigits_append {taken : List UInt8} (all : ∀ b ∈ taken, isDigit b = true)
    (delimited : Delimited rest) : takeDigits (taken ++ rest) = .ok (taken, rest) := by
  unfold takeDigits
  rw [List.takeWhile_append_of_pos all, List.dropWhile_append_of_pos all]
  cases rest with
  | nil => simp
  | cons b more =>
    have noDigit := (delimited.head rfl).1
    rw [List.takeWhile_cons_of_neg (by simp [noDigit]), List.append_nil,
      List.dropWhile_cons_of_neg (by simp [noDigit])]

/-- The digits of a numeral are taken, and nothing after them. -/
theorem takeDigits_naturalBytes (delimited : Delimited rest) :
    takeDigits (naturalBytes n ++ rest) = .ok (naturalBytes n, rest) :=
  takeDigits_append (fun _ => isDigit_of_mem_naturalBytes) delimited

/-- Neither a point nor an exponent is seen after a written value. -/
theorem Delimited.peek (delimited : Delimited rest) :
    (rest.head? == some point) = false ∧ rest.head?.any isExponentMark = false := by
  cases follows : rest.head? with
  | none => exact ⟨rfl, rfl⟩
  | some b => exact (delimited.head follows).2

/-- A numeral that ends with its digits is a whole number if it fits. -/
theorem readAfterDigits_naturalBytes (negative : Bool) (delimited : Delimited rest)
    (fits : n < UInt64.size) (below : negative = true → 0 < n ∧ n ≤ twoTo 63) :
    readAfterDigits negative (naturalBytes n) rest =
      .ok (.whole (if negative then -n else n), rest) := by
  obtain ⟨noPoint, noExponent⟩ := delimited.peek
  have peeked : peek rest = .ok (rest.head?, rest) := rfl
  unfold readAfterDigits
  rw [absorb_naturalBytes fits]
  dsimp only
  rw [Reader.bind_of_ok peeked]
  simp only [noPoint, noExponent, Bool.false_eq_true, if_false, List.isEmpty_nil, Bool.not_true]
  cases negative with
  | false => rfl
  | true =>
    obtain ⟨positive, within⟩ := below rfl
    rw [if_neg (by decide), if_neg (by omega)]
    rfl

/-- The numeral of a positive number begins with a digit that is not zero. -/
theorem naturalBytes_cons (positive : 0 < n) :
    ∃ b more, naturalBytes n = b :: more ∧ b ≠ 0x30 ∧ isDigit b = true := by
  obtain ⟨c, more, digits⟩ := List.exists_cons_of_ne_nil (Text.digits_ne_nil n)
  have digit : c.isDigit := Text.isDigit_of_mem_digits (by rw [digits]; simp)
  have notZero : c ≠ '0' := by
    have head := Text.head_digits_ne_zero positive
    rw [digits] at head
    exact fun same => head (congrArg some same)
  refine ⟨digitByte c, more.map digitByte, by rw [naturalBytes_eq, digits]; rfl, ?_,
    isDigit_digitByte digit⟩
  intro same
  have value : c.toNat = '0'.toNat :=
    (toNat_digitByte digit).1.symm.trans (congrArg UInt8.toNat same)
  exact notZero (Char.toNat_inj.1 value)

/-- A numeral is read after its sign. -/
theorem readUnsigned_naturalBytes (negative : Bool) (delimited : Delimited rest)
    (fits : n < UInt64.size) (below : negative = true → 0 < n ∧ n ≤ twoTo 63) :
    readUnsigned negative (naturalBytes n ++ rest) =
      .ok (.whole (if negative then -n else n), rest) := by
  have after := readAfterDigits_naturalBytes negative delimited fits below
  unfold readUnsigned
  rcases Nat.eq_zero_or_pos n with rfl | positive
  · -- A zero stands alone: no digit follows it.
    have digits : naturalBytes 0 = [0x30] := by decide
    rw [digits] at after ⊢
    cases rest with
    | nil => exact after
    | cons b more =>
      have noDigit : isDigit b = false := (delimited.head rfl).1
      have passed : advance (0x30 :: b :: more) = .ok ((), b :: more) := rfl
      have peeked : peek (b :: more) = .ok (some b, b :: more) := rfl
      have first : peek (0x30 :: b :: more) = .ok (some 0x30, 0x30 :: b :: more) := rfl
      change (peek >>= _) (0x30 :: b :: more) = _
      rw [Reader.bind_of_ok first]
      dsimp only
      rw [if_pos rfl, Reader.bind_of_ok passed, Reader.bind_of_ok peeked]
      dsimp only
      rw [noDigit]
      exact after
  · obtain ⟨b, more, digits, notZero, digit⟩ := naturalBytes_cons positive
    have taken := takeDigits_naturalBytes (n := n) delimited
    rw [digits] at after taken ⊢
    have first : peek (b :: more ++ rest) = .ok (some b, b :: more ++ rest) := rfl
    rw [Reader.bind_of_ok first]
    dsimp only
    rw [if_neg notZero, digit, if_pos rfl, Reader.bind_of_ok taken]
    exact after

/-- A digit or a sign is no space. -/
theorem notSpace_of_isDigit (digit : isDigit b = true) : isSpace b = false := by
  rw [Bool.eq_false_iff]
  intro space
  unfold isSpace at space
  simp only [Bool.or_eq_true, beq_iff_eq] at space
  rcases space with ((rfl | rfl) | rfl) | rfl <;> exact absurd digit (by decide)

/-- A whole number within the bounds is accepted. -/
theorem integer_accepts {wanted : String} {least greatest n : Int} (low : least ≤ n)
    (high : n ≤ greatest) (begins : (b = minus || isDigit b) = true) {text : List UInt8}
    (read : readNumeral b (b :: text) = .ok (.whole n, rest)) :
    (integer wanted least greatest).read (b :: text) = .ok (n, rest) := by
  have notSpace : isSpace b = false := by
    rcases Bool.or_eq_true_iff.1 begins with isMinus | digit
    · rw [of_decide_eq_true isMinus]
      rfl
    · exact notSpace_of_isDigit digit
  refine byFirst_cons notSpace ?_
  rw [if_pos begins, Reader.bind_of_ok read]
  dsimp only
  rw [if_pos ⟨low, high⟩]
  rfl

/-- An integer of 64 bits is read back. -/
theorem integer_written {wanted : String} {least greatest n : Int} (low : least ≤ n)
    (high : n ≤ greatest) (least64 : -twoTo 63 ≤ least) (greatest64 : greatest < UInt64.size)
    (delimited : Delimited rest) :
    (integer wanted least greatest).read (integerBytes n ++ rest) = .ok (n, rest) := by
  have power : twoTo 63 = 9223372036854775808 := by decide
  have size : UInt64.size = 18446744073709551616 := rfl
  unfold integerBytes
  split_ifs with negative
  · have fits : n.natAbs < UInt64.size := by omega
    have below : 0 < n.natAbs ∧ n.natAbs ≤ twoTo 63 := by omega
    have read := readUnsigned_naturalBytes true delimited fits fun _ => below
    have value : (if true = true then -(n.natAbs : Int) else n.natAbs) = n := by
      rw [if_pos rfl]
      omega
    rw [value] at read
    exact integer_accepts low high (by decide) read
  · have fits : n.natAbs < UInt64.size := by omega
    have read := readUnsigned_naturalBytes false delimited fits fun impossible => by contradiction
    have value : (if false = true then -(n.natAbs : Int) else n.natAbs) = n := by
      rw [if_neg Bool.false_ne_true]
      omega
    rw [value] at read
    obtain ⟨b, more, digits⟩ := List.exists_cons_of_ne_nil (naturalBytes_ne_nil n.natAbs)
    have digit : isDigit b = true := isDigit_of_mem_naturalBytes (digits ▸ List.mem_cons_self)
    have notMinus : b ≠ minus := by
      rintro rfl
      exact absurd digit (by decide)
    rw [digits] at read ⊢
    refine integer_accepts low high (by simp [digit]) ?_
    unfold readNumeral
    rw [if_neg notMinus]
    exact read

/-- Values that stand for integers of at most 64 bits are read back. -/
theorem integer_faithful {α : Type} {wanted : String} {least greatest : Int} {wrap : Int → α}
    {unwrap : α → Int} (within : ∀ value, least ≤ unwrap value ∧ unwrap value ≤ greatest)
    (least64 : -twoTo 63 ≤ least) (greatest64 : greatest < UInt64.size)
    (wraps : ∀ value, wrap (unwrap value) = value) :
    ((integer wanted least greatest).via wrap unwrap).Faithful := by
  intro value rest delimited
  have read : (integer wanted least greatest).read (integerBytes (unwrap value) ++ rest) = _ :=
    integer_written (within value).1 (within value).2 least64 greatest64 delimited
  have mapped := Reader.map_of_ok wrap read
  rw [wraps value] at mapped
  exact mapped

/-- Signed integers of 64 bits are read back. -/
theorem int64_faithful : int64.Faithful :=
  integer_faithful (fun value => ⟨Int64.minValue_le_toInt value, Int64.toInt_le value⟩)
    (by decide) (by decide) Int64.ofInt_toInt

/-- Unsigned integers of 64 bits are read back. -/
theorem count_faithful : count.Faithful :=
  integer_faithful (fun value => by have := value.toNat_lt; simp [UInt64.size]; omega)
    (by decide) (by decide) fun value => by simp

/-- Bytes are read back. -/
theorem byte_faithful : byte.Faithful :=
  integer_faithful (fun value => by have := value.toNat_lt; omega)
    (by decide) (by decide) fun value => by simp

end Json

end ReminderDispatch
