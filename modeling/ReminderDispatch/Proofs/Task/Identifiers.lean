import ReminderDispatch.Task.TaskId

/-!
# Digits of identifiers

The 26 digits of an identifier hold 130 bits, of which the first two are zero. Read from the left
they make up the number again from which they were split off at the right.
-/

namespace ReminderDispatch.TaskId

/-- Every value below 32 has a digit of its own. -/
theorem digitValue?_digit : ∀ value < 32, digitValue? (digit value) = some value := by decide

/-- Every digit is a character of one byte. -/
theorem utf8Size_digit : ∀ value < 32, (digit value).utf8Size = 1 := by decide

/-- How many numbers have no more than so many digits. -/
def capacity (count : Nat) : Nat := Nat.pow 32 count

/-- With one digit more there are 32 times as many numbers. -/
theorem capacity_succ (count : Nat) : capacity (count + 1) = 32 * capacity count := Nat.pow_succ'

/-- The last digits of a number are read as the number that they make up. -/
theorem readDigits?_digitsOf (count n start : Nat) (rest : List Char) :
    readDigits? (digitsOf count n ++ rest) start =
      readDigits? rest (start * capacity count + n % capacity count) := by
  induction count generalizing n rest with
  | zero => simp [digitsOf, capacity, Nat.mod_one]
  | succ count ih =>
    have last : digitValue? (digit (n % 32)) = some (n % 32) :=
      digitValue?_digit (n % 32) (Nat.mod_lt n (by decide))
    have sum : (start * capacity count + n / 32 % capacity count) * 32 + n % 32 =
        start * capacity (count + 1) + n % capacity (count + 1) := by
      rw [capacity_succ, Nat.mod_mul, Nat.mul_left_comm]
      omega
    rw [digitsOf, List.append_assoc, List.singleton_append, ih, readDigits?, last]
    simp only [bind, Option.bind, sum]

/-- So many digits take up so many bytes. -/
theorem utf8ByteSize_digitsOf (count n : Nat) :
    (String.ofList (digitsOf count n)).utf8ByteSize = count := by
  induction count generalizing n with
  | zero => rfl
  | succ count ih =>
    have last : (digit (n % 32)).utf8Size = 1 := utf8Size_digit (n % 32) (Nat.mod_lt n (by decide))
    rw [digitsOf, String.ofList_append, String.utf8ByteSize_append, ih,
      ← String.singleton_eq_ofList,
      String.utf8ByteSize_singleton, last]

/-- An identifier is the one of its number. -/
theorem ofNat_toNat (id : TaskId) : ofNat id.toNat = id := by
  unfold ofNat toNat
  rw [BitVec.ofNat_toNat, BitVec.setWidth_eq]

/-- Every identifier is read back from its digits. -/
theorem ofDigitText_digitText (id : TaskId) : ofDigitText id.digitText = .ok id := by
  have bounded : id.toNat < capacity width := Nat.lt_trans id.bits.isLt (by decide)
  have read := readDigits?_digitsOf width id.toNat 0 []
  rw [List.append_nil, Nat.zero_mul, Nat.zero_add, Nat.mod_eq_of_lt bounded] at read
  have size : id.digitText.utf8ByteSize = width := utf8ByteSize_digitsOf width id.toNat
  unfold ofDigitText
  rw [if_neg fun different => different size]
  unfold digitText chars
  rw [String.toList_ofList, read]
  simp only [readDigits?, ofNat_toNat]

end ReminderDispatch.TaskId
