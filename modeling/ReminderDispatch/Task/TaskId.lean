import ReminderDispatch.Calendar.Instant
import ReminderDispatch.Number.Powers

/-!
# Identifiers of tasks

A task is known by 128 bits: 48 bits of the time of its publication in milliseconds and 80 bits
that tell apart the tasks of one millisecond. The text of an identifier has 26 digits of base 32,
without the letters I, L, O and U, so that the order of the texts is the order of the numbers.
-/

namespace ReminderDispatch

/-- The identifier of a task. -/
structure TaskId where
  /-- The 128 bits. -/
  bits : BitVec 128
  deriving DecidableEq, Repr, Inhabited

/-- Why a text is no identifier. -/
inductive TaskIdFault where
  /-- The text does not have 26 bytes. -/
  | length
  /-- A character is no digit of base 32. -/
  | character
  deriving DecidableEq, Repr

/-- The fault in words. -/
def TaskIdFault.message : TaskIdFault → String
  | .length => "invalid length"
  | .character => "invalid character"

namespace TaskId

/-- The 32 digits, in order. -/
def alphabet : List Char := "0123456789ABCDEFGHJKMNPQRSTVWXYZ".toList

/-- The number of digits of an identifier. -/
def width : Nat := 26

/-- The number of an identifier. -/
def toNat (id : TaskId) : Nat := id.bits.toNat

/-- The identifier of a number; bits beyond the 128 are dropped. -/
def ofNat (n : Nat) : TaskId := ⟨BitVec.ofNat 128 n⟩

/-- Identifiers are ordered by their numbers. -/
instance : LT TaskId := ⟨fun a b => a.toNat < b.toNat⟩

instance (a b : TaskId) : Decidable (a < b) := inferInstanceAs (Decidable (a.toNat < b.toNat))

/-- Identifiers are ordered by their numbers. -/
instance : LE TaskId := ⟨fun a b => a.toNat ≤ b.toNat⟩

instance (a b : TaskId) : Decidable (a ≤ b) := inferInstanceAs (Decidable (a.toNat ≤ b.toNat))

/-- The identifier with a time in milliseconds and a distinguishing part. -/
def ofParts (millis distinction : Nat) : TaskId :=
  ofNat (millis % twoTo 48 * twoTo 80 + distinction % twoTo 80)

/-- The milliseconds of the time part. -/
def millis (id : TaskId) : Nat := id.toNat / twoTo 80

/-- The identifier made at a reading of the clock; before 1970 the time part is zero. -/
def madeAt (now : Instant) (distinction : Nat) : TaskId :=
  ofParts now.unixMillis.toNat distinction

/-- The digit of a value below 32. -/
def digit (value : Nat) : Char := alphabet.getD value '0'

/-- The last `count` digits of a number, most significant first. -/
def digitsOf : Nat → Nat → List Char
  | 0, _ => []
  | count + 1, n => digitsOf count (n / 32) ++ [digit (n % 32)]

/-- The digits of an identifier. -/
def chars (id : TaskId) : List Char := digitsOf width id.toNat

/-- The digits of an identifier as a text. -/
def digitText (id : TaskId) : String := String.ofList id.chars

/-- The text of an identifier. -/
def text (id : TaskId) : String := "task-" ++ id.digitText

/-- The value of a digit, in either case. -/
def digitValue? (c : Char) : Option Nat := alphabet.findIdx? (· == c.toUpper)

/-- The number of a list of digits. -/
def readDigits? : List Char → Nat → Option Nat
  | [], n => some n
  | c :: rest, n => do readDigits? rest (n * 32 + (← digitValue? c))

/-- The identifier of a text of 26 digits. -/
def ofDigitText (text : String) : Except TaskIdFault TaskId :=
  if text.utf8ByteSize ≠ width then .error .length
  else
    match readDigits? text.toList 0 with
    | some n => .ok (ofNat n)
    | none => .error .character

end TaskId

end ReminderDispatch
