import ReminderDispatch.Text.Decimal

/-!
# Identifiers of stored rows

Users, reminders and notifications are rows with 64-bit keys. The key 0 stands for no row. The
three kinds of keys are different types.
-/

namespace ReminderDispatch

/-- What a key identifies. -/
inductive RowKind where
  /-- A user. -/
  | user
  /-- A reminder. -/
  | reminder
  /-- A notification. -/
  | notification
  deriving DecidableEq, Repr

/-- The key of a row. -/
structure StoreId (kind : RowKind) where
  /-- The number of the row. -/
  value : Int64
  deriving DecidableEq, Repr, Inhabited

/-- The key of a user. -/
abbrev UserId := StoreId .user

/-- The key of a reminder. -/
abbrev ReminderId := StoreId .reminder

/-- The key of a notification. -/
abbrev NotificationId := StoreId .notification

/-- The number that comes next in a count of rows. There is none after the greatest one, and whoever
counts on breaks off. -/
def nextNumber? (last : Int64) : Option Int64 := if last = .maxValue then none else some (last + 1)

/-- A count goes on until it has come to the greatest number. -/
theorem nextNumber?_eq_none_iff {last : Int64} : nextNumber? last = none ↔ last = .maxValue := by
  unfold nextNumber?
  split <;> simp_all

/-- A count goes on by one. -/
theorem toInt_of_nextNumber? {last next : Int64} (counts : nextNumber? last = some next) :
    next.toInt = last.toInt + 1 := by
  unfold nextNumber? at counts
  split at counts
  · contradiction
  · next isLeft =>
    have least := last.le_toInt
    have greatest := last.toInt_le
    have notGreatest : last.toInt ≠ Int64.maxValue.toInt := fun same =>
      isLeft (Int64.toInt_inj.1 same)
    have one : (1 : Int64).toInt = 1 := rfl
    simp only [Int64.toInt_maxValue] at least greatest notGreatest
    rw [← Option.some.inj counts, Int64.toInt_add, one, Int.bmod_eq_of_le (by omega) (by omega)]

namespace StoreId

variable {kind : RowKind}

/-- The key stands for no row. -/
def isUnset (id : StoreId kind) : Bool := id.value == 0

/-- The number of the row in decimal digits. -/
def text (id : StoreId kind) : String := Text.decimalInt id.value.toInt

/-- The number with its sign, also above zero. -/
def signedText (id : StoreId kind) : String :=
  if id.value < 0 then id.text else "+" ++ id.text

/-- The number behind spaces, as wide as asked. -/
def alignedRight (width : Nat) (id : StoreId kind) : String := Text.padFront width ' ' id.text

/-- The number before spaces, as wide as asked. -/
def alignedLeft (width : Nat) (id : StoreId kind) : String := Text.padBack width ' ' id.text

/-- The number with zeros between the sign and the digits, as wide as asked. -/
def zeroFilled (width : Nat) (id : StoreId kind) : String :=
  let magnitude := id.value.toInt.natAbs
  if id.value < 0 then "-" ++ Text.padded (width - 1) magnitude else Text.padded width magnitude

end StoreId

end ReminderDispatch
