/-!
# Decimal numerals

Numbers as decimal text and back. `readNat?` reads every numeral that `decimal` writes, leading
zeros included, and no sign.
-/

namespace ReminderDispatch.Text

/-- The decimal digits of a number, most significant first. -/
def digits (n : Nat) : List Char := Nat.toDigits 10 n

/-- The decimal numeral of a number. -/
def decimal (n : Nat) : String := String.ofList (digits n)

/-- The decimal numeral of an integer, with a minus sign below zero. -/
def decimalInt (n : Int) : String :=
  if n < 0 then "-" ++ decimal n.natAbs else decimal n.natAbs

/-- The digits of a number, filled with zeros in front up to a width. -/
def paddedDigits (width n : Nat) : List Char :=
  List.replicate (width - (digits n).length) '0' ++ digits n

/-- The numeral of a number, filled with zeros in front up to a width. -/
def padded (width n : Nat) : String := String.ofList (paddedDigits width n)

/-- The text filled with a character in front up to a width. -/
def padFront (width : Nat) (fill : Char) (text : String) : String :=
  String.ofList (List.replicate (width - text.length) fill) ++ text

/-- The text filled with a character behind up to a width. -/
def padBack (width : Nat) (fill : Char) (text : String) : String :=
  text ++ String.ofList (List.replicate (width - text.length) fill)

/-- The number that a list of digits denotes. -/
def valueOf (text : List Char) : Nat := Nat.ofDigitChars 10 text 0

/-- The number of a numeral: one or more digits and nothing else. -/
def readNat? (text : List Char) : Option Nat :=
  if !text.isEmpty && text.all Char.isDigit then some (valueOf text) else none

/-- Every digit of a decimal numeral is one of the ten digits. -/
theorem isDigit_of_mem_digits {c : Char} {n : Nat} (h : c ∈ digits n) : c.isDigit :=
  Nat.isDigit_of_mem_toDigits (by decide) (by decide) h

/-- A numeral is never empty. -/
theorem digits_ne_nil (n : Nat) : digits n ≠ [] := Nat.toDigits_ne_nil

/-- The digits of a number denote it. -/
@[simp] theorem valueOf_digits (n : Nat) : valueOf (digits n) = n :=
  Nat.ofDigitChars_ten_toDigits

/-- Reading the digits of a number returns it. -/
@[simp] theorem readNat?_digits (n : Nat) : readNat? (digits n) = some n := by
  have all : (digits n).all Char.isDigit := by
    simpa [List.all_eq_true] using fun c h => isDigit_of_mem_digits (c := c) h
  simp [readNat?, digits_ne_nil, all]

end ReminderDispatch.Text
