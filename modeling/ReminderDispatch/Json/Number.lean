import ReminderDispatch.Json.Scan
import ReminderDispatch.Number.Binary64Text
import ReminderDispatch.Number.Powers

/-!
# Numbers in JSON texts

A numeral without fraction and exponent is a whole number while it fits in 64 bits, and every other
numeral a double-precision number: up to 64 bits of its digits, scaled by a power of ten with one
rounding for the digits and one for every step of scaling.
-/

namespace ReminderDispatch.Json

/-- A number as it is read. -/
inductive Numeral where
  /-- A whole number of 64 bits. -/
  | whole (n : Int)
  /-- A double-precision number. -/
  | real (x : Binary64)
  deriving DecidableEq, Repr

/-- What a numeral is, in words. -/
def Numeral.describe : Numeral → String
  | .whole n => "integer `" ++ Text.decimalInt n ++ "`"
  | .real x => "floating point `" ++ x.text ++ "`"

/-- The value of the byte of a digit. -/
def digitValue (b : UInt8) : Nat := b.toNat - 0x30

/-- Read the digits at the front of the text. -/
def takeDigits : Reader (List UInt8) := fun text =>
  .ok (text.takeWhile isDigit, text.dropWhile isDigit)

/-- Digits taken into a number as long as it fits in 64 bits: the number, how many were taken, and
those that were not. -/
def absorb : Nat → List UInt8 → Nat × Nat × List UInt8
  | number, [] => (number, 0, [])
  | number, digit :: more =>
    let next := number * 10 + digitValue digit
    if UInt64.size ≤ next then (number, 0, digit :: more)
    else
      let (last, taken, left) := absorb next more
      (last, taken + 1, left)

/-- The power of ten in double precision. -/
def powerOfTen (exponent : Nat) : Binary64 := .ofNat (tenTo exponent)

/-- A number times a power of ten; nothing when it leaves double precision. -/
def scale (number : Binary64) (exponent : Int) : Option Binary64 :=
  if exponent.natAbs ≤ 308 then
    if 0 ≤ exponent then
      let product := number.mul (powerOfTen exponent.natAbs)
      if product.isInfinite then none else some product
    else some (number.div (powerOfTen exponent.natAbs))
  else if number.isZero then some number
  else if 0 ≤ exponent then none
  else scale (number.div (powerOfTen 308)) (exponent + 308)
termination_by exponent.natAbs
decreasing_by omega

/-- The sign put before a number. -/
def signed (negative : Bool) (number : Binary64) : Binary64 :=
  if negative then number.neg else number

/-- The number of 64 bits of digits times a power of ten. -/
def scaled (negative : Bool) (significand : Nat) (exponent : Int) : Reader Numeral :=
  match scale (.ofNat significand) exponent with
  | some number => pure (.real (signed negative number))
  | none => failHere .numberOutOfRange

/-- The greatest exponent that is read digit by digit. -/
def exponentLimit : Nat := 2147483647

/-- The digits of an exponent, up to the first with which the exponent passes the limit: the
exponent, or nothing when it passes. -/
def exponentDigits : Nat → List UInt8 → Option Nat × List UInt8
  | exponent, [] => (some exponent, [])
  | exponent, b :: rest =>
    if isDigit b then
      let next := exponent * 10 + digitValue b
      if exponentLimit < next then (none, rest) else exponentDigits next rest
    else (some exponent, b :: rest)

/-- The exponent of a numeral, from its letter on. -/
def readExponent (negative : Bool) (significand : Nat) (start : Int) : Reader Numeral := do
  advance
  let downward := (← peek) == some minus
  if downward || (← peek) == some plus then advance
  match ← peek with
  | none => failHere .endInValue
  | some digit =>
    if !isDigit digit then
      advance
      failHere .invalidNumber
    else
      match ← (fun text => .ok (exponentDigits 0 text) : Reader (Option Nat)) with
      | some exponent =>
        scaled negative significand (if downward then start - exponent else start + exponent)
      | none =>
        if significand ≠ 0 ∧ !downward then failHere .numberOutOfRange
        else
          let _ ← takeDigits
          pure (.real (.zero negative))

/-- The exponent of a numeral if one follows, or the number without. -/
def readScaled (negative : Bool) (significand : Nat) (exponent : Int) : Reader Numeral := do
  let next ← peek
  if next.any isExponentMark then readExponent negative significand exponent
  else scaled negative significand exponent

/-- The fraction of a numeral, from its point on. -/
def readFraction (negative : Bool) (significand : Nat) (start : Int) : Reader Numeral := do
  advance
  let digits ← takeDigits
  if digits.isEmpty then
    match ← peek with
    | some _ => failNext .invalidNumber
    | none => failNext .endInValue
  else
    let (significand, taken, _) := absorb significand digits
    readScaled negative significand (start - (taken : Nat))

/-- The number of some digits before its fraction and exponent. -/
def readAfterDigits (negative : Bool) (digits : List UInt8) : Reader Numeral := do
  let (significand, _, left) := absorb 0 digits
  let next ← peek
  if next == some point then readFraction negative significand left.length
  else if next.any isExponentMark then readExponent negative significand left.length
  else if !left.isEmpty then scaled negative significand left.length
  else if !negative then pure (.whole significand)
  else if significand = 0 ∨ twoTo 63 < significand then
    pure (.real (Binary64.ofNat significand).neg)
  else pure (.whole (-significand))

/-- A numeral after its sign. -/
def readUnsigned (negative : Bool) : Reader Numeral := do
  match ← peek with
  | none => failHere .endInValue
  | some first =>
    if first = 0x30 then
      advance
      match ← peek with
      | some next =>
        if isDigit next then failNext .invalidNumber else readAfterDigits negative [first]
      | none => readAfterDigits negative [first]
    else if isDigit first then
      let digits ← takeDigits
      readAfterDigits negative digits
    else
      advance
      failHere .invalidNumber

/-- A numeral that starts with the given byte, which is still unread. -/
def readNumeral (first : UInt8) : Reader Numeral := do
  if first = minus then
    advance
    readUnsigned true
  else readUnsigned false

/-- Pass over the exponent of a numeral, from its letter on. -/
def skipExponent : Reader Unit := do
  advance
  let sign ← peek
  if sign == some minus || sign == some plus then advance
  match ← peek with
  | none => failHere .invalidNumber
  | some digit =>
    advance
    if isDigit digit then
      let _ ← takeDigits
    else failHere .invalidNumber

/-- Pass over the fraction of a numeral, from its point on. -/
def skipFraction : Reader Unit := do
  advance
  let digits ← takeDigits
  if digits.isEmpty then failNext .invalidNumber
  if (← peek).any isExponentMark then skipExponent

/-- Pass over a numeral after its sign. -/
def skipNumeral : Reader Unit := do
  match ← peek with
  | none => failHere .invalidNumber
  | some first =>
    advance
    if first = 0x30 then
      match ← peek with
      | some next => if isDigit next then failNext .invalidNumber
      | none => pure ()
    else if isDigit first then
      let _ ← takeDigits
    else failHere .invalidNumber
    let next ← peek
    if next == some point then skipFraction
    else if next.any isExponentMark then skipExponent

end ReminderDispatch.Json
