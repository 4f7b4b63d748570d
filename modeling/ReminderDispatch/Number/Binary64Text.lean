import ReminderDispatch.Number.Binary64
import ReminderDispatch.Number.Powers
import ReminderDispatch.Text.Decimal

/-!
# Text of double-precision numbers

A decimal numeral stands for the number nearest to it. A number is written with the fewest digits
that read back as the number, and of those with the digits nearest to it.
-/

namespace ReminderDispatch.Binary64

open ReminderDispatch.Text

/-- The number nearest to some digits times a power of ten. -/
def ofDecimal (negative : Bool) (digits : Nat) (exponent : Int) : Binary64 :=
  ofRatio negative (digits * tenTo exponent.toNat) (tenTo (-exponent).toNat)

/-- The exponent of the greatest power of ten that is at most a positive quotient. -/
def floorLog10 (num den : Nat) : Int :=
  let near : Int := ((digits num).length : Int) - (digits den).length
  if num * tenTo (-near).toNat < den * tenTo near.toNat then near - 1 else near

/-- The digits for a quotient on the grid of the multiples of a power of ten, if one of the two
neighbours on the grid reads back as the number. -/
def gridDigits? (number : Binary64) (num den : Nat) (grid : Int) : Option Nat :=
  let scaledNum := num * tenTo (-grid).toNat
  let scaledDen := den * tenTo grid.toNat
  let below := scaledNum / scaledDen
  let near := Number.roundDiv scaledNum scaledDen
  [near, below, below + 1].find? fun digits => ofDecimal false digits grid == number

/-- The fewest digits of a positive number, and the power of ten of the last of them. -/
def shortest (mantissa : Nat) (exponent : Int) : Nat × Int :=
  let num := mantissa * twoTo exponent.toNat
  let den := twoTo (-exponent).toNat
  let top := floorLog10 num den
  let found := (List.range 17).findSome? fun places =>
    let grid := top - (places : Nat)
    (gridDigits? (.finite false mantissa exponent) num den grid).map fun digits => (digits, grid)
  found.getD (0, 0)

/-- The digits of a numeral without the zeros at its end, which move into the power of ten. -/
def dropZeros (text : List Char) (grid : Int) : List Char × Int :=
  let kept := (text.reverse.dropWhile (· == '0')).reverse
  (kept, grid + (text.length - kept.length : Nat))

/-- An exponent with its sign and two digits at least. -/
def exponentText (exponent : Int) : String :=
  (if exponent < 0 then "e-" else "e+") ++ padded 2 exponent.natAbs

/-- Digits with a decimal point: positional while the exponent of the first digit is from -5 to 15,
and otherwise with one digit before the point and an exponent. -/
def pointed (digits : List Char) (grid : Int) : String :=
  let top := grid + digits.length - 1
  if -5 ≤ top ∧ top < 0 then
    "0." ++ String.ofList (List.replicate (-top - 1).toNat '0' ++ digits)
  else if 0 ≤ top ∧ top ≤ 15 then
    let whole := digits.take (top + 1).toNat ++ List.replicate grid.toNat '0'
    let part := digits.drop (top + 1).toNat
    String.ofList whole ++ "." ++ (if part.isEmpty then "0" else String.ofList part)
  else
    let part := digits.drop 1
    String.ofList (digits.take 1) ++ (if part.isEmpty then "" else "." ++ String.ofList part)
      ++ exponentText top

/-- The text of a number. -/
def text : Binary64 → String
  | .nan => "NaN"
  | .infinite negative => if negative then "-inf" else "inf"
  | .finite negative mantissa exponent =>
    (if negative then "-" else "") ++
      (if mantissa = 0 then "0.0"
      else
        let (digits, grid) := shortest mantissa exponent
        let (digits, grid) := dropZeros (Text.digits digits) grid
        pointed digits grid)

/-- A whole number with an optional sign. -/
def readExponent? : List Char → Option Int
  | '-' :: rest => (readNat? rest).map fun n => -(n : Int)
  | '+' :: rest => (readNat? rest).map fun n => (n : Int)
  | rest => (readNat? rest).map fun n => (n : Int)

/-- The number of a numeral with an optional fraction and an optional exponent. -/
def readDecimal? (negative : Bool) (text : List Char) : Option Binary64 := do
  let whole := text.takeWhile Char.isDigit
  let rest := text.dropWhile Char.isDigit
  let (part, rest) := match rest with
    | '.' :: rest => (rest.takeWhile Char.isDigit, rest.dropWhile Char.isDigit)
    | rest => ([], rest)
  if whole.isEmpty && part.isEmpty then none
  let exponent ← match rest with
    | [] => some 0
    | c :: rest => if c = 'e' ∨ c = 'E' then readExponent? rest else none
  some (ofDecimal negative (valueOf (whole ++ part)) (exponent - (part.length : Nat)))

/-- The number of a text: a numeral, an infinity or NaN, with an optional sign. -/
def ofText? (text : String) : Option Binary64 :=
  match text.toList with
  | '-' :: rest => unsigned true rest
  | '+' :: rest => unsigned false rest
  | rest => unsigned false rest
where
  /-- The number of a text without a sign. -/
  unsigned (negative : Bool) (text : List Char) : Option Binary64 :=
    let lower := String.ofList (text.map Char.toLower)
    if lower = "inf" ∨ lower = "infinity" then some (.infinite negative)
    else if lower = "nan" then some .nan
    else readDecimal? negative text

end ReminderDispatch.Binary64
