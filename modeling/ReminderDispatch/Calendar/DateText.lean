import ReminderDispatch.Calendar.Date
import ReminderDispatch.Text.Blank
import ReminderDispatch.Text.Decimal

/-!
# Text of dates

Dates as `YYYY-MM-DD`. A year of the years 0 to 9999 has four digits and no sign; every other year
has a sign and at least four digits. Reading takes the written form of every date, and also
shorter numerals and blanks before a number.
-/

namespace ReminderDispatch.Calendar

open ReminderDispatch.Text

/-- The digits of a year, with a sign outside the years 0 to 9999. -/
def yearText (year : Int) : List Char :=
  if 0 ≤ year ∧ year ≤ 9999 then paddedDigits 4 year.natAbs
  else (if year < 0 then '-' else '+') :: paddedDigits 4 year.natAbs

/-- The characters of a date. -/
def dateChars (date : Date) : List Char :=
  yearText date.year ++ ['-'] ++ paddedDigits 2 date.month ++ ['-'] ++ paddedDigits 2 date.day

/-- The first digits of a text, at most `most` of them, and the text after them. -/
def spanDigits : Nat → List Char → List Char × List Char
  | most + 1, c :: rest =>
    if c.isDigit then
      let (digits, after) := spanDigits most rest
      (c :: digits, after)
    else ([], c :: rest)
  | _, text => ([], text)

/-- A number of one to `most` digits, with blanks in front. -/
def readNumber? (most : Nat) (text : List Char) : Option (Nat × List Char) :=
  match spanDigits most (trimFront text) with
  | ([], _) => none
  | (digits, rest) => some (valueOf digits, rest)

/-- A year: with a sign any number of digits, without one at most four. -/
def readYear? (text : List Char) : Option (Int × List Char) :=
  match trimFront text with
  | '-' :: rest => signed rest (fun n => -(n : Int))
  | '+' :: rest => signed rest (fun n => (n : Int))
  | plain => (readNumber? 4 plain).map fun (n, rest) => ((n : Int), rest)
where
  /-- The digits right after a sign. -/
  signed (text : List Char) (value : Nat → Int) : Option (Int × List Char) :=
    match spanDigits text.length text with
    | ([], _) => none
    | (digits, rest) => some (value (valueOf digits), rest)

/-- The text after a hyphen. -/
def afterHyphen? : List Char → Option (List Char)
  | '-' :: rest => some rest
  | _ => none

/-- The date that a whole text names. -/
def readDate? (text : List Char) : Option Date := do
  let (year, rest) ← readYear? text
  let rest ← afterHyphen? rest
  let (month, rest) ← readNumber? 2 rest
  let rest ← afterHyphen? rest
  let (day, rest) ← readNumber? 2 rest
  if rest.isEmpty then Date.of? year month day else none

end ReminderDispatch.Calendar

namespace ReminderDispatch

/-- The text of a date. -/
def Date.text (date : Date) : String := String.ofList (Calendar.dateChars date)

/-- The date of a text, which may have blanks around it. -/
def Date.ofText? (text : String) : Option Date :=
  Calendar.readDate? (Text.trimChars text.toList)

end ReminderDispatch
