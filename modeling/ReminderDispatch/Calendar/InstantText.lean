import ReminderDispatch.Calendar.DateText
import ReminderDispatch.Calendar.Instant
import ReminderDispatch.Number.Powers

/-!
# Text of instants

Instants as `YYYY-MM-DDTHH:MM:SSZ`, with a fraction of three, six or nine digits when the second
has one and with second 60 for a leap second. Reading takes this form, and around it any offset
from UTC, either case of the letters, a space for the `T`, blanks between the parts and a fraction
of any length, of which nine digits count.
-/

namespace ReminderDispatch.Calendar

open ReminderDispatch.Text

/-- Why a text names no instant. -/
inductive InstantFault where
  /-- A number is not one that its place can hold, or the date does not exist. -/
  | outOfRange
  /-- The instant lies outside the calendar once it is moved to UTC. -/
  | impossible
  /-- A character stands where it cannot. -/
  | invalid
  /-- The text ends before it is complete. -/
  | tooShort
  /-- There is more text after a complete instant. -/
  | tooLong
  deriving DecidableEq, Repr

/-- The fault in words. -/
def InstantFault.message : InstantFault → String
  | .outOfRange => "input is out of range"
  | .impossible => "no possible date and time matching input"
  | .invalid => "input contains invalid characters"
  | .tooShort => "premature end of input"
  | .tooLong => "trailing input"

/-- The fraction of a second in the fewest groups of three digits that hold it. -/
def fractionChars (nanos : Nat) : List Char :=
  if nanos = 0 then []
  else if nanos % 1000000 = 0 then '.' :: paddedDigits 3 (nanos / 1000000)
  else if nanos % 1000 = 0 then '.' :: paddedDigits 6 (nanos / 1000)
  else '.' :: paddedDigits 9 nanos

/-- The time of day, with a leap second as second 60. -/
def timeChars (time : Instant) : List Char :=
  let leap := time.nanos / 1000000000
  paddedDigits 2 (time.second / 3600) ++ [':'] ++ paddedDigits 2 (time.second / 60 % 60) ++ [':']
    ++ paddedDigits 2 (time.second % 60 + leap) ++ fractionChars (time.nanos % 1000000000)

/-- The characters of an instant. -/
def instantChars (time : Instant) : List Char :=
  dateChars time.date ++ ['T'] ++ timeChars time ++ ['Z']

/-- A number of one to `most` digits at the front of a text. -/
def scanNumber (most : Nat) (text : List Char) : Except InstantFault (Nat × List Char) :=
  match text, spanDigits most text with
  | [], _ => .error .tooShort
  | _, ([], _) => .error .invalid
  | _, (digits, rest) => .ok (valueOf digits, rest)

/-- A number of one or two digits, with blanks in front, that must lie between two bounds. -/
def scanField (least greatest : Nat) (text : List Char) :
    Except InstantFault (Nat × List Char) := do
  let (n, rest) ← scanNumber 2 (trimFront text)
  if least ≤ n ∧ n ≤ greatest then .ok (n, rest) else .error .outOfRange

/-- The year of an instant: four digits at most, or a sign and any number of digits. -/
def scanYear (text : List Char) : Except InstantFault (Int × List Char) := do
  let (year, rest) ← match trimFront text with
    | '-' :: rest => (scanNumber rest.length rest).map fun (n, rest) => (-(n : Int), rest)
    | '+' :: rest => (scanNumber rest.length rest).map fun (n, rest) => ((n : Int), rest)
    | plain => (scanNumber 4 plain).map fun (n, rest) => ((n : Int), rest)
  if -2147483648 ≤ year ∧ year ≤ 2147483647 then .ok (year, rest) else .error .outOfRange

/-- The text after one character, with the blanks before that character left out. -/
def scanMark (mark : Char) (text : List Char) : Except InstantFault (List Char) :=
  match trimFront text with
  | [] => .error .tooShort
  | c :: rest => if c = mark then .ok rest else .error .invalid

/-- The letter or space between date and time. -/
def scanSeparator : List Char → Except InstantFault (List Char)
  | [] => .error .tooShort
  | c :: rest => if c = 'T' ∨ c = 't' ∨ c = ' ' then .ok rest else .error .invalid

/-- The nanoseconds of an optional fraction; digits after the ninth do not count. -/
def scanFraction : List Char → Except InstantFault (Nat × List Char)
  | '.' :: text => do
    let (n, rest) ← scanNumber 9 text
    let places := text.length - rest.length
    .ok (n * tenTo (9 - places), rest.dropWhile Char.isDigit)
  | text => .ok (0, text)

/-- Two digits of an offset. A single character of more than one byte is no early end. -/
def scanPair : List Char → Except InstantFault ((Nat × Nat) × List Char)
  | [] => .error .tooShort
  | [c] => .error (if c.utf8Size = 1 then .tooShort else .invalid)
  | c :: d :: rest =>
    if c.isDigit ∧ d.isDigit then .ok ((valueOf [c], valueOf [d]), rest) else .error .invalid

/-- The seconds of an offset after its sign. -/
def scanOffsetSize (text : List Char) : Except InstantFault (Int × List Char) := do
  let ((tens, ones), rest) ← scanPair text
  let ((minuteTens, minutes), rest) ← scanPair (rest.dropWhile fun c => c == ':' || isBlank c)
  if minuteTens ≤ 5 then
    .ok (((tens * 10 + ones) * 3600 + (minuteTens * 10 + minutes) * 60 : Nat), rest)
  else .error .outOfRange

/-- The offset from UTC in seconds. -/
def scanOffset : List Char → Except InstantFault (Int × List Char)
  | [] => .error .tooShort
  | 'Z' :: rest | 'z' :: rest => .ok (0, rest)
  | '+' :: rest => scanOffsetSize rest
  | '-' :: rest | '\u2212' :: rest => (scanOffsetSize rest).map fun (n, rest) => (-n, rest)
  | _ => .error .invalid

/-- The zone at the end of an instant: the letters UTC in either case, or an offset. -/
def scanZone (text : List Char) : Except InstantFault (Int × List Char) :=
  if (text.take 3).map Char.toUpper = ['U', 'T', 'C'] then .ok (0, text.drop 3)
  else scanOffset text

/-- The local time that a text gives, moved to UTC. -/
def instantAt (year : Int) (month day hour minute second nanos : Nat) (offset : Int) :
    Except InstantFault Instant :=
  let leap := second / 60
  match Date.of? year month day with
  | none => .error .outOfRange
  | some date =>
    if offset.natAbs ≥ 86400 then .error .outOfRange
    else
      let clock : Int := (hour * 3600 + minute * 60 + (second - leap) : Nat)
      match Instant.ofSeconds? date (clock - offset) (nanos + leap * 1000000000) with
      | none => .error .impossible
      | some time => .ok time

/-- The instant that a whole text names. -/
def readInstant (text : List Char) : Except InstantFault Instant := do
  let (year, rest) ← scanYear text
  let (month, rest) ← scanField 1 12 (← scanMark '-' rest)
  let (day, rest) ← scanField 1 31 (← scanMark '-' rest)
  let (hour, rest) ← scanField 0 23 (← scanSeparator rest)
  let (minute, rest) ← scanField 0 59 (← scanMark ':' rest)
  let (second, rest) ← scanField 0 60 (← scanMark ':' rest)
  let (nanos, rest) ← scanFraction rest
  let (offset, rest) ← scanZone (trimFront rest)
  if (trimFront rest).isEmpty then instantAt year month day hour minute second nanos offset
  else .error .tooLong

end ReminderDispatch.Calendar

namespace ReminderDispatch.Instant

/-- The text of an instant in records. -/
def text (time : Instant) : String := String.ofList (Calendar.instantChars time)

/-- The instant of a text. -/
def ofText (text : String) : Except Calendar.InstantFault Instant :=
  Calendar.readInstant text.toList

/-- The text of an instant for people: date, time and zone apart. -/
def spacedText (time : Instant) : String :=
  String.ofList (Calendar.dateChars time.date ++ [' '] ++ Calendar.timeChars time) ++ " UTC"

end ReminderDispatch.Instant
