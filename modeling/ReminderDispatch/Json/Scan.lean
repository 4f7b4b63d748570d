import ReminderDispatch.Json.Fault
import ReminderDispatch.Text.Bytes

/-!
# Scanning JSON texts

Readers take a value from the front of a byte list and leave the bytes after it. This module has
the readers of blanks, words, strings and digits.
-/

namespace ReminderDispatch.Json

/-- A reader of a value at the front of a text. -/
abbrev Reader (α : Type) := StateT (List UInt8) (Except Fault) α

/-- What is left of a text once a part of its front was read. -/
abbrev Left (text : List UInt8) := { rest : List UInt8 // rest.length ≤ text.length }

/-- The byte of a quote. -/
abbrev quoteMark : UInt8 := 0x22

/-- The byte of a backslash. -/
abbrev backslash : UInt8 := 0x5c

/-- The byte of a comma. -/
abbrev comma : UInt8 := 0x2c

/-- The byte of a colon. -/
abbrev colon : UInt8 := 0x3a

/-- The byte that opens a list. -/
abbrev openList : UInt8 := 0x5b

/-- The byte that closes a list. -/
abbrev closeList : UInt8 := 0x5d

/-- The byte that opens an object. -/
abbrev openObject : UInt8 := 0x7b

/-- The byte that closes an object. -/
abbrev closeObject : UInt8 := 0x7d

/-- The byte of a minus sign. -/
abbrev minus : UInt8 := 0x2d

/-- The byte of a plus sign. -/
abbrev plus : UInt8 := 0x2b

/-- The byte of a point. -/
abbrev point : UInt8 := 0x2e

/-- The byte that starts an exponent, in either case. -/
def isExponentMark (b : UInt8) : Bool := b == 0x65 || b == 0x45

/-- A byte that may stand between tokens. -/
def isSpace (b : UInt8) : Bool := b == 0x20 || b == 0x0a || b == 0x09 || b == 0x0d

/-- The byte of a decimal digit. -/
def isDigit (b : UInt8) : Bool := 0x30 ≤ b && b ≤ 0x39

/-- The text without the spaces at its front. -/
def skipSpace (text : List UInt8) : List UInt8 := text.dropWhile isSpace

/-- Refuse at the front of the text. -/
def failHere {α : Type} (cause : Cause) : Reader α := fun text =>
  .error (.placed cause text.length)

/-- Refuse the next byte: the place is just after it, or at the end of the text. -/
def failNext {α : Type} (cause : Cause) : Reader α := fun text =>
  .error (.placed cause (text.length - 1))

/-- Refuse the value as a whole. -/
def failLoose {α : Type} (cause : Cause) : Reader α := fun text => .error (.loose cause text)

/-- The first byte, which stays unread. -/
def peek : Reader (Option UInt8) := fun text => .ok (text.head?, text)

/-- The first byte after spaces, which stays unread. -/
def peekToken : Reader (Option UInt8) := fun text =>
  let rest := skipSpace text
  .ok (rest.head?, rest)

/-- Pass over the first byte. -/
def advance : Reader Unit := fun text => .ok ((), text.tail)

/-- Place a loose fault where the reader stands when it fails with one. -/
def settled {α : Type} (reader : Reader α) : Reader α := fun text =>
  match reader text with
  | .error (.loose cause rest) => .error (.placed cause rest.length)
  | outcome => outcome

/-- The rest of a word of which the first letter is read. -/
def word (letters : List UInt8) : Reader Unit := fun text =>
  match letters, text with
  | [], text => .ok ((), text)
  | _ :: _, [] => .error (.placed .endInValue 0)
  | letter :: more, b :: rest =>
    if b = letter then word more rest else .error (.placed .expectedWord rest.length)

/-- The value of a hexadecimal digit. -/
def hexValue? (b : UInt8) : Option Nat :=
  if 0x30 ≤ b ∧ b ≤ 0x39 then some (b.toNat - 0x30)
  else if 0x61 ≤ b ∧ b ≤ 0x66 then some (b.toNat - 0x61 + 10)
  else if 0x41 ≤ b ∧ b ≤ 0x46 then some (b.toNat - 0x41 + 10)
  else none

/-- The value of four hexadecimal digits. -/
def hexUnit (text : List UInt8) : Except Fault (Nat × Left text) :=
  match text with
  | a :: b :: c :: d :: rest =>
    match hexValue? a, hexValue? b, hexValue? c, hexValue? d with
    | some a, some b, some c, some d =>
      .ok (((a * 16 + b) * 16 + c) * 16 + d, ⟨rest, by simp; omega⟩)
    | _, _, _, _ => .error (.placed .invalidEscape rest.length)
  | _ => .error (.placed .endInString 0)

/-- The byte that a short escape stands for. -/
def shortEscape? (b : UInt8) : Option UInt8 :=
  if b = quoteMark ∨ b = backslash ∨ b = 0x2f then some b
  else if b = 0x62 then some 0x08
  else if b = 0x66 then some 0x0c
  else if b = 0x6e then some 0x0a
  else if b = 0x72 then some 0x0d
  else if b = 0x74 then some 0x09
  else none

/-- One byte of the second half of a surrogate pair's escape. -/
def pairMark (mark : UInt8) (text : List UInt8) : Except Fault (Left text) :=
  match text with
  | [] => .error (.placed .endInString 0)
  | b :: rest =>
    if b = mark then .ok ⟨rest, by simp⟩ else .error (.placed .endOfEscape rest.length)

/-- The bytes of the character of an escape by code units, after the letter of the escape. -/
def unitEscape (text : List UInt8) : Except Fault (List UInt8 × Left text) := do
  let (first, rest) ← hexUnit text
  if 0xdc00 ≤ first ∧ first ≤ 0xdfff then .error (.placed .loneSurrogate rest.val.length)
  else if 0xd800 ≤ first ∧ first ≤ 0xdbff then
    let mark ← pairMark backslash rest.val
    let letter ← pairMark 0x75 mark.val
    let (second, last) ← hexUnit letter.val
    if 0xdc00 ≤ second ∧ second ≤ 0xdfff then
      let code := (first - 0xd800) * 0x400 + (second - 0xdc00) + 0x10000
      .ok (String.utf8EncodeChar (Char.ofNat code),
        ⟨last.val, Nat.le_trans last.property (Nat.le_trans letter.property
          (Nat.le_trans mark.property rest.property))⟩)
    else .error (.placed .loneSurrogate last.val.length)
  else .ok (String.utf8EncodeChar (Char.ofNat first), rest)

/-- The bytes that an escape stands for, after its backslash. -/
def escape (text : List UInt8) : Except Fault (List UInt8 × Left text) :=
  match text with
  | [] => .error (.placed .endInString 0)
  | b :: rest =>
    match shortEscape? b with
    | some byte => .ok ([byte], ⟨rest, by simp⟩)
    | none =>
      if b = 0x75 then
        (unitEscape rest).map fun (bytes, left) =>
          (bytes, ⟨left.val, Nat.le_trans left.property (by simp)⟩)
      else .error (.placed .invalidEscape rest.length)

/-- The bytes of a string after its opening quote, with every escape resolved. -/
def stringBytes (text : List UInt8) : Except Fault (List UInt8 × List UInt8) :=
  match text with
  | [] => .error (.placed .endInString 0)
  | b :: rest =>
    if b = quoteMark then .ok ([], rest)
    else if b = backslash then do
      let (bytes, left) ← escape rest
      let (more, last) ← stringBytes left.val
      .ok (bytes ++ more, last)
    else if b < 0x20 then .error (.placed .controlCharacter rest.length)
    else do
      let (more, last) ← stringBytes rest
      .ok (b :: more, last)
termination_by text.length
decreasing_by
  · exact Nat.lt_of_le_of_lt left.property (by simp)
  · simp

/-- A string after its opening quote. -/
def stringRest : Reader String := fun text => do
  let (bytes, rest) ← stringBytes text
  match Text.ofBytes? bytes with
  | some string => .ok (string, rest)
  | none =>
    let raw := text.take (text.length - rest.length)
    .error (.placed .invalidCodePoint (text.length - (Text.wellFormedFront raw + 1)))

/-- Pass over an escape after its backslash, whatever character it stands for. -/
def skipEscape (text : List UInt8) : Except Fault (Left text) :=
  match text with
  | [] => .error (.placed .endInString 0)
  | b :: rest =>
    if (shortEscape? b).isSome then .ok ⟨rest, by simp⟩
    else if b = 0x75 then
      (hexUnit rest).map fun (_, left) => ⟨left.val, Nat.le_trans left.property (by simp)⟩
    else .error (.placed .invalidEscape rest.length)

/-- Pass over a string after its opening quote. -/
def skipString (text : List UInt8) : Except Fault (Unit × List UInt8) :=
  match text with
  | [] => .error (.placed .endInString 0)
  | b :: rest =>
    if b = quoteMark then .ok ((), rest)
    else if b = backslash then do
      let left ← skipEscape rest
      skipString left.val
    else if b < 0x20 then .error (.placed .controlCharacter (rest.length + 1))
    else skipString rest
termination_by text.length
decreasing_by
  · exact Nat.lt_of_le_of_lt left.property (by simp)
  · simp

end ReminderDispatch.Json
