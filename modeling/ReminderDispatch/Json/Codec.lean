import ReminderDispatch.Json.Skip

/-!
# Codecs

A codec writes a value as JSON and reads it back from the front of a text. This module has the
codecs of strings, integers, instants, names, lists and optional values, and the reading of whole
texts. What a reader wants of a value is part of the message when it finds something else.
-/

namespace ReminderDispatch.Json

/-- A writer and a reader of one type. -/
structure Codec (α : Type) where
  /-- The JSON text of a value, without any spaces. -/
  write : α → List UInt8
  /-- Read a value at the front of a text. -/
  read : Reader α

/-- Read one value and nothing else. -/
def Codec.readAll {α : Type} (codec : Codec α) (text : List UInt8) : Except Refusal α :=
  let whole : Reader α := do
    let value ← codec.read
    match ← peekToken with
    | none => pure value
    | some _ => failNext .trailingCharacters
  match whole text with
  | .ok (value, _) => .ok value
  | .error fault => .error (fault.refusal text)

/-- The codec of a type whose values are values of another type under a different name. -/
def Codec.via {α β : Type} (codec : Codec α) (wrap : α → β) (unwrap : β → α) : Codec β where
  write value := codec.write (unwrap value)
  read := wrap <$> codec.read

/-- The byte of a hexadecimal digit below 16. -/
def hexByte (n : Nat) : UInt8 := if n < 10 then 0x30 + n.toUInt8 else 0x57 + n.toUInt8

/-- One byte of a string as it is written. -/
def escapeByte (b : UInt8) : List UInt8 :=
  if b = quoteMark then [backslash, quoteMark]
  else if b = backslash then [backslash, backslash]
  else if 0x20 ≤ b then [b]
  else if b = 0x08 then [backslash, 0x62]
  else if b = 0x0c then [backslash, 0x66]
  else if b = 0x0a then [backslash, 0x6e]
  else if b = 0x0d then [backslash, 0x72]
  else if b = 0x09 then [backslash, 0x74]
  else [backslash, 0x75, 0x30, 0x30, hexByte (b.toNat / 16), hexByte (b.toNat % 16)]

/-- A string in quotes, with short escapes where there are some. -/
def writeString (string : String) : List UInt8 :=
  quoteMark :: (Text.bytes string).flatMap escapeByte ++ [quoteMark]

/-- The next value is of another kind than the wanted one: say of which. -/
def failKind {α : Type} (first : UInt8) (wanted : String) : Reader α := do
  if first = 0x6e then
    advance
    word [0x75, 0x6c, 0x6c]
    failLoose (.invalidType "null" wanted)
  else if first = 0x74 then
    advance
    word [0x72, 0x75, 0x65]
    failLoose (.invalidType "boolean `true`" wanted)
  else if first = 0x66 then
    advance
    word [0x61, 0x6c, 0x73, 0x65]
    failLoose (.invalidType "boolean `false`" wanted)
  else if first = minus || isDigit first then
    let numeral ← readNumeral first
    failLoose (.invalidType numeral.describe wanted)
  else if first = quoteMark then
    advance
    let string ← stringRest
    failLoose (.invalidType ("string " ++ Text.quote string) wanted)
  else if first = openList then failLoose (.invalidType "sequence" wanted)
  else if first = openObject then failLoose (.invalidType "map" wanted)
  else failNext .expectedValue

/-- Read a value by its first byte, after spaces. A loose fault is placed where reading stops. -/
def byFirst {α : Type} (reader : UInt8 → Reader α) : Reader α := do
  match ← peekToken with
  | none => failNext .endInValue
  | some first => settled (reader first)

/-- Read a string and accept it; a string that is not accepted is refused. -/
def readStringWith {α : Type} (wanted : String) (accept : String → Except Cause α) : Reader α :=
  byFirst fun first => do
    if first = quoteMark then
      advance
      match accept (← stringRest) with
      | .ok value => pure value
      | .error cause => failLoose cause
    else failKind first wanted

/-- Strings. -/
def string : Codec String where
  write := writeString
  read := readStringWith "a string" .ok

/-- The bytes of the decimal numeral of a natural number. -/
def naturalBytes (n : Nat) : List UInt8 := (Text.digits n).map fun c => c.toNat.toUInt8

/-- The bytes of the decimal numeral of an integer. -/
def integerBytes (n : Int) : List UInt8 :=
  if n < 0 then minus :: naturalBytes n.natAbs else naturalBytes n.natAbs

/-- Integers between two bounds. -/
def integer (wanted : String) (least greatest : Int) : Codec Int where
  write := integerBytes
  read := byFirst fun first => do
    if first = minus || isDigit first then
      match ← readNumeral first with
      | .whole n =>
        if least ≤ n ∧ n ≤ greatest then pure n
        else failLoose (.invalidValue (Numeral.whole n).describe wanted)
      | numeral => failLoose (.invalidType numeral.describe wanted)
    else failKind first wanted

/-- Signed integers of 64 bits. -/
def int64 : Codec Int64 :=
  (integer "i64" Int64.minValue.toInt Int64.maxValue.toInt).via Int64.ofInt Int64.toInt

/-- Unsigned integers of 64 bits. -/
def count : Codec UInt64 :=
  (integer "usize" 0 (UInt64.size - 1 : Nat)).via (fun n => .ofNat n.toNat) fun n => n.toNat

/-- Bytes as numbers. -/
def byte : Codec UInt8 :=
  (integer "u8" 0 255).via (fun n => .ofNat n.toNat) fun n => n.toNat

/-- The word null. -/
def nullBytes : List UInt8 := [0x6e, 0x75, 0x6c, 0x6c]

/-- A value or null. -/
def optional {α : Type} (codec : Codec α) : Codec (Option α) where
  write
    | none => nullBytes
    | some value => codec.write value
  read := do
    match ← peekToken with
    | some 0x6e =>
      advance
      word [0x75, 0x6c, 0x6c]
      pure none
    | _ => some <$> codec.read

/-- Read null, for which there is no value. -/
def readNull : Reader Unit :=
  byFirst fun first => do
    if first = 0x6e then
      advance
      word [0x75, 0x6c, 0x6c]
    else failKind first "unit"

/-- Pass over a colon. -/
def readColon : Reader Unit := do
  match ← peekToken with
  | none => failNext .endInObject
  | some b => if b = colon then advance else failNext .expectedColon

/-- Values that have names: a value is written as its name. It may also be read from an object with
the name as its only key and null as its value. -/
def named {α : Type} (values : List (String × α)) (name : α → String) : Codec α where
  write value := writeString (name value)
  read := do
    match ← peekToken with
    | none => failNext .endInValue
    | some first =>
      if first = quoteMark then variant
      else if first = openObject then
        advance
        let value ← variant
        readColon
        readNull
        match ← peekToken with
        | none => failHere .endInObject
        | some b =>
          if b = closeObject then
            advance
            pure value
          else failHere .expectedValue
      else failNext .expectedValue
where
  /-- Read a name of one of the values. -/
  variant : Reader α :=
    readStringWith "variant identifier" fun text =>
      match values.lookup text with
      | some value => .ok value
      | none => .error (.unknownVariant text (values.map Prod.fst))

/-- End a list: the fault if it does not end here, and what is unread then. -/
def endList (text : List UInt8) : Option Cause × List UInt8 :=
  match skipSpace text with
  | [] => (some .endInList, [])
  | b :: rest =>
    if b = closeList then (none, rest)
    else if b = comma then
      let rest := skipSpace rest
      (some (if rest.head? = some closeList then .trailingComma else .trailingCharacters), rest)
    else (some .trailingCharacters, b :: rest)

/-- End an object: the fault if it does not end here, and what is unread then. -/
def endObject (text : List UInt8) : Option Cause × List UInt8 :=
  match skipSpace text with
  | [] => (some .endInObject, [])
  | b :: rest =>
    if b = closeObject then (none, rest)
    else if b = comma then (some .trailingComma, b :: rest)
    else (some .trailingCharacters, b :: rest)

/-- Read what stands in brackets, then the closing bracket. A loose fault of the inside is placed
where the reader stands after its attempt to end. -/
def enclosed {α : Type} (ending : List UInt8 → Option Cause × List UInt8) (inside : Reader α) :
    Reader α := fun text =>
  match inside text with
  | .ok (value, rest) =>
    match ending rest with
    | (none, after) => .ok (value, after)
    | (some cause, after) => .error (.placed cause (after.length - 1))
  | .error (.placed cause unread) => .error (.placed cause unread)
  | .error (.loose cause rest) => .error (.placed cause (ending rest).2.length)

/-- There is another element of a list; the comma before it is passed. -/
def hasElement (isFirst : Bool) : Reader Bool := do
  match ← peekToken with
  | none => failNext .endInList
  | some b =>
    if b = closeList then pure false
    else if isFirst then pure true
    else if b = comma then
      advance
      match ← peekToken with
      | none => failNext .endInValue
      | some next => if next = closeList then failNext .trailingComma else pure true
    else failNext .expectedListNext

/-- There is another key of an object; the comma before it is passed, and its quote is next. -/
def hasKey (isFirst : Bool) : Reader Bool := do
  match ← peekToken with
  | none => failNext .endInObject
  | some b =>
    if b = closeObject then pure false
    else if isFirst then if b = quoteMark then pure true else failNext .keyNotString
    else if b = comma then
      advance
      match ← peekToken with
      | none => failNext .endInValue
      | some next =>
        if next = quoteMark then pure true
        else if next = closeObject then failNext .trailingComma
        else failNext .keyNotString
    else failNext .expectedObjectNext

/-- Read a key, whose quote is next. -/
def readKey : Reader String := do
  advance
  stringRest

/-- Texts with a separator between two of them. -/
def separated (texts : List (List UInt8)) : List UInt8 := List.intercalate [comma] texts

/-- The elements of a list, each of which passes at least one byte. -/
def readElements {α : Type} (element : Reader α) : Nat → Bool → Reader (List α)
  | 0, _ => pure []
  | rounds + 1, isFirst => do
    if ← hasElement isFirst then
      let value ← element
      let more ← readElements element rounds false
      pure (value :: more)
    else pure []

/-- Lists of values of one type. -/
def list {α : Type} (codec : Codec α) : Codec (List α) where
  write values := openList :: separated (values.map codec.write) ++ [closeList]
  read := byFirst fun first => do
    if first = openList then
      advance
      enclosed endList fun text => readElements codec.read (text.length + 1) true text
    else failKind first "a sequence"

/-- The members of an object whose keys are free, each of which passes at least one byte; of two
values of one key the later counts. -/
def readMembers {α β : Type} (value : Reader α) (put : β → String → α → β) :
    Nat → Bool → β → Reader β
  | 0, _, so => pure so
  | rounds + 1, isFirst, so => do
    if ← hasKey isFirst then
      let key ← readKey
      readColon
      let found ← value
      readMembers value put rounds false (put so key found)
    else pure so

/-- Objects whose keys are free and whose values are of one type. -/
def entries {α β : Type} (codec : Codec α) (toList : β → List (String × α)) (empty : β)
    (put : β → String → α → β) : Codec β where
  write values :=
    openObject :: separated ((toList values).map fun (key, value) =>
      writeString key ++ [colon] ++ codec.write value) ++ [closeObject]
  read := byFirst fun first => do
    if first = openObject then
      advance
      enclosed endObject fun text => readMembers codec.read put (text.length + 1) true empty text
    else failKind first "a map"

end ReminderDispatch.Json
