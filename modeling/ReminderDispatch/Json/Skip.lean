import ReminderDispatch.Json.Number

/-!
# Passing over JSON values

Values of members that nobody asks for are passed over with a stack of the brackets that are open.
Only their syntax is looked at: strings may hold anything that is not a control character.
-/

namespace ReminderDispatch.Json

/-- A bracket that is open. -/
inductive Bracket where
  /-- Inside a list. -/
  | list
  /-- Inside an object. -/
  | object
  deriving DecidableEq, Repr

/-- The byte that closes a bracket. -/
def Bracket.closing : Bracket → UInt8
  | .list => closeList
  | .object => closeObject

/-- Pass over a value that is neither list nor object, given its first byte, which is unread. -/
def skipScalar (first : UInt8) : Reader Unit := do
  if first = 0x6e then
    advance
    word [0x75, 0x6c, 0x6c]
  else if first = 0x74 then
    advance
    word [0x72, 0x75, 0x65]
  else if first = 0x66 then
    advance
    word [0x61, 0x6c, 0x73, 0x65]
  else if first = quoteMark then
    advance
    skipString
  else if first = minus then
    advance
    skipNumeral
  else if isDigit first then skipNumeral
  else failNext .expectedValue

/-- Pass over a key and its colon. -/
def skipKey : Reader Unit := do
  match ← peekToken with
  | none => failNext .endInObject
  | some b =>
    if b = quoteMark then
      advance
      skipString
    else failNext .keyNotString
  match ← peekToken with
  | none => failNext .endInObject
  | some b => if b = colon then advance else failNext .expectedColon

/-- Pass over the ends of the open brackets up to the next value. The result holds the brackets
that are open there; it is empty when the whole value is passed. -/
def skipEnds (afterValue : Bool) : List Bracket → Reader (List Bracket)
  | [] => pure []
  | bracket :: outer => do
    match ← peekToken with
    | none => failNext (match bracket with | .list => .endInList | .object => .endInObject)
    | some b =>
      if b = bracket.closing then
        advance
        skipEnds true outer
      else if afterValue && b != comma then
        failNext (match bracket with | .list => .expectedListNext | .object => .expectedObjectNext)
      else
        if afterValue then advance
        match bracket with
        | .list => pure ()
        | .object => skipKey
        pure (bracket :: outer)

/-- Pass over values until no bracket is open. Every round passes at least one byte, so as many
rounds as bytes are enough. -/
def skipRounds : Nat → List Bracket → Reader Unit
  | 0, _ => failHere .endInValue
  | rounds + 1, brackets => do
    let next ← match ← peekToken with
      | none => failNext .endInValue
      | some b =>
        if b = openList then
          advance
          skipEnds false (.list :: brackets)
        else if b = openObject then
          advance
          skipEnds false (.object :: brackets)
        else
          skipScalar b
          skipEnds true brackets
    if next.isEmpty then pure () else skipRounds rounds next

/-- Pass over a value of any kind. -/
def skipValue : Reader Unit := fun text => skipRounds (text.length + 1) [] text

end ReminderDispatch.Json
