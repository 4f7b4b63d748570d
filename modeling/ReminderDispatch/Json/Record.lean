import ReminderDispatch.Json.Codec

/-!
# Records

Records are written as objects with their fields in order. They are read from objects with the
fields in any order, other members passed over and no field twice, or from lists of the field
values in order.
-/

namespace ReminderDispatch.Json

/-- A field of a record. -/
structure Field (α : Type) where
  /-- The key of the field. -/
  name : String
  /-- How its values are written and read. -/
  codec : Codec α
  /-- The value of a field that an object lacks, if it may be lacking. -/
  absent : Option α
  /-- The value of a field that a list is too short for, if it may be. -/
  beyond : Option α

/-- A field that must be there. -/
def Field.required {α : Type} (name : String) (codec : Codec α) : Field α :=
  ⟨name, codec, none, none⟩

/-- A field with a value or null; an object may lack it. -/
def Field.nullable {α : Type} (name : String) (codec : Codec α) : Field (Option α) :=
  ⟨name, optional codec, some none, none⟩

/-- A field with a value of its own when it is not there. -/
def Field.withDefault {α : Type} (name : String) (codec : Codec α) (value : α) : Field α :=
  ⟨name, codec, some value, some value⟩

/-- The fields of a record, in order. -/
inductive Fields : List Type → Type 1 where
  /-- No fields. -/
  | nil : Fields []
  /-- A field before others. -/
  | cons {α : Type} {types : List Type} (field : Field α) (more : Fields types) :
    Fields (α :: types)

/-- One value for every field. -/
def Values : List Type → Type
  | [] => Unit
  | α :: types => α × Values types

/-- The values of the fields that were read so far. -/
def Slots : List Type → Type
  | [] => Unit
  | α :: types => Option α × Slots types

namespace Fields

/-- The number of fields. -/
def size {types : List Type} : Fields types → Nat
  | .nil => 0
  | .cons _ more => more.size + 1

/-- No field is read yet. -/
def noSlots {types : List Type} : Fields types → Slots types
  | .nil => ()
  | .cons _ more => (none, more.noSlots)

/-- The written members. -/
def members {types : List Type} : Fields types → Values types → List (List UInt8)
  | .nil, _ => []
  | .cons field more, (value, values) =>
    (writeString field.name ++ [colon] ++ field.codec.write value) :: more.members values

/-- Read the value of the field with a key into its slot; the value of another key is passed. -/
def readMember {types : List Type} (key : String) :
    Fields types → Slots types → Reader (Slots types)
  | .nil, _ => do
    readColon
    skipValue
  | .cons field more, (slot, slots) =>
    if key = field.name then
      match slot with
      | some _ => failLoose (.duplicateField field.name)
      | none => do
        readColon
        let value ← field.codec.read
        pure (some value, slots)
    else (fun slots => (slot, slots)) <$> more.readMember key slots

/-- The values of the fields, with the absent ones filled in. -/
def complete {types : List Type} : Fields types → Slots types → Reader (Values types)
  | .nil, _ => pure ()
  | .cons field more, (slot, slots) => do
    match slot.or field.absent with
    | none => failLoose (.missingField field.name)
    | some value => (fun values => (value, values)) <$> more.complete slots

/-- Read the members of an object, each of which passes at least one byte. -/
def readMembers {types : List Type} (fields : Fields types) :
    Nat → Bool → Slots types → Reader (Values types)
  | 0, _, slots => fields.complete slots
  | rounds + 1, isFirst, slots => do
    if ← hasKey isFirst then
      let key ← readKey
      let slots ← fields.readMember key slots
      fields.readMembers rounds false slots
    else fields.complete slots

/-- Read the values of the fields from the elements of a list. -/
def readList {types : List Type} (wanted : String) :
    Nat → Bool → Fields types → Reader (Values types)
  | _, _, .nil => pure ()
  | index, isFirst, .cons field more => do
    let here ← hasElement isFirst
    let value ← if here then field.codec.read else
      match field.beyond with
      | some value => pure value
      | none => failLoose (.invalidLength index wanted)
    let values ← more.readList wanted (index + 1) (isFirst && !here)
    pure (value, values)

end Fields

/-- How the values of a type are records. -/
structure Record (α : Type) where
  /-- The name of the type in messages. -/
  title : String
  /-- The types of the fields. -/
  types : List Type
  /-- The fields. -/
  fields : Fields types
  /-- The value with given field values. -/
  pack : Values types → α
  /-- The field values of a value. -/
  unpack : α → Values types

namespace Record

/-- What is wanted, in messages about a wrong kind. -/
def wanted {α : Type} (record : Record α) : String := "struct " ++ record.title

/-- What is wanted, in messages about a list of the wrong length. -/
def wantedLength {α : Type} (record : Record α) : String :=
  record.wanted ++ " with " ++ Text.decimal record.fields.size
    ++ (if record.fields.size = 1 then " element" else " elements")

/-- The codec of a record. -/
def codec {α : Type} (record : Record α) : Codec α where
  write value :=
    openObject :: separated (record.fields.members (record.unpack value)) ++ [closeObject]
  read := byFirst fun first => do
    if first = openObject then
      advance
      record.pack <$> enclosed endObject fun text =>
        record.fields.readMembers (text.length + 1) true record.fields.noSlots text
    else if first = openList then
      advance
      record.pack <$> enclosed endList (record.fields.readList record.wantedLength 0 true)
    else failKind first record.wanted

end Record

end ReminderDispatch.Json
