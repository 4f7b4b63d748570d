import ReminderDispatch.Json.Record
import ReminderDispatch.Proofs.Json.Strings

/-!
# Objects on the wire

An object is written as its members with commas between them, and read member by member. A record is
read into slots, one for each field; after so many members so many slots are filled. An object with
free keys is read into what the members before have made.
-/

namespace ReminderDispatch.Json

variable {α β : Type} {rest text : List UInt8}

/-! ## Members -/

/-- A member as it is written: its key, a colon and its value. -/
def memberText (member : String × List UInt8) : List UInt8 :=
  writeString member.1 ++ [colon] ++ member.2

/-- Members after others, each with a comma before it, up to the end of the object. -/
def moreMembers (members : List (String × List UInt8)) (rest : List UInt8) : List UInt8 :=
  members.flatMap (fun member => comma :: memberText member) ++ closeObject :: rest

/-- Every text but the first one stands behind a comma. -/
theorem separated_cons (first : List UInt8) (texts : List (List UInt8)) :
    separated (first :: texts) = first ++ texts.flatMap (comma :: ·) := by
  induction texts generalizing first with
  | nil => simp [separated, List.intercalate]
  | cons next more ih =>
    have later := ih next
    unfold separated List.intercalate at later ⊢
    rw [List.intersperse_cons_cons, List.flatten_cons, List.flatten_cons, later, List.flatMap_cons]
    rfl

/-- The members of an object up to its end. -/
theorem separated_members (member : String × List UInt8) (more : List (String × List UInt8))
    (rest : List UInt8) :
    separated ((member :: more).map memberText) ++ closeObject :: rest =
      memberText member ++ moreMembers more rest := by
  unfold moreMembers
  rw [List.map_cons, separated_cons, List.append_assoc, List.flatMap_map]

/-- A member stands behind a comma before the others. -/
theorem moreMembers_cons (member : String × List UInt8) (more : List (String × List UInt8))
    (rest : List UInt8) :
    moreMembers (member :: more) rest = comma :: (memberText member ++ moreMembers more rest) := by
  simp [moreMembers]

/-- What follows a member delimits its value. -/
theorem delimited_moreMembers (members : List (String × List UInt8)) (rest : List UInt8) :
    Delimited (moreMembers members rest) := by
  cases members with
  | nil => exact delimited_closeObject rest
  | cons member more => exact delimited_comma _

/-- There are at least as many bytes as members. -/
theorem length_moreMembers (members : List (String × List UInt8)) (rest : List UInt8) :
    members.length < (moreMembers members rest).length := by
  unfold moreMembers
  induction members with
  | nil => simp
  | cons member more ih =>
    simp only [List.flatMap_cons, List.length_append, List.length_cons] at ih ⊢
    omega

/-- A member begins with the quote of its key. -/
theorem memberText_append (member : String × List UInt8) (rest : List UInt8) :
    memberText member ++ rest = writeString member.1 ++ colon :: (member.2 ++ rest) := by
  simp [memberText]

/-- The key of a member is read, up to its colon. -/
theorem readKey_member (member : String × List UInt8) (rest : List UInt8) :
    readKey (memberText member ++ rest) = .ok (member.1, colon :: (member.2 ++ rest)) := by
  rw [memberText_append]
  exact readKey_written _ _

/-- There is a first key, whose quote is next. -/
theorem hasKey_first (member : String × List UInt8) (rest : List UInt8) :
    hasKey true (memberText member ++ rest) = .ok (true, memberText member ++ rest) := by
  rw [memberText_append, writeString_append]
  unfold hasKey
  rw [Reader.bind_of_ok (peekToken_cons (by decide))]
  rfl

/-- There is another key, whose quote is next after the comma. -/
theorem hasKey_next (member : String × List UInt8) (rest : List UInt8) :
    hasKey false (comma :: (memberText member ++ rest)) =
      .ok (true, memberText member ++ rest) := by
  rw [memberText_append, writeString_append]
  unfold hasKey
  rw [Reader.bind_of_ok (peekToken_cons (by decide))]
  dsimp only
  rw [if_neg (by decide), if_neg (by decide), if_pos rfl]
  have passed : ∀ text, advance (comma :: text) = .ok ((), text) := fun _ => rfl
  rw [Reader.bind_of_ok (passed _), Reader.bind_of_ok (peekToken_cons (by decide))]
  rfl

/-- There is no key at the end of an object. -/
theorem hasKey_closeObject (isFirst : Bool) (rest : List UInt8) :
    hasKey isFirst (closeObject :: rest) = .ok (false, closeObject :: rest) := by
  unfold hasKey
  rw [Reader.bind_of_ok (peekToken_cons (by decide))]
  rfl

/-- What stands in braces is read up to the closing one. -/
theorem enclosed_endObject {inside : Reader α} {value : α}
    (read : inside text = .ok (value, closeObject :: rest)) :
    enclosed endObject inside text = .ok (value, rest) := by
  have ends : endObject (closeObject :: rest) = (none, rest) := by
    unfold endObject
    rw [skipSpace_cons (by decide)]
    rfl
  unfold enclosed
  rw [read]
  dsimp only
  rw [ends]

/-! ## Objects with free keys -/

/-- The members of an object as they are written when its keys are free. -/
def freeMembers (codec : Codec α) (values : List (String × α)) : List (String × List UInt8) :=
  values.map fun (key, value) => (key, codec.write value)

/-- The members of an object are put together one after the other. -/
theorem readMembers_more {codec : Codec α} (faithful : codec.Faithful) (put : β → String → α → β)
    (values : List (String × α)) (so : β) {rounds : Nat} (enough : values.length < rounds) :
    readMembers codec.read put rounds false so (moreMembers (freeMembers codec values) rest) =
      .ok (values.foldl (fun so (key, value) => put so key value) so, closeObject :: rest) := by
  induction values generalizing so rounds with
  | nil =>
    obtain ⟨rounds, rfl⟩ := Nat.exists_eq_succ_of_ne_zero (Nat.ne_of_gt enough)
    change readMembers codec.read put (rounds + 1) false so (closeObject :: rest) = _
    unfold readMembers
    rw [Reader.bind_of_ok (hasKey_closeObject false rest)]
    rfl
  | cons entry more ih =>
    obtain ⟨key, value⟩ := entry
    obtain ⟨rounds, rfl⟩ := Nat.exists_eq_succ_of_ne_zero (Nat.ne_of_gt (Nat.zero_lt_of_lt enough))
    have delimited := delimited_moreMembers (freeMembers codec more) rest
    have text := moreMembers_cons (key, codec.write value) (freeMembers codec more) rest
    change moreMembers (freeMembers codec ((key, value) :: more)) rest = _ at text
    rw [text]
    unfold readMembers
    rw [Reader.bind_of_ok (hasKey_next _ _)]
    dsimp only
    rw [if_pos rfl, Reader.bind_of_ok (readKey_member _ _), Reader.bind_of_ok (readColon_cons _),
      Reader.bind_of_ok (faithful value _ delimited)]
    exact ih (put so key value) (Nat.lt_of_succ_lt_succ enough)

/-- There are at least as many bytes as members before the end of an object. -/
theorem length_separated (members : List (String × List UInt8)) (rest : List UInt8) :
    members.length < (separated (members.map memberText) ++ closeObject :: rest).length + 1 := by
  cases members with
  | nil => simp
  | cons member more =>
    have atLeast := length_moreMembers more rest
    rw [separated_members, List.length_append, List.length_cons]
    omega

/-- All members of an object are put together. -/
theorem readMembers_all {codec : Codec α} (faithful : codec.Faithful) (put : β → String → α → β)
    (values : List (String × α)) (so : β) (rest : List UInt8) {rounds : Nat}
    (enough : values.length < rounds) :
    readMembers codec.read put rounds true so
        (separated ((freeMembers codec values).map memberText) ++ closeObject :: rest) =
      .ok (values.foldl (fun so (key, value) => put so key value) so, closeObject :: rest) := by
  obtain ⟨rounds, rfl⟩ := Nat.exists_eq_succ_of_ne_zero (Nat.ne_of_gt (Nat.zero_lt_of_lt enough))
  cases values with
  | nil =>
    change readMembers codec.read put (rounds + 1) true so (closeObject :: rest) = _
    unfold readMembers
    rw [Reader.bind_of_ok (hasKey_closeObject true rest)]
    rfl
  | cons entry more =>
    obtain ⟨key, value⟩ := entry
    have delimited := delimited_moreMembers (freeMembers codec more) rest
    have text := separated_members (key, codec.write value) (freeMembers codec more) rest
    change separated ((freeMembers codec ((key, value) :: more)).map memberText) ++ _ = _ at text
    rw [text]
    unfold readMembers
    rw [Reader.bind_of_ok (hasKey_first _ _)]
    dsimp only
    rw [if_pos rfl, Reader.bind_of_ok (readKey_member _ _), Reader.bind_of_ok (readColon_cons _),
      Reader.bind_of_ok (faithful value _ delimited)]
    exact readMembers_more faithful put more (put so key value) (Nat.lt_of_succ_lt_succ enough)

/-- An object with free keys is written as its members in braces. -/
theorem entries_write (codec : Codec α) (toList : β → List (String × α)) (empty : β)
    (put : β → String → α → β) (values : β) (rest : List UInt8) :
    (entries codec toList empty put).write values ++ rest = openObject ::
      (separated ((freeMembers codec (toList values)).map memberText) ++ closeObject :: rest) := by
  have members : (toList values).map (fun (key, value) =>
      writeString key ++ [colon] ++ codec.write value) =
      (freeMembers codec (toList values)).map memberText := by
    unfold freeMembers
    rw [List.map_map]
    rfl
  change openObject :: separated ((toList values).map fun (key, value) =>
    writeString key ++ [colon] ++ codec.write value) ++ [closeObject] ++ rest = _
  rw [members]
  simp only [List.cons_append, List.append_assoc, List.nil_append]

/-- Objects with free keys are read back, when putting all members together makes the value. -/
theorem entries_faithful {codec : Codec α} (faithful : codec.Faithful)
    {toList : β → List (String × α)} {empty : β} {put : β → String → α → β}
    (rebuilds : ∀ values,
      (toList values).foldl (fun so (key, value) => put so key value) empty = values) :
    (entries codec toList empty put).Faithful := by
  intro values rest _
  have enough : (toList values).length < (separated ((freeMembers codec (toList values)).map
      memberText) ++ closeObject :: rest).length + 1 := by
    have bound := length_separated (freeMembers codec (toList values)) rest
    rwa [freeMembers, List.length_map] at bound
  have read := readMembers_all faithful put (toList values) empty rest enough
  rw [rebuilds] at read
  rw [entries_write]
  refine byFirst_cons (by decide) ?_
  rw [if_pos rfl]
  exact enclosed_endObject read

/-! ## Records -/

namespace Fields

variable {types : List Type}

/-- The names of the fields. -/
def names {types : List Type} : Fields types → List String
  | .nil => []
  | .cons field more => field.name :: more.names

/-- The values of all fields can be read back. -/
def Faithful {types : List Type} : Fields types → Prop
  | .nil => True
  | .cons field more => field.codec.Faithful ∧ more.Faithful

/-- Where the values of the fields were written, these are read. -/
def Yields {types : List Type} : Fields types → Values types → Values types → Prop
  | .nil, _, _ => True
  | .cons field more, (value, values), (found, others) =>
    field.codec.Yields value found ∧ more.Yields values others

/-- The members of a record: the names of its fields with the written values. -/
def told {types : List Type} : Fields types → Values types → List (String × List UInt8)
  | .nil, _ => []
  | .cons field more, (value, values) =>
    (field.name, field.codec.write value) :: more.told values

/-- The slots when so many fields were read. -/
def filled {types : List Type} : Nat → Fields types → Values types → Slots types
  | 0, fields, _ => fields.noSlots
  | _ + 1, .nil, _ => ()
  | count + 1, .cons _ more, (value, values) => (some value, filled count more values)

/-- The members of a record are its names and values as members. -/
theorem members_eq (fields : Fields types) (values : Values types) :
    fields.members values = (fields.told values).map memberText := by
  induction fields with
  | nil => rfl
  | cons field more ih =>
    obtain ⟨value, values⟩ := values
    exact congrArg (_ :: ·) (ih values)

/-- Every field has one member. -/
theorem names_told (fields : Fields types) (values : Values types) :
    (fields.told values).map (·.1) = fields.names := by
  induction fields with
  | nil => rfl
  | cons field more ih =>
    obtain ⟨value, values⟩ := values
    exact congrArg (_ :: ·) (ih values)

/-- The values of fields that are read back are. -/
theorem Faithful.yields {fields : Fields types} (faithful : fields.Faithful)
    (values : Values types) : fields.Yields values values := by
  induction fields with
  | nil => trivial
  | cons field more ih =>
    obtain ⟨value, values⟩ := values
    exact ⟨faithful.1 value, ih faithful.2 values⟩

/-- The value of the next field is read into the next slot. -/
theorem readMember_next (fields : Fields types) (distinct : fields.names.Nodup)
    {values found : Values types} (yields : fields.Yields values found) {count : Nat}
    {member : String × List UInt8} (next : (fields.told values)[count]? = some member)
    (delimited : Delimited rest) :
    fields.readMember member.1 (fields.filled count found) (colon :: (member.2 ++ rest)) =
      .ok (fields.filled (count + 1) found, rest) := by
  induction fields generalizing count with
  | nil => simp [told] at next
  | cons field more ih =>
    obtain ⟨value, values⟩ := values
    obtain ⟨first, found⟩ := found
    obtain ⟨fresh, distinct⟩ := List.nodup_cons.1 distinct
    cases count with
    | zero =>
      have same := Option.some.inj next
      rw [← same]
      change (if field.name = field.name then _ else _ : Reader _) _ = _
      rw [if_pos rfl]
      refine (Reader.bind_of_ok (readColon_cons _)).trans ?_
      refine (Reader.bind_of_ok (yields.1 rest delimited)).trans ?_
      cases more <;> rfl
    | succ count =>
      have isMore : member.1 ∈ more.names := by
        rw [← names_told more values]
        exact List.mem_map_of_mem (List.mem_of_getElem? next)
      have other : member.1 ≠ field.name := ne_of_mem_of_not_mem isMore fresh
      have read := ih distinct yields.2 next
      change (if member.1 = field.name then _ else _ : Reader _) _ = _
      rw [if_neg other]
      exact Reader.map_of_ok _ read

/-- Every field has one member, whatever its value. -/
theorem length_told (fields : Fields types) (values : Values types) :
    (fields.told values).length = fields.names.length := by
  rw [← fields.names_told values, List.length_map]

/-- When every slot is filled, the values of the fields are complete. -/
theorem complete_filled (fields : Fields types) (values : Values types) {count : Nat}
    (all : fields.names.length ≤ count) (text : List UInt8) :
    fields.complete (fields.filled count values) text = .ok (values, text) := by
  induction fields generalizing count with
  | nil => rfl
  | cons field more ih =>
    obtain ⟨value, values⟩ := values
    cases count with
    | zero => exact absurd all (Nat.not_succ_le_zero _)
    | succ count => exact Reader.map_of_ok _ (ih values (Nat.le_of_succ_le_succ all))

/-- After some members the others are read, up to the end of the object. -/
theorem readMembers_drop (fields : Fields types) (distinct : fields.names.Nodup)
    {values found : Values types} (yields : fields.Yields values found)
    {members : List (String × List UInt8)} {count rounds : Nat}
    (others : (fields.told values).drop count = members) (enough : members.length < rounds) :
    fields.readMembers rounds false (fields.filled count found) (moreMembers members rest) =
      .ok (found, closeObject :: rest) := by
  induction members generalizing count rounds with
  | nil =>
    obtain ⟨rounds, rfl⟩ := Nat.exists_eq_succ_of_ne_zero (Nat.ne_of_gt enough)
    change fields.readMembers (rounds + 1) false _ (closeObject :: rest) = _
    unfold readMembers
    rw [Reader.bind_of_ok (hasKey_closeObject false rest)]
    have all : fields.names.length ≤ count := by
      rw [← fields.length_told values]
      exact List.drop_eq_nil_iff.1 others
    exact fields.complete_filled found all _
  | cons member more ih =>
    obtain ⟨rounds, rfl⟩ := Nat.exists_eq_succ_of_ne_zero (Nat.ne_of_gt (Nat.zero_lt_of_lt enough))
    have next : (fields.told values)[count]? = some member := by
      rw [← List.head?_drop, others]
      rfl
    have later : (fields.told values).drop (count + 1) = more := by
      rw [← List.tail_drop, others]
      rfl
    have read := fields.readMember_next distinct yields next (delimited_moreMembers more rest)
    rw [moreMembers_cons]
    unfold readMembers
    rw [Reader.bind_of_ok (hasKey_next _ _), if_pos rfl, Reader.bind_of_ok (readKey_member _ _),
      Reader.bind_of_ok read]
    exact ih later (Nat.lt_of_succ_lt_succ enough)

/-- All members of a record are read, up to the end of the object. -/
theorem readMembers_told (fields : Fields types) (distinct : fields.names.Nodup)
    {values found : Values types} (yields : fields.Yields values found) (rest : List UInt8)
    {rounds : Nat} (enough : (fields.told values).length < rounds) :
    fields.readMembers rounds true fields.noSlots
        (separated ((fields.told values).map memberText) ++ closeObject :: rest) =
      .ok (found, closeObject :: rest) := by
  obtain ⟨rounds, rfl⟩ := Nat.exists_eq_succ_of_ne_zero (Nat.ne_of_gt (Nat.zero_lt_of_lt enough))
  have noSlots : fields.noSlots = fields.filled 0 found := by cases fields <;> rfl
  rw [noSlots]
  cases members : fields.told values with
  | nil =>
    change fields.readMembers (rounds + 1) true _ (closeObject :: rest) = _
    unfold readMembers
    rw [Reader.bind_of_ok (hasKey_closeObject true rest)]
    have all : fields.names.length ≤ 0 := by
      rw [← fields.length_told values, members]
      exact Nat.le_refl 0
    exact fields.complete_filled found all _
  | cons member more =>
    have next : (fields.told values)[0]? = some member := by rw [members]; rfl
    have later : (fields.told values).drop 1 = more := by rw [members]; rfl
    have read := fields.readMember_next distinct yields next (delimited_moreMembers more rest)
    rw [members] at enough
    rw [separated_members]
    unfold readMembers
    rw [Reader.bind_of_ok (hasKey_first _ _), if_pos rfl, Reader.bind_of_ok (readKey_member _ _),
      Reader.bind_of_ok read]
    exact fields.readMembers_drop distinct yields later (Nat.lt_of_succ_lt_succ enough)

end Fields

/-- A record is written as the members of its fields in braces. -/
theorem Record.write_append (record : Record α) (value : α) (rest : List UInt8) :
    record.codec.write value ++ rest = openObject ::
      (separated ((record.fields.told (record.unpack value)).map memberText) ++
        closeObject :: rest) := by
  change openObject :: separated (record.fields.members (record.unpack value)) ++
    [closeObject] ++ rest = _
  rw [Fields.members_eq]
  simp only [List.cons_append, List.append_assoc, List.nil_append]

/-- Where a record was written, the record of what its fields yield is read, when they have
different names. -/
theorem Record.codec_yields {record : Record α} {value found : α}
    (yields : record.fields.Yields (record.unpack value) (record.unpack found))
    (distinct : record.fields.names.Nodup) (packs : record.pack (record.unpack found) = found) :
    record.codec.Yields value found := by
  intro rest _
  have enough := length_separated (record.fields.told (record.unpack value)) rest
  have read := record.fields.readMembers_told distinct yields rest enough
  have mapped := Reader.map_of_ok record.pack (enclosed_endObject read)
  rw [packs] at mapped
  rw [record.write_append]
  refine byFirst_cons (by decide) ?_
  rw [if_pos rfl]
  exact mapped

/-- Records are read back, when their fields can be and have different names. -/
theorem Record.codec_faithful {record : Record α} (faithful : record.fields.Faithful)
    (distinct : record.fields.names.Nodup)
    (packs : ∀ value, record.pack (record.unpack value) = value) : record.codec.Faithful :=
  fun value => codec_yields (faithful.yields _) distinct (packs value)

end ReminderDispatch.Json
