import ReminderDispatch.Proofs.Json.Integers
import ReminderDispatch.Proofs.Json.Objects

/-!
# Passing over written values

The value of a member that nobody asks for is passed over up to what follows it. This is so for
every string, every integer and every object whose values are of such a kind: strings are passed
byte by byte together with their escapes, integers digit by digit, and objects member by member.

So a record is never read from the text of a record that shares no key with it: all members are
passed over, and then a field is missing.
-/

namespace ReminderDispatch.Json

variable {α : Type} {text rest written : List UInt8}

/-- A written value is passed over wherever it stands before a delimiter. -/
def Codec.Skippable (codec : Codec α) : Prop :=
  ∀ value rest, Delimited rest → skipValue (codec.write value ++ rest) = .ok ((), rest)

/-- The value is passed over as one that is neither list nor object. -/
def IsScalar (written : List UInt8) : Prop :=
  ∃ first more, written = first :: more ∧ isSpace first = false ∧ first ≠ openList ∧
    first ≠ openObject ∧
    ∀ rest, Delimited rest → skipScalar first (first :: more ++ rest) = .ok ((), rest)

/-! ## Strings -/

/-- Every byte of a string is passed in the form in which it is written. -/
theorem skipString_escapeByte (b : UInt8) (more : List UInt8) :
    skipString (escapeByte b ++ more) = skipString more := by
  have short : ∀ letter, (shortEscape? letter).isSome = true →
      skipString (backslash :: letter :: more) = skipString more := by
    intro letter means
    rw [skipString, if_neg (by decide), if_pos rfl]
    simp only [skipEscape, means, if_true, bind, Except.bind]
  unfold escapeByte
  split_ifs with isQuote isBackslash isPlain isBack isFeed isLine isReturn isTab
  · exact short quoteMark (by decide)
  · exact short backslash (by decide)
  · have notControl : ¬ b < 0x20 := UInt8.not_lt.2 isPlain
    change skipString (b :: more) = _
    rw [skipString, if_neg isQuote, if_neg isBackslash, if_neg notControl]
  · exact short 0x62 (by decide)
  · exact short 0x66 (by decide)
  · exact short 0x6e (by decide)
  · exact short 0x72 (by decide)
  · exact short 0x74 (by decide)
  · have control : b < 0x20 := UInt8.not_le.1 isPlain
    have small : b.toNat < 32 := control
    have high := hexValue?_hexByte (b.toNat / 16) (by omega)
    have low := hexValue?_hexByte (b.toNat % 16) (by omega)
    have zero : hexValue? 0x30 = some 0 := by decide
    have noShort : (shortEscape? 0x75).isSome = false := by decide
    change skipString (backslash :: 0x75 :: 0x30 :: 0x30 :: _ :: _ :: more) = _
    rw [skipString, if_neg (by decide), if_pos rfl]
    simp only [skipEscape, noShort, hexUnit, zero, high, low, Except.map, bind, Except.bind,
      Bool.false_eq_true, if_false, if_true]

/-- A string is passed up to its closing quote. -/
theorem skipString_escaped (bytes rest : List UInt8) :
    skipString (bytes.flatMap escapeByte ++ quoteMark :: rest) = .ok ((), rest) := by
  induction bytes with
  | nil =>
    change skipString (quoteMark :: rest) = _
    rw [skipString, if_pos rfl]
  | cons b more ih =>
    rw [List.flatMap_cons, List.append_assoc, skipString_escapeByte]
    exact ih

/-- A written string is passed over as a scalar. -/
theorem isScalar_writeString (string : String) : IsScalar (writeString string) := by
  refine ⟨quoteMark, _, rfl, by decide, by decide, by decide, fun rest _ => ?_⟩
  have passed := skipString_escaped (Text.bytes string) rest
  change skipScalar quoteMark (writeString string ++ rest) = _
  rw [writeString_append]
  exact passed

/-- A key is passed together with its colon. -/
theorem skipKey_written (key : String) (rest : List UInt8) :
    skipKey (writeString key ++ colon :: rest) = .ok ((), rest) := by
  have passed := skipString_escaped (Text.bytes key) (colon :: rest)
  rw [writeString_append]
  unfold skipKey
  rw [Reader.bind_of_ok (peekToken_cons (by decide))]
  dsimp only
  rw [if_pos rfl]
  have advanced : ∀ text, advance (quoteMark :: text) = .ok ((), text) := fun _ => rfl
  rw [Reader.bind_of_ok (advanced _), Reader.bind_of_ok passed]
  exact readColon_cons rest

/-! ## Integers -/

/-- Nothing more is passed after the digits of a written integer. -/
theorem skipTail_delimited (delimited : Delimited rest) :
    (do
      let next ← peek
      if next == some point then skipFraction
      else if next.any isExponentMark then skipExponent : Reader Unit) rest = .ok ((), rest) := by
  obtain ⟨noPoint, noExponent⟩ := delimited.peek
  have peeked : peek rest = .ok (rest.head?, rest) := rfl
  rw [Reader.bind_of_ok peeked]
  simp only [noPoint, noExponent, Bool.false_eq_true, if_false]
  rfl

/-- The digits of a numeral are passed, and nothing after them. -/
theorem skipNumeral_naturalBytes (n : Nat) (delimited : Delimited rest) :
    skipNumeral (naturalBytes n ++ rest) = .ok ((), rest) := by
  have ends := skipTail_delimited delimited
  have advanced : ∀ (b : UInt8) (text : List UInt8), advance (b :: text) = .ok ((), text) :=
    fun _ _ => rfl
  have peeked : ∀ (b : UInt8) (text : List UInt8), peek (b :: text) = .ok (some b, b :: text) :=
    fun _ _ => rfl
  unfold skipNumeral
  rcases Nat.eq_zero_or_pos n with rfl | positive
  · -- A zero stands alone: no digit follows it.
    have digits : naturalBytes 0 = [0x30] := by decide
    rw [digits, List.singleton_append, Reader.bind_of_ok (peeked _ _)]
    dsimp only
    rw [Reader.bind_of_ok (advanced _ _), if_pos rfl]
    cases rest with
    | nil => exact ends
    | cons b more =>
      have noDigit : isDigit b = false := (delimited.head rfl).1
      rw [Reader.bind_of_ok (peeked _ _)]
      dsimp only
      rw [noDigit]
      exact ends
  · obtain ⟨b, more, digits, notZero, digit⟩ := naturalBytes_cons positive
    have all : ∀ other ∈ more, isDigit other = true := fun other member =>
      isDigit_of_mem_naturalBytes (n := n) (digits ▸ List.mem_cons_of_mem b member)
    rw [digits, List.cons_append, Reader.bind_of_ok (peeked _ _)]
    dsimp only
    rw [Reader.bind_of_ok (advanced _ _), if_neg notZero, digit, if_pos rfl,
      Reader.bind_of_ok (takeDigits_append all delimited)]
    exact ends

/-- A written integer is passed over as a scalar. -/
theorem isScalar_integerBytes (n : Int) : IsScalar (integerBytes n) := by
  unfold integerBytes
  split_ifs with negative
  · refine ⟨minus, _, rfl, by decide, by decide, by decide, fun rest delimited => ?_⟩
    exact skipNumeral_naturalBytes n.natAbs delimited
  · obtain ⟨b, more, digits⟩ := List.exists_cons_of_ne_nil (naturalBytes_ne_nil n.natAbs)
    have digit : isDigit b = true := isDigit_of_mem_naturalBytes (digits ▸ List.mem_cons_self)
    have other : ∀ mark, isDigit mark = false → b ≠ mark := by
      rintro mark noDigit rfl
      rw [noDigit] at digit
      contradiction
    refine ⟨b, more, digits, notSpace_of_isDigit digit, other _ (by decide), other _ (by decide),
      fun rest delimited => ?_⟩
    have passed := skipNumeral_naturalBytes n.natAbs delimited
    rw [digits] at passed
    unfold skipScalar
    rw [if_neg (other _ (by decide)), if_neg (other _ (by decide)), if_neg (other _ (by decide)),
      if_neg (other _ (by decide)), if_neg (other _ (by decide)), digit, if_pos rfl]
    exact passed

/-! ## Objects -/

/-- How values are passed on after one of them: the ends of brackets, and what stands behind them.
-/
def skipAfter (rounds : Nat) (brackets : List Bracket) : Reader Unit := do
  let next ← skipEnds true brackets
  if next.isEmpty then pure () else skipRounds rounds next

/-- When no bracket is open, nothing is left to pass. -/
theorem skipAfter_closed (rounds : Nat) (rest : List UInt8) :
    skipAfter rounds [] rest = .ok ((), rest) := rfl

/-- One round passes a scalar. -/
theorem skipRounds_scalar (scalar : IsScalar written) (delimited : Delimited rest) (rounds : Nat)
    (brackets : List Bracket) :
    skipRounds (rounds + 1) brackets (written ++ rest) = skipAfter rounds brackets rest := by
  obtain ⟨first, more, rfl, notSpace, notList, notObject, passed⟩ := scalar
  unfold skipRounds
  rw [List.cons_append, Reader.bind_of_ok (peekToken_cons notSpace)]
  dsimp only
  rw [if_neg notList, if_neg notObject, ← List.cons_append,
    Reader.bind_of_ok (passed rest delimited)]
  rfl

/-- The end of an object closes its bracket. -/
theorem skipEnds_closeObject (afterValue : Bool) (outer : List Bracket) (rest : List UInt8) :
    skipEnds afterValue (.object :: outer) (closeObject :: rest) = skipEnds true outer rest := by
  rw [skipEnds, Reader.bind_of_ok (peekToken_cons (by decide))]
  rfl

/-- The key of a member is passed up to the value. -/
theorem skipKey_member (member : String × List UInt8) (rest : List UInt8) :
    skipKey (memberText member ++ rest) = .ok ((), member.2 ++ rest) := by
  rw [memberText_append]
  exact skipKey_written _ _

/-- A first member is begun. -/
theorem skipEnds_first (member : String × List UInt8) (rest : List UInt8) (outer : List Bracket) :
    skipEnds false (.object :: outer) (memberText member ++ rest) =
      .ok (.object :: outer, member.2 ++ rest) := by
  have key := skipKey_member member rest
  rw [memberText_append, writeString_append] at key ⊢
  rw [skipEnds, Reader.bind_of_ok (peekToken_cons (by decide))]
  dsimp only
  rw [if_neg (by decide)]
  exact Reader.bind_of_ok key

/-- Another member is begun after a comma. -/
theorem skipEnds_next (member : String × List UInt8) (rest : List UInt8) (outer : List Bracket) :
    skipEnds true (.object :: outer) (comma :: (memberText member ++ rest)) =
      .ok (.object :: outer, member.2 ++ rest) := by
  have key := skipKey_member member rest
  have advanced : ∀ text, advance (comma :: text) = .ok ((), text) := fun _ => rfl
  rw [skipEnds, Reader.bind_of_ok (peekToken_cons (by decide))]
  dsimp only
  rw [if_neg (by decide)]
  exact (Reader.bind_of_ok (advanced _)).trans (Reader.bind_of_ok key)

/-- After some members of an object whose values are scalars the others are passed, and the end of
the object. -/
theorem skipAfter_members {members : List (String × List UInt8)}
    (scalars : ∀ member ∈ members, IsScalar member.2) {rounds : Nat}
    (enough : members.length ≤ rounds) :
    skipAfter rounds [.object] (moreMembers members rest) = .ok ((), rest) := by
  induction members generalizing rounds with
  | nil =>
    have closed : skipEnds true [.object] (closeObject :: rest) = .ok ([], rest) :=
      skipEnds_closeObject true [] rest
    change skipAfter rounds [.object] (closeObject :: rest) = _
    unfold skipAfter
    rw [Reader.bind_of_ok closed]
    rfl
  | cons member more ih =>
    obtain ⟨rounds, rfl⟩ := Nat.exists_eq_succ_of_ne_zero (Nat.ne_of_gt (Nat.zero_lt_of_lt enough))
    have scalar : IsScalar member.2 := scalars member List.mem_cons_self
    have others : ∀ other ∈ more, IsScalar other.2 := fun other isMore =>
      scalars other (List.mem_cons_of_mem _ isMore)
    rw [moreMembers_cons]
    unfold skipAfter
    rw [Reader.bind_of_ok (skipEnds_next member _ [])]
    change skipRounds (rounds + 1) [.object] (member.2 ++ moreMembers more rest) = _
    rw [skipRounds_scalar scalar (delimited_moreMembers more rest)]
    exact ih others (Nat.le_of_succ_le_succ enough)

/-- An object whose values are scalars is passed. -/
theorem skipValue_object {members : List (String × List UInt8)}
    (scalars : ∀ member ∈ members, IsScalar member.2) (rest : List UInt8) :
    skipValue (openObject :: (separated (members.map memberText) ++ closeObject :: rest)) =
      .ok ((), rest) := by
  have advanced : ∀ text, advance (openObject :: text) = .ok ((), text) := fun _ => rfl
  unfold skipValue skipRounds
  rw [Reader.bind_of_ok (peekToken_cons (by decide))]
  dsimp only
  rw [if_neg (by decide), if_pos rfl, Reader.bind_of_ok (advanced _)]
  cases members with
  | nil =>
    have closed : skipEnds false [.object] (closeObject :: rest) = .ok ([], rest) :=
      skipEnds_closeObject false [] rest
    change (skipEnds false [.object] >>= _) (closeObject :: rest) = _
    rw [Reader.bind_of_ok closed]
    rfl
  | cons member more =>
    have scalar : IsScalar member.2 := scalars member List.mem_cons_self
    have others : ∀ other ∈ more, IsScalar other.2 := fun other isMore =>
      scalars other (List.mem_cons_of_mem _ isMore)
    have enough := length_moreMembers more rest
    rw [separated_members, Reader.bind_of_ok (skipEnds_first member _ [])]
    change skipRounds (memberText member ++ moreMembers more rest).length.succ [.object]
      (member.2 ++ moreMembers more rest) = _
    rw [skipRounds_scalar scalar (delimited_moreMembers more rest)]
    apply skipAfter_members others
    rw [List.length_append]
    omega

/-! ## Codecs -/

/-- A codec that writes scalars can be passed over. -/
theorem Codec.skippable_of_isScalar {codec : Codec α}
    (scalars : ∀ value, IsScalar (codec.write value)) : codec.Skippable := by
  intro value rest delimited
  unfold skipValue
  rw [skipRounds_scalar (scalars value) delimited]
  exact skipAfter_closed _ rest

/-- Strings can be passed over. -/
theorem string_skippable : string.Skippable := Codec.skippable_of_isScalar isScalar_writeString

/-- Objects with free keys can be passed over if their values are scalars. -/
theorem entries_skippable {β : Type} {codec : Codec α}
    (scalars : ∀ value, IsScalar (codec.write value)) (toList : β → List (String × α)) (empty : β)
    (put : β → String → α → β) :
    (entries codec toList empty put).Skippable := by
  intro values rest _
  rw [entries_write]
  apply skipValue_object
  intro member isMember
  obtain ⟨entry, -, rfl⟩ := List.mem_map.1 isMember
  exact scalars entry.2

/-! ## Members that nobody asks for -/

namespace Fields

variable {types : List Type}

/-- The written values of all fields can be passed over. -/
def Skippable {types : List Type} : Fields types → Prop
  | .nil => True
  | .cons field more => field.codec.Skippable ∧ more.Skippable

/-- No field has the key of a member, and the values of all members can be passed over. -/
def Strange (fields : Fields types) (members : List (String × List UInt8)) : Prop :=
  ∀ member ∈ members, member.1 ∉ fields.names ∧
    ∀ rest, Delimited rest → skipValue (member.2 ++ rest) = .ok ((), rest)

/-- The members of a record are strange to fields with other names. -/
theorem Skippable.strange {others : List Type} {fields : Fields types} {told : Fields others}
    (skippable : told.Skippable) (values : Values others)
    (disjoint : ∀ name ∈ told.names, name ∉ fields.names) :
    fields.Strange (told.told values) := by
  induction told with
  | nil => exact fun member isMember => absurd isMember List.not_mem_nil
  | cons field more ih =>
    obtain ⟨value, values⟩ := values
    intro member isMember
    rcases List.mem_cons.1 isMember with rfl | isMore
    · exact ⟨disjoint _ List.mem_cons_self, skippable.1 value⟩
    · have others : ∀ name ∈ more.names, name ∉ fields.names := fun name isName =>
        disjoint name (List.mem_cons_of_mem _ isName)
      exact ih skippable.2 values others member isMore

/-- The value of a key that no field has is passed, and the slots stay as they are. -/
theorem readMember_strange (fields : Fields types) (slots : Slots types)
    {member : String × List UInt8} (strange : member.1 ∉ fields.names)
    (passed : skipValue (member.2 ++ rest) = .ok ((), rest)) :
    fields.readMember member.1 slots (colon :: (member.2 ++ rest)) = .ok (slots, rest) := by
  induction fields with
  | nil => exact (Reader.bind_of_ok (readColon_cons _)).trans passed
  | cons field more ih =>
    obtain ⟨slot, slots⟩ := slots
    obtain ⟨other, notMore⟩ := not_or.1 (mt List.mem_cons.2 strange)
    change (if member.1 = field.name then _ else _ : Reader _) _ = _
    rw [if_neg other]
    exact Reader.map_of_ok _ (ih slots notMore)

/-- After strange members the fields are completed from what was read before. -/
theorem readMembers_moreStrange (fields : Fields types) (slots : Slots types)
    {members : List (String × List UInt8)} (strange : fields.Strange members) {rounds : Nat}
    (enough : members.length < rounds) :
    fields.readMembers rounds false slots (moreMembers members rest) =
      fields.complete slots (closeObject :: rest) := by
  induction members generalizing rounds with
  | nil =>
    obtain ⟨rounds, rfl⟩ := Nat.exists_eq_succ_of_ne_zero (Nat.ne_of_gt enough)
    change fields.readMembers (rounds + 1) false slots (closeObject :: rest) = _
    unfold readMembers
    rw [Reader.bind_of_ok (hasKey_closeObject false rest)]
    rfl
  | cons member more ih =>
    obtain ⟨rounds, rfl⟩ := Nat.exists_eq_succ_of_ne_zero (Nat.ne_of_gt (Nat.zero_lt_of_lt enough))
    obtain ⟨other, passed⟩ := strange member List.mem_cons_self
    have others : fields.Strange more := fun next isMore =>
      strange next (List.mem_cons_of_mem _ isMore)
    have read := fields.readMember_strange slots other (passed _ (delimited_moreMembers more rest))
    rw [moreMembers_cons]
    unfold readMembers
    rw [Reader.bind_of_ok (hasKey_next _ _), if_pos rfl, Reader.bind_of_ok (readKey_member _ _),
      Reader.bind_of_ok read]
    exact ih others (Nat.lt_of_succ_lt_succ enough)

/-- From an object of strange members the fields are completed without any value. -/
theorem readMembers_strange (fields : Fields types) (slots : Slots types)
    {members : List (String × List UInt8)} (strange : fields.Strange members) (rest : List UInt8)
    {rounds : Nat} (enough : members.length < rounds) :
    fields.readMembers rounds true slots
        (separated (members.map memberText) ++ closeObject :: rest) =
      fields.complete slots (closeObject :: rest) := by
  obtain ⟨rounds, rfl⟩ := Nat.exists_eq_succ_of_ne_zero (Nat.ne_of_gt (Nat.zero_lt_of_lt enough))
  cases members with
  | nil =>
    change fields.readMembers (rounds + 1) true slots (closeObject :: rest) = _
    unfold readMembers
    rw [Reader.bind_of_ok (hasKey_closeObject true rest)]
    rfl
  | cons member more =>
    obtain ⟨other, passed⟩ := strange member List.mem_cons_self
    have others : fields.Strange more := fun next isMore =>
      strange next (List.mem_cons_of_mem _ isMore)
    have read := fields.readMember_strange slots other (passed _ (delimited_moreMembers more rest))
    rw [separated_members]
    unfold readMembers
    rw [Reader.bind_of_ok (hasKey_first _ _), if_pos rfl, Reader.bind_of_ok (readKey_member _ _),
      Reader.bind_of_ok read]
    exact fields.readMembers_moreStrange slots others (Nat.lt_of_succ_lt_succ enough)

end Fields

/-- A loose fault inside of braces is placed. -/
theorem enclosed_loose {inside : Reader α} {cause : Cause}
    (read : inside text = .error (.loose cause rest)) :
    enclosed endObject inside text = .error (.placed cause (endObject rest).2.length) := by
  unfold enclosed
  rw [read]

/-- A record that needs a field is not read from the text of a record without common keys: at the
end of the text the field is missing. -/
theorem Record.readAll_strange {β : Type} {record : Record α} {other : Record β}
    (skippable : other.fields.Skippable)
    (disjoint : ∀ name ∈ other.fields.names, name ∉ record.fields.names) {name : String}
    (lacks : ∀ text, record.fields.complete record.fields.noSlots text =
      .error (.loose (.missingField name) text)) (value : β) :
    record.codec.readAll (other.codec.write value) =
      .error (refusalAt (.missingField name) (other.codec.write value) 0) := by
  have strange := skippable.strange (other.unpack value) disjoint
  have enough := length_separated (other.fields.told (other.unpack value)) []
  have members := record.fields.readMembers_strange record.fields.noSlots strange [] enough
  rw [lacks] at members
  have refused : (record.pack <$> enclosed endObject fun text =>
      record.fields.readMembers (text.length + 1) true record.fields.noSlots text)
      (separated ((other.fields.told (other.unpack value)).map memberText) ++ [closeObject]) =
      .error (.placed (.missingField name) 0) :=
    Reader.map_of_error record.pack (enclosed_loose members)
  have written := other.write_append value []
  rw [List.append_nil] at written
  have read : record.codec.read (other.codec.write value) =
      .error (.placed (.missingField name) 0) := by
    rw [written]
    refine (byFirst_eq (by decide) _).trans ?_
    unfold settled
    have advanced : ∀ text, advance (openObject :: text) = .ok ((), text) := fun _ => rfl
    rw [if_pos rfl, Reader.bind_of_ok (advanced _), refused]
  unfold Codec.readAll
  dsimp only
  rw [Reader.bind_of_error read]
  rfl

end ReminderDispatch.Json
