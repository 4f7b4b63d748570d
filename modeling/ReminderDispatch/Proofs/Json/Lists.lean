import ReminderDispatch.Proofs.Json.Integers
import ReminderDispatch.Proofs.Json.Objects

/-!
# Names, optional values and lists on the wire

A name is read back as the value that it names. A value that may be lacking is told from null by its
first byte, and so is an element of a list from the end of the list.
-/

namespace ReminderDispatch.Json

variable {α : Type} {rest : List UInt8}

/-! ## Names -/

/-- Values that are found under their names are read back. -/
theorem named_faithful {values : List (String × α)} {name : α → String}
    (found : ∀ value, values.lookup (name value) = some value) : (named values name).Faithful := by
  intro value rest _
  have read : named.variant values (writeString (name value) ++ rest) = .ok (value, rest) :=
    readStringWith_written (by rw [found value]) rest
  change (peekToken >>= _) (writeString (name value) ++ rest) = _
  rw [writeString_append] at read ⊢
  rw [Reader.bind_of_ok (peekToken_cons (by decide))]
  dsimp only
  rw [if_pos rfl]
  exact read

/-! ## First bytes -/

/-- No value begins with a space or with a certain mark. -/
def Codec.Avoids (codec : Codec α) (mark : UInt8) : Prop :=
  ∀ value, ∃ first more, codec.write value = first :: more ∧ isSpace first = false ∧ first ≠ mark

/-- A number begins with a digit or with its sign. -/
theorem integer_avoids {wanted : String} {least greatest : Int} {wrap : Int → α}
    {unwrap : α → Int} {mark : UInt8} (noDigit : isDigit mark = false) (noSign : minus ≠ mark) :
    ((integer wanted least greatest).via wrap unwrap).Avoids mark := by
  intro value
  change ∃ first more, integerBytes (unwrap value) = first :: more ∧ _
  unfold integerBytes
  split
  · exact ⟨minus, naturalBytes (unwrap value).natAbs, rfl, rfl, noSign⟩
  · obtain ⟨b, more, digits⟩ := List.exists_cons_of_ne_nil
      (naturalBytes_ne_nil (unwrap value).natAbs)
    have digit : isDigit b = true := isDigit_of_mem_naturalBytes (digits ▸ List.mem_cons_self)
    refine ⟨b, more, digits, notSpace_of_isDigit digit, ?_⟩
    rintro rfl
    rw [noDigit] at digit
    contradiction

/-- The first byte of a value is seen at once. -/
theorem Codec.Avoids.peek {codec : Codec α} {mark : UInt8} (avoids : codec.Avoids mark) (value : α)
    (rest : List UInt8) :
    ∃ first, first ≠ mark ∧
      peekToken (codec.write value ++ rest) = .ok (some first, codec.write value ++ rest) := by
  obtain ⟨first, more, written, notSpace, other⟩ := avoids value
  refine ⟨first, other, ?_⟩
  rw [written, List.cons_append]
  exact peekToken_cons notSpace

/-! ## Optional values -/

/-- A value that may be lacking is read like the value, when that does not begin like null. -/
theorem optional_yields {codec : Codec α} {value found : α} (yields : codec.Yields value found)
    (avoids : codec.Avoids 0x6e) : (optional codec).Yields (some value) (some found) := by
  intro rest delimited
  obtain ⟨first, other, peeked⟩ := avoids.peek value rest
  have read := Reader.map_of_ok some (yields rest delimited)
  change (peekToken >>= _) (codec.write value ++ rest) = _
  rw [Reader.bind_of_ok peeked]
  refine (congrFun ?_ (codec.write value ++ rest)).trans read
  split
  · next isNull => exact absurd (Option.some.inj isNull) other
  · rfl

/-- A value that is lacking is read back. -/
theorem optional_yields_none (codec : Codec α) : (optional codec).Yields none none := by
  intro rest _
  change (peekToken >>= _) (0x6e :: 0x75 :: 0x6c :: 0x6c :: rest) = _
  rw [Reader.bind_of_ok (peekToken_cons (by decide))]
  cases rest <;> rfl

/-! ## Lists -/

/-- Elements after others, each with a comma before it, up to the end of the list. -/
def moreElements (codec : Codec α) (values : List α) (rest : List UInt8) : List UInt8 :=
  values.flatMap (fun value => comma :: codec.write value) ++ closeList :: rest

/-- An element stands behind a comma before the others. -/
theorem moreElements_cons (codec : Codec α) (value : α) (more : List α) (rest : List UInt8) :
    moreElements codec (value :: more) rest =
      comma :: (codec.write value ++ moreElements codec more rest) := by
  simp [moreElements]

/-- The elements of a list up to its end. -/
theorem separated_elements (codec : Codec α) (value : α) (more : List α) (rest : List UInt8) :
    separated ((value :: more).map codec.write) ++ closeList :: rest =
      codec.write value ++ moreElements codec more rest := by
  unfold moreElements
  rw [List.map_cons, separated_cons, List.append_assoc, List.flatMap_map]

/-- What follows an element delimits it. -/
theorem delimited_moreElements (codec : Codec α) (values : List α) (rest : List UInt8) :
    Delimited (moreElements codec values rest) := by
  cases values with
  | nil => rfl
  | cons value more =>
    rw [moreElements_cons]
    exact delimited_comma _

/-- There are at least as many bytes as elements. -/
theorem length_moreElements (codec : Codec α) (values : List α) (rest : List UInt8) :
    values.length < (moreElements codec values rest).length := by
  induction values with
  | nil => simp [moreElements]
  | cons value more ih =>
    rw [moreElements_cons, List.length_cons, List.length_cons, List.length_append]
    omega

/-- There is no element at the end of a list. -/
theorem hasElement_closeList (isFirst : Bool) (rest : List UInt8) :
    hasElement isFirst (closeList :: rest) = .ok (false, closeList :: rest) := by
  unfold hasElement
  rw [Reader.bind_of_ok (peekToken_cons (by decide))]
  rfl

/-- There is a first element. -/
theorem Codec.Avoids.hasElement_first {codec : Codec α} (avoids : codec.Avoids closeList)
    (value : α) (rest : List UInt8) :
    hasElement true (codec.write value ++ rest) = .ok (true, codec.write value ++ rest) := by
  obtain ⟨first, other, peeked⟩ := avoids.peek value rest
  unfold hasElement
  rw [Reader.bind_of_ok peeked]
  dsimp only
  rw [if_neg other, if_pos rfl]
  rfl

/-- There is another element after a comma. -/
theorem Codec.Avoids.hasElement_next {codec : Codec α} (avoids : codec.Avoids closeList)
    (value : α) (rest : List UInt8) :
    hasElement false (comma :: (codec.write value ++ rest)) =
      .ok (true, codec.write value ++ rest) := by
  obtain ⟨first, other, peeked⟩ := avoids.peek value rest
  have passed : advance (comma :: (codec.write value ++ rest)) =
      .ok ((), codec.write value ++ rest) := rfl
  unfold hasElement
  rw [Reader.bind_of_ok (peekToken_cons (by decide))]
  dsimp only
  rw [if_neg (by decide), if_neg (by decide), if_pos rfl, Reader.bind_of_ok passed,
    Reader.bind_of_ok peeked]
  dsimp only
  rw [if_neg other]
  rfl

/-- The elements after others are read up to the end of the list. -/
theorem readElements_more {codec : Codec α} (faithful : codec.Faithful)
    (avoids : codec.Avoids closeList) (values : List α) (rest : List UInt8) {rounds : Nat}
    (enough : values.length < rounds) :
    readElements codec.read rounds false (moreElements codec values rest) =
      .ok (values, closeList :: rest) := by
  induction values generalizing rounds with
  | nil =>
    obtain ⟨rounds, rfl⟩ := Nat.exists_eq_succ_of_ne_zero (Nat.ne_of_gt enough)
    change readElements codec.read (rounds + 1) false (closeList :: rest) = _
    unfold readElements
    rw [Reader.bind_of_ok (hasElement_closeList false rest)]
    rfl
  | cons value more ih =>
    obtain ⟨rounds, rfl⟩ := Nat.exists_eq_succ_of_ne_zero (Nat.ne_of_gt (Nat.zero_lt_of_lt enough))
    have delimited := delimited_moreElements codec more rest
    have others := ih (Nat.lt_of_succ_lt_succ enough)
    rw [moreElements_cons]
    unfold readElements
    rw [Reader.bind_of_ok (avoids.hasElement_next value _), if_pos rfl,
      Reader.bind_of_ok (faithful value _ delimited), Reader.bind_of_ok others]
    rfl

/-- All elements of a list are read, up to its end. -/
theorem readElements_all {codec : Codec α} (faithful : codec.Faithful)
    (avoids : codec.Avoids closeList) (values : List α) (rest : List UInt8) :
    readElements codec.read
        ((separated (values.map codec.write) ++ closeList :: rest).length + 1) true
        (separated (values.map codec.write) ++ closeList :: rest) =
      .ok (values, closeList :: rest) := by
  cases values with
  | nil =>
    change readElements codec.read _ true (closeList :: rest) = _
    unfold readElements
    rw [Reader.bind_of_ok (hasElement_closeList true rest)]
    rfl
  | cons value more =>
    have delimited := delimited_moreElements codec more rest
    have atLeast := length_moreElements codec more rest
    have enough : more.length < (codec.write value ++ moreElements codec more rest).length := by
      rw [List.length_append]
      omega
    have others := readElements_more faithful avoids more rest enough
    rw [separated_elements]
    unfold readElements
    rw [Reader.bind_of_ok (avoids.hasElement_first value _), if_pos rfl,
      Reader.bind_of_ok (faithful value _ delimited), Reader.bind_of_ok others]
    rfl

/-- What stands in brackets is read up to the closing one. -/
theorem enclosed_endList {inside : Reader α} {text : List UInt8} {value : α}
    (read : inside text = .ok (value, closeList :: rest)) :
    enclosed endList inside text = .ok (value, rest) := by
  have ends : endList (closeList :: rest) = (none, rest) := by
    unfold endList
    rw [skipSpace_cons (by decide)]
    rfl
  unfold enclosed
  rw [read]
  dsimp only
  rw [ends]

/-- Lists are read back, when no element begins like the end of a list. -/
theorem list_faithful {codec : Codec α} (faithful : codec.Faithful)
    (avoids : codec.Avoids closeList) : (list codec).Faithful := by
  intro values rest _
  have text : (list codec).write values ++ rest =
      openList :: (separated (values.map codec.write) ++ closeList :: rest) := by
    simp [list]
  rw [text]
  refine byFirst_cons (by decide) ?_
  rw [if_pos rfl]
  exact enclosed_endList (readElements_all faithful avoids values rest)

end ReminderDispatch.Json
