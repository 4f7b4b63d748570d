import ReminderDispatch.Json.Codec

/-!
# Readers on written texts

How readers pass over a text whose front is known. A written value stands before the end of the text
or before a byte that separates or closes; a codec is faithful when it reads a value that it wrote
there and leaves what follows. Some values have the text of another one, and that one is read.
-/

namespace ReminderDispatch.Json

variable {α β : Type} {text rest : List UInt8} {b : UInt8} {value : α}

namespace Reader

/-- A reader goes on from where the one before it stopped. -/
theorem bind_of_ok {reader : Reader α} {next : α → Reader β}
    (read : reader text = .ok (value, rest)) :
    (reader >>= next) text = next value rest := by
  change (reader text >>= fun found => next found.1 found.2) = _
  rw [read]
  rfl

/-- A reader of another form of a value stops where the value stops. -/
theorem map_of_ok {reader : Reader α} (change : α → β) (read : reader text = .ok (value, rest)) :
    (change <$> reader) text = .ok (change value, rest) := by
  change (reader text >>= fun found => Except.ok (change found.1, found.2)) = _
  rw [read]
  rfl

/-- Where a reader fails, nothing after it is read. -/
theorem bind_of_error {reader : Reader α} {next : α → Reader β} {fault : Fault}
    (read : reader text = .error fault) : (reader >>= next) text = .error fault := by
  change (reader text >>= fun found => next found.1 found.2) = _
  rw [read]
  rfl

/-- A reader of another form of a value fails where the value cannot be read. -/
theorem map_of_error {reader : Reader α} (change : α → β) {fault : Fault}
    (read : reader text = .error fault) : (change <$> reader) text = .error fault := by
  change (reader text >>= fun found => Except.ok (change found.1, found.2)) = _
  rw [read]
  rfl

end Reader

/-- Nothing is skipped before a byte that is no space. -/
theorem skipSpace_cons (notSpace : isSpace b = false) : skipSpace (b :: rest) = b :: rest := by
  unfold skipSpace
  rw [List.dropWhile_cons_of_neg (by simp [notSpace])]

/-- A byte that is no space is seen at once. -/
theorem peekToken_cons (notSpace : isSpace b = false) :
    peekToken (b :: rest) = .ok (some b, b :: rest) := by
  unfold peekToken
  rw [skipSpace_cons notSpace]
  rfl

/-- A value is read by its first byte, and a loose fault is placed where reading stops. -/
theorem byFirst_eq (notSpace : isSpace b = false) (reader : UInt8 → Reader α) :
    byFirst reader (b :: text) = settled (reader b) (b :: text) := by
  unfold byFirst
  rw [Reader.bind_of_ok (peekToken_cons notSpace)]

/-- A value is read by its first byte. -/
theorem byFirst_cons (notSpace : isSpace b = false) {reader : UInt8 → Reader α}
    (read : reader b (b :: text) = .ok (value, rest)) :
    byFirst reader (b :: text) = .ok (value, rest) := by
  rw [byFirst_eq notSpace]
  unfold settled
  rw [read]

/-- A colon is passed. -/
theorem readColon_cons (rest : List UInt8) : readColon (colon :: rest) = .ok ((), rest) := by
  unfold readColon
  rw [Reader.bind_of_ok (peekToken_cons (by decide))]
  rfl

/-- What follows a written value: nothing, or a byte that separates or closes. -/
def Delimited (rest : List UInt8) : Prop :=
  rest.head?.all fun b => b == comma || b == closeObject || b == closeList

/-- The end of a text delimits. -/
theorem delimited_nil : Delimited [] := rfl

/-- A comma delimits. -/
theorem delimited_comma (rest : List UInt8) : Delimited (comma :: rest) := rfl

/-- The end of an object delimits. -/
theorem delimited_closeObject (rest : List UInt8) : Delimited (closeObject :: rest) := rfl

/-- Where a value was written before a delimiter, this one is read. -/
def Codec.Yields (codec : Codec α) (value found : α) : Prop :=
  ∀ rest, Delimited rest → codec.read (codec.write value ++ rest) = .ok (found, rest)

/-- Every value that was written is read back. -/
def Codec.Faithful (codec : Codec α) : Prop := ∀ value, codec.Yields value value

/-- The text of a value is read as the value that it yields. -/
theorem Codec.Yields.readAll_write {codec : Codec α} {found : α} (yields : codec.Yields value found) :
    codec.readAll (codec.write value) = .ok found := by
  have read := yields [] delimited_nil
  rw [List.append_nil] at read
  unfold readAll
  dsimp only
  rw [Reader.bind_of_ok read]
  rfl

/-- A faithful codec reads a text that it wrote. -/
theorem Codec.Faithful.readAll_write {codec : Codec α} (faithful : codec.Faithful) (value : α) :
    codec.readAll (codec.write value) = .ok value :=
  (faithful value).readAll_write

/-- A faithful codec of values under different names. -/
theorem Codec.Faithful.via {codec : Codec α} (faithful : codec.Faithful) {wrap : α → β}
    {unwrap : β → α} (wraps : ∀ value, wrap (unwrap value) = value) :
    (codec.via wrap unwrap).Faithful := by
  intro value rest delimited
  have read := faithful (unwrap value) rest delimited
  have mapped := Reader.map_of_ok wrap read
  rw [wraps value] at mapped
  exact mapped

end ReminderDispatch.Json
