/-!
# Bytes of texts

A text as its UTF-8 bytes. Reading the bytes of a text returns it, and bytes that are not
well-formed UTF-8 are refused, with the place at which they stop being so.
-/

namespace ReminderDispatch.Text

/-- The UTF-8 bytes of a text. -/
def bytes (text : String) : List UInt8 := text.toByteArray.data.toList

/-- The text of some bytes, if they are well-formed UTF-8. -/
def ofBytes? (bytes : List UInt8) : Option String := String.fromUTF8? ⟨bytes.toArray⟩

/-- The length of the longest front that is well-formed. -/
def wellFormedFront (bytes : List UInt8) : Nat :=
  let lengths := (List.range (bytes.length + 1)).filter fun n => (ofBytes? (bytes.take n)).isSome
  lengths.getLast?.getD 0

/-- The bytes of a text are the bytes of that text. -/
@[simp] theorem ofBytes?_bytes (text : String) : ofBytes? (bytes text) = some text := by
  have valid : ByteArray.IsValidUTF8 ⟨(bytes text).toArray⟩ := by
    simpa [bytes] using text.isValidUTF8
  rw [ofBytes?, String.fromUTF8?, dif_pos valid]
  congr 1

/-- Bytes that make a text are the bytes of that text. -/
theorem bytes_of_ofBytes? {raw : List UInt8} {text : String} (h : ofBytes? raw = some text) :
    bytes text = raw := by
  unfold ofBytes? String.fromUTF8? at h
  split at h
  · injection h with same
    subst same
    simp [bytes, String.fromUTF8]
  · simp at h

end ReminderDispatch.Text
