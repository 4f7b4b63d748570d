import Mathlib.Tactic.SplitIfs
import ReminderDispatch.Proofs.Json.Readers

/-!
# Strings on the wire

A string is written byte by byte, and each byte is read back from its escape: quotes, backslashes
and control characters from two or six bytes, all others as they are. So every string survives,
whatever characters it is made of.
-/

namespace ReminderDispatch.Json

variable {b : UInt8} {rest : List UInt8}

/-- A hexadecimal digit has the value from which it was written. -/
theorem hexValue?_hexByte : ∀ n < 16, hexValue? (hexByte n) = some n := by decide

/-- The character of a byte below 128 is written as this byte. -/
theorem utf8EncodeChar_ascii (ascii : b < 0x80) :
    String.utf8EncodeChar (Char.ofNat b.toNat) = [b] := by
  have small : b.toNat < 128 := ascii
  have all : ∀ n < 128, String.utf8EncodeChar (Char.ofNat n) = [n.toUInt8] := by decide
  have same : b.toNat.toUInt8 = b := UInt8.ofNat_toNat
  rw [all b.toNat small, same]

/-- A control character is read from its escape by code units. -/
theorem unitEscape_control (control : b < 0x20) (rest : List UInt8) :
    ∃ shorter,
      unitEscape (0x30 :: 0x30 :: hexByte (b.toNat / 16) :: hexByte (b.toNat % 16) :: rest) =
        .ok ([b], ⟨rest, shorter⟩) := by
  have small : b.toNat < 32 := control
  have high := hexValue?_hexByte (b.toNat / 16) (by omega)
  have low := hexValue?_hexByte (b.toNat % 16) (by omega)
  have zero : hexValue? 0x30 = some 0 := by decide
  have value : ((0 * 16 + 0) * 16 + b.toNat / 16) * 16 + b.toNat % 16 = b.toNat := by omega
  have ascii : b < 0x80 := Nat.lt_trans small (by decide)
  have shorter : rest.length ≤
      (0x30 :: 0x30 :: hexByte (b.toNat / 16) :: hexByte (b.toNat % 16) :: rest).length := by
    simp only [List.length_cons]
    omega
  unfold unitEscape hexUnit
  simp only [zero, high, low, value, bind, Except.bind]
  rw [if_neg (by omega), if_neg (by omega), utf8EncodeChar_ascii ascii]
  exact ⟨shorter, rfl⟩

/-- Every byte of a string is read back from the form in which it was written. -/
theorem stringBytes_escapeByte (b : UInt8) {bytes more rest : List UInt8}
    (read : stringBytes more = .ok (bytes, rest)) :
    stringBytes (escapeByte b ++ more) = .ok (b :: bytes, rest) := by
  have short : ∀ letter, shortEscape? letter = some b →
      stringBytes (backslash :: letter :: more) = .ok (b :: bytes, rest) := by
    intro letter means
    rw [stringBytes]
    simp only [escape, means, bind, Except.bind, read]
    rfl
  unfold escapeByte
  split_ifs with isQuote isBackslash isPlain isBack isFeed isLine isReturn isTab
  · exact short quoteMark (by rw [isQuote]; decide)
  · exact short backslash (by rw [isBackslash]; decide)
  · have notControl : ¬ b < 0x20 := UInt8.not_lt.2 isPlain
    change stringBytes (b :: more) = _
    rw [stringBytes, if_neg isQuote, if_neg isBackslash, if_neg notControl, read]
    rfl
  · exact short 0x62 (by rw [isBack]; decide)
  · exact short 0x66 (by rw [isFeed]; decide)
  · exact short 0x6e (by rw [isLine]; decide)
  · exact short 0x72 (by rw [isReturn]; decide)
  · exact short 0x74 (by rw [isTab]; decide)
  · have control : b < 0x20 := UInt8.not_le.1 isPlain
    have noShort : shortEscape? 0x75 = none := by decide
    obtain ⟨shorter, unit⟩ := unitEscape_control control more
    change stringBytes (backslash :: 0x75 :: 0x30 :: 0x30 :: _ :: _ :: more) = _
    rw [stringBytes, if_neg (by decide), if_pos rfl]
    simp only [escape, noShort, if_true, unit, Except.map, bind, Except.bind, read]
    rfl

/-- The bytes of a string are read back up to its closing quote. -/
theorem stringBytes_escaped (bytes rest : List UInt8) :
    stringBytes (bytes.flatMap escapeByte ++ quoteMark :: rest) = .ok (bytes, rest) := by
  induction bytes with
  | nil =>
    change stringBytes (quoteMark :: rest) = _
    rw [stringBytes, if_pos rfl]
  | cons b more ih =>
    rw [List.flatMap_cons, List.append_assoc]
    exact stringBytes_escapeByte b ih

/-- A string is read back from the form in which it was written, after its opening quote. -/
theorem stringRest_written (text : String) (rest : List UInt8) :
    stringRest ((Text.bytes text).flatMap escapeByte ++ quoteMark :: rest) = .ok (text, rest) := by
  unfold stringRest
  simp only [stringBytes_escaped, bind, Except.bind, Text.ofBytes?_bytes]

/-- A written string is its quotes with the escaped bytes between them. -/
theorem writeString_append (text : String) (rest : List UInt8) :
    writeString text ++ rest =
      quoteMark :: ((Text.bytes text).flatMap escapeByte ++ quoteMark :: rest) := by
  unfold writeString
  rw [List.cons_append, List.cons_append, List.append_assoc]
  rfl

/-- A key is read back whose quote is next. -/
theorem readKey_written (key : String) (rest : List UInt8) :
    readKey (writeString key ++ rest) = .ok (key, rest) := by
  rw [writeString_append]
  exact stringRest_written key rest

/-- A string that is accepted is read back as what it stands for. -/
theorem readStringWith_written {α : Type} {wanted text : String} {value : α}
    {accept : String → Except Cause α} (accepted : accept text = .ok value) (rest : List UInt8) :
    readStringWith wanted accept (writeString text ++ rest) = .ok (value, rest) := by
  have passed : advance (quoteMark :: ((Text.bytes text).flatMap escapeByte ++ quoteMark :: rest)) =
      .ok ((), (Text.bytes text).flatMap escapeByte ++ quoteMark :: rest) := rfl
  rw [writeString_append]
  refine byFirst_cons (by decide) ?_
  rw [if_pos rfl, Reader.bind_of_ok passed, Reader.bind_of_ok (stringRest_written text rest)]
  simp only [accepted]
  rfl

/-- Strings are read back. -/
theorem string_faithful : string.Faithful := fun _ rest _ => readStringWith_written rfl rest

end ReminderDispatch.Json
