import ReminderDispatch.Text.Unprintable
import ReminderDispatch.Text.Extending

/-!
# Quoted text

A text in quotes, as messages show it: quotes and backslashes carry a backslash, the common
controls have short escapes, and every other character that would not be seen on its own is given
by its code point.
-/

namespace ReminderDispatch.Text

/-- Letters that are drawn as nothing. -/
def fillers : List CodeRange :=
  [⟨0x115f, 0x1160⟩, ⟨0x3164, 0x3164⟩, ⟨0xffa0, 0xffa0⟩]

/-- The character cannot be seen on its own: it has no printed form, is drawn as nothing, or joins
the character before it. -/
def isHidden (c : Char) : Bool :=
  inRanges unprintable c || inRanges extending c || inRanges fillers c

/-- The escape of a hidden character: its code point in lowercase hexadecimal digits. -/
def codeEscape (c : Char) : List Char :=
  ['\\', 'u', '\x7b'] ++ Nat.toDigits 16 c.toNat ++ ['\x7d']

/-- One character inside quotes. -/
def quoteChar (c : Char) : List Char :=
  match c with
  | '"' => ['\\', '"']
  | '\\' => ['\\', '\\']
  | '\t' => ['\\', 't']
  | '\r' => ['\\', 'r']
  | '\n' => ['\\', 'n']
  | '\x00' => ['\\', '0']
  | _ => if isHidden c then codeEscape c else [c]

/-- The text in quotes, with the escapes that it needs. -/
def quote (text : String) : String :=
  String.ofList (['"'] ++ text.toList.flatMap quoteChar ++ ['"'])

/-- The list of the quoted texts, in brackets. -/
def quoteList (texts : List String) : String :=
  "[" ++ ", ".intercalate (texts.map quote) ++ "]"

end ReminderDispatch.Text
