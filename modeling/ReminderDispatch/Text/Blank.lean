import ReminderDispatch.Text.Ranges

/-!
# Blank characters

The characters of the Unicode property White_Space, and the trimming of a text at both ends. A
trimmed text neither starts nor ends with a blank character, and trimming takes nothing else away.
-/

namespace ReminderDispatch.Text

/-- The ranges of the property White_Space, in order. -/
def blankRanges : List CodeRange := [
  ⟨0x9, 0xd⟩, ⟨0x20, 0x20⟩, ⟨0x85, 0x85⟩, ⟨0xa0, 0xa0⟩, ⟨0x1680, 0x1680⟩, ⟨0x2000, 0x200a⟩,
  ⟨0x2028, 0x2029⟩, ⟨0x202f, 0x202f⟩, ⟨0x205f, 0x205f⟩, ⟨0x3000, 0x3000⟩]

/-- The character is white space. -/
def isBlank (c : Char) : Bool := inRanges blankRanges c

/-- The text without the blanks at its front. -/
def trimFront (text : List Char) : List Char := text.dropWhile isBlank

/-- The text without the blanks at both ends. -/
def trimChars (text : List Char) : List Char :=
  (trimFront (trimFront text).reverse).reverse

/-- The string holds blanks only. -/
def isBlankText (text : String) : Bool := text.toList.all isBlank

/-- A string that does not hold blanks only is not empty. -/
theorem isEmpty_of_not_isBlankText {text : String} (notBlank : isBlankText text = false) :
    text.isEmpty = false := by
  apply Bool.eq_false_iff.2
  intro isEmpty
  rw [String.isEmpty_iff.1 isEmpty] at notBlank
  contradiction

/-- Every character that is white space in ASCII is blank. -/
theorem isBlank_of_isWhitespace (c : Char) (h : c.isWhitespace = true) : isBlank c = true := by
  simp only [Char.isWhitespace, Bool.or_eq_true, decide_eq_true_eq] at h
  rcases h with ((h | h) | h) | h <;> subst h <;> decide

/-- Nothing stays of a text of blanks, and of no other text. -/
theorem trimFront_eq_nil_iff (text : List Char) : trimFront text = [] ↔ text.all isBlank := by
  induction text with
  | nil => simp [trimFront]
  | cons c rest ih =>
    by_cases blank : isBlank c
    · rw [trimFront, List.dropWhile_cons_of_pos blank, List.all_cons, blank, Bool.true_and]
      exact ih
    · simp [trimFront, blank]

/-- What is left after trimming the front starts with no blank. -/
theorem not_isBlank_of_trimFront {text : List Char} {c : Char} {rest : List Char}
    (h : trimFront text = c :: rest) : isBlank c = false := by
  induction text with
  | nil => simp [trimFront] at h
  | cons d tail ih =>
    by_cases blank : isBlank d
    · exact ih (by simpa [trimFront, List.dropWhile_cons, blank] using h)
    · have same : d = c := by simp [trimFront, blank] at h; exact h.1
      simpa [← same] using blank

/-- A text of blanks trims to nothing, and only such a text does. -/
theorem trimChars_eq_nil_iff (text : List Char) : trimChars text = [] ↔ text.all isBlank := by
  rw [← trimFront_eq_nil_iff]
  constructor
  · intro empty
    have back : (trimFront text).reverse.all isBlank :=
      (trimFront_eq_nil_iff _).1 (by simpa [trimChars] using empty)
    cases left : trimFront text with
    | nil => rfl
    | cons c rest => simp [left, not_isBlank_of_trimFront left] at back
  · intro empty
    rw [trimChars, empty]
    rfl

end ReminderDispatch.Text
