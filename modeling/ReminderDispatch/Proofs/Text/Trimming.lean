import ReminderDispatch.Text.Blank

/-!
# Trimming

A text is what is left of it after trimming, with blanks around it. Trimming takes away the blanks
around a text that neither begins nor ends with one, and nothing else.
-/

namespace ReminderDispatch.Text

variable {c : Char} {before after core front rest : List Char}

/-- A digit is no white space. -/
theorem isBlank_of_isDigit (digit : c.isDigit) : isBlank c = false := by
  have bounds : 48 ≤ c.toNat ∧ c.toNat ≤ 57 := Char.isDigit_iff_toNat.1 digit
  rw [Bool.eq_false_iff]
  intro blank
  obtain ⟨range, member, low, high⟩ := (inRanges_iff blankRanges c).1 blank
  have apart : ∀ range ∈ blankRanges, range.last < 48 ∨ 57 < range.first := by decide
  rcases apart range member with below | above <;> omega

/-- Nothing is trimmed before a character that is no white space. -/
theorem trimFront_cons (notBlank : isBlank c = false) : trimFront (c :: rest) = c :: rest := by
  unfold trimFront
  rw [List.dropWhile_cons_of_neg (by simp [notBlank])]

/-- Blanks in front of a text are trimmed with those that it begins with. -/
theorem trimFront_append (blank : ∀ c ∈ front, isBlank c) :
    trimFront (front ++ rest) = trimFront rest := List.dropWhile_append_of_pos blank

/-- Only blanks are trimmed. -/
theorem exists_trimFront (text : List Char) :
    ∃ front, text = front ++ trimFront text ∧ ∀ c ∈ front, isBlank c :=
  ⟨text.takeWhile isBlank, List.takeWhile_append_dropWhile.symm,
    List.all_eq_true.1 List.all_takeWhile⟩

/-- Only blanks are trimmed at both ends. -/
theorem exists_trimChars (text : List Char) :
    ∃ before after, text = before ++ trimChars text ++ after ∧ (∀ c ∈ before, isBlank c) ∧
      ∀ c ∈ after, isBlank c := by
  obtain ⟨before, frontSplit, blankBefore⟩ := exists_trimFront text
  obtain ⟨after, backSplit, blankAfter⟩ := exists_trimFront (trimFront text).reverse
  have middle : trimFront text = trimChars text ++ after.reverse := by
    rw [trimChars, ← List.reverse_append, ← backSplit, List.reverse_reverse]
  refine ⟨before, after.reverse, ?_, blankBefore, ?_⟩
  · rw [List.append_assoc, ← middle]
    exact frontSplit
  · intro c member
    exact blankAfter c (List.mem_reverse.1 member)

/-- The text begins with a character that is no white space. -/
def BeginsPlain (text : List Char) : Prop := ∃ c more, text = c :: more ∧ isBlank c = false

/-- Nothing is trimmed from a text that begins with no blank. -/
theorem BeginsPlain.trimFront_append (plain : BeginsPlain core) (rest : List Char) :
    trimFront (core ++ rest) = core ++ rest := by
  obtain ⟨c, more, rfl, notBlank⟩ := plain
  exact trimFront_cons notBlank

/-- Blanks around a text that neither begins nor ends with one are trimmed, and nothing else. -/
theorem trimChars_surrounded (blankBefore : ∀ c ∈ before, isBlank c)
    (blankAfter : ∀ c ∈ after, isBlank c) (starts : BeginsPlain core)
    (ends : BeginsPlain core.reverse) : trimChars (before ++ core ++ after) = core := by
  have behind : ∀ c ∈ after.reverse, isBlank c :=
    fun c member => blankAfter c (List.mem_reverse.1 member)
  have last : trimFront core.reverse = core.reverse := by
    simpa using ends.trimFront_append []
  unfold trimChars
  rw [List.append_assoc, Text.trimFront_append blankBefore, starts.trimFront_append,
    List.reverse_append, Text.trimFront_append behind, last, List.reverse_reverse]

end ReminderDispatch.Text
