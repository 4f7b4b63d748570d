import ReminderDispatch.Proofs.Calendar.Notices
import ReminderDispatch.Proofs.Calendar.Numerals

/-!
# Texts of dates

A grammar says which texts name which day: numerals between hyphens, with blanks in front of each,
and a sign for a year of more than four digits. The reader of dates takes exactly these texts, and
every day written out is one of them. So a notice can be asked for by a text as well as by a day.
-/

namespace ReminderDispatch

namespace Calendar

open Text

variable {date : Date} {digits rest text : List Char} {most n : Nat} {year : Int}

/-! ## The grammar -/

/-- The text is a numeral of digits alone. -/
structure IsNumeral (text : List Char) (n : Nat) : Prop where
  /-- There is a digit. -/
  notEmpty : text ≠ []
  /-- There is nothing but digits. -/
  digits : ∀ c ∈ text, c.isDigit
  /-- The digits denote the number. -/
  value : valueOf text = n

/-- The text is a numeral of at most `most` digits, with blanks in front. -/
def IsField (most : Nat) (text : List Char) (n : Nat) : Prop :=
  ∃ blanks digits, text = blanks ++ digits ∧ (∀ c ∈ blanks, isBlank c) ∧
    digits.length ≤ most ∧ IsNumeral digits n

/-- The text names a year: by at most four digits, or by a sign and any number of digits. -/
inductive IsYear : List Char → Int → Prop where
  /-- Four digits are enough without a sign. -/
  | plain {text : List Char} {n : Nat} (field : IsField 4 text n) : IsYear text n
  /-- After a sign there may be more digits. -/
  | positive {blanks digits : List Char} {n : Nat} (blank : ∀ c ∈ blanks, isBlank c)
      (numeral : IsNumeral digits n) : IsYear (blanks ++ '+' :: digits) n
  /-- Years before year 0 have a minus sign. -/
  | negative {blanks digits : List Char} {n : Nat} (blank : ∀ c ∈ blanks, isBlank c)
      (numeral : IsNumeral digits n) : IsYear (blanks ++ '-' :: digits) (-(n : Int))

/-- The text names the day: by its year, its month and its day of the month, with hyphens between. -/
def NamesDate (text : List Char) (date : Date) : Prop :=
  ∃ year month day, text = year ++ '-' :: (month ++ '-' :: day) ∧
    IsYear year date.year ∧ IsField 2 month date.month ∧ IsField 2 day date.day

/-! ## The reader takes what the grammar derives -/

/-- A numeral after blanks is read up to its last digit. -/
theorem readNumber?_append (field : IsField most text n) (ends : NoDigitNext rest) :
    readNumber? most (text ++ rest) = some (n, rest) := by
  obtain ⟨blanks, digits, rfl, blank, fits, numeral⟩ := field
  have taken : spanDigits most (digits ++ rest) = (digits, rest) :=
    spanDigits_append numeral.digits fits fun _ => ends
  obtain ⟨c, more, rfl⟩ := List.exists_cons_of_ne_nil numeral.notEmpty
  have notBlank : isBlank c = false := isBlank_of_isDigit (numeral.digits c List.mem_cons_self)
  unfold readNumber?
  rw [List.append_assoc, trimFront_append blank, List.cons_append, trimFront_cons notBlank,
    ← List.cons_append, taken, ← numeral.value]

/-- Digits after a sign are read up to the last one. -/
theorem signed_append (numeral : IsNumeral digits n) (ends : NoDigitNext rest)
    (value : Nat → Int) : readYear?.signed (digits ++ rest) value = some (value n, rest) := by
  have taken : spanDigits (digits ++ rest).length (digits ++ rest) = (digits, rest) :=
    spanDigits_append numeral.digits (by simp) fun _ => ends
  obtain ⟨c, more, rfl⟩ := List.exists_cons_of_ne_nil numeral.notEmpty
  unfold readYear?.signed
  rw [taken, ← numeral.value]

/-- A year is read up to its last digit. -/
theorem readYear?_append (isYear : IsYear text year) (ends : NoDigitNext rest) :
    readYear? (text ++ rest) = some (year, rest) := by
  cases isYear with
  | positive blank numeral =>
    unfold readYear?
    rw [List.append_assoc, trimFront_append blank, List.cons_append, trimFront_cons (by decide)]
    exact signed_append numeral ends _
  | negative blank numeral =>
    unfold readYear?
    rw [List.append_assoc, trimFront_append blank, List.cons_append, trimFront_cons (by decide)]
    exact signed_append numeral ends _
  | @plain text n field =>
    obtain ⟨blanks, digits, rfl, blank, fits, numeral⟩ := field
    have read : readNumber? 4 (digits ++ rest) = some (n, rest) :=
      readNumber?_append ⟨[], digits, rfl, by simp, fits, numeral⟩ ends
    obtain ⟨c, more, rfl⟩ := List.exists_cons_of_ne_nil numeral.notEmpty
    have isDigit : c.isDigit := numeral.digits c List.mem_cons_self
    unfold readYear?
    rw [List.append_assoc, trimFront_append blank, List.cons_append,
      trimFront_cons (isBlank_of_isDigit isDigit)]
    -- A digit is neither of the signs, so the number is read as it stands.
    split
    · next signs => exact absurd isDigit (by rw [(List.cons.inj signs).1]; decide)
    · next signs => exact absurd isDigit (by rw [(List.cons.inj signs).1]; decide)
    · rw [← List.cons_append, read]
      rfl

/-- A text that names a day is read as that day. -/
theorem readDate?_complete (names : NamesDate text date) : readDate? text = some date := by
  obtain ⟨year, month, day, rfl, isYear, isMonth, isDay⟩ := names
  have hyphen {more : List Char} : NoDigitNext ('-' :: more) := noDigitNext_cons (by decide)
  have atEnd : NoDigitNext [] := by
    intro c impossible
    cases impossible
  have lastRead := readNumber?_append isDay atEnd
  rw [List.append_nil] at lastRead
  unfold readDate?
  simp only [readYear?_append isYear hyphen, readNumber?_append isMonth hyphen, lastRead,
    afterHyphen?, bind, Option.bind, List.isEmpty_nil, if_true, Date.of?_self]

/-! ## The grammar derives what the reader takes -/

/-- What is taken as digits stands at the front and has no more of them than are wanted. -/
theorem spanDigits_sound (spanned : spanDigits most text = (digits, rest)) :
    text = digits ++ rest ∧ (∀ c ∈ digits, c.isDigit) ∧ digits.length ≤ most := by
  fun_induction spanDigits most text generalizing digits with
  | case1 most c more isDigit taken after inner ih =>
    obtain ⟨rfl, rfl⟩ := Prod.mk.inj spanned
    obtain ⟨split, all, fits⟩ := ih inner
    refine ⟨by rw [split, List.cons_append], ?_, Nat.succ_le_succ fits⟩
    intro d member
    rcases List.mem_cons.1 member with rfl | later
    · exact isDigit
    · exact all d later
  | case2 most c more noDigit =>
    obtain ⟨rfl, rfl⟩ := Prod.mk.inj spanned
    exact ⟨rfl, by simp, Nat.zero_le _⟩
  | case3 =>
    obtain ⟨rfl, rfl⟩ := Prod.mk.inj spanned
    exact ⟨rfl, by simp, Nat.zero_le _⟩

/-- What is read as a number is a numeral after blanks. -/
theorem readNumber?_sound (read : readNumber? most text = some (n, rest)) :
    ∃ field, text = field ++ rest ∧ IsField most field n := by
  obtain ⟨blanks, split, blank⟩ := exists_trimFront text
  unfold readNumber? at read
  split at read
  · cases read
  · next digits after notEmpty spanned =>
    obtain ⟨rfl, rfl⟩ := Prod.mk.inj (Option.some.inj read)
    obtain ⟨front, all, fits⟩ := spanDigits_sound spanned
    refine ⟨blanks ++ digits, ?_, blanks, digits, rfl, blank, fits, ?_, all, rfl⟩
    · rw [List.append_assoc, ← front]
      exact split
    · rintro rfl
      exact notEmpty rfl

/-- What is read after a sign is a numeral. -/
theorem signed_sound {value : Nat → Int}
    (read : readYear?.signed text value = some (year, rest)) :
    ∃ digits n, text = digits ++ rest ∧ IsNumeral digits n ∧ year = value n := by
  unfold readYear?.signed at read
  split at read
  · cases read
  · next digits after notEmpty spanned =>
    obtain ⟨rfl, rfl⟩ := Prod.mk.inj (Option.some.inj read)
    obtain ⟨front, all, -⟩ := spanDigits_sound spanned
    refine ⟨digits, valueOf digits, front, ⟨?_, all, rfl⟩, rfl⟩
    rintro rfl
    exact notEmpty rfl

/-- What is read as a year names that year. -/
theorem readYear?_sound (read : readYear? text = some (year, rest)) :
    ∃ front, text = front ++ rest ∧ IsYear front year := by
  obtain ⟨blanks, split, blank⟩ := exists_trimFront text
  unfold readYear? at read
  split at read
  · next signed trimmed =>
    obtain ⟨digits, n, rfl, numeral, rfl⟩ := signed_sound read
    refine ⟨blanks ++ '-' :: digits, ?_, .negative blank numeral⟩
    rw [List.append_assoc, List.cons_append, ← trimmed]
    exact split
  · next signed trimmed =>
    obtain ⟨digits, n, rfl, numeral, rfl⟩ := signed_sound read
    refine ⟨blanks ++ '+' :: digits, ?_, .positive blank numeral⟩
    rw [List.append_assoc, List.cons_append, ← trimmed]
    exact split
  · obtain ⟨⟨n, after⟩, number, same⟩ := Option.map_eq_some_iff.1 read
    obtain ⟨rfl, rfl⟩ := Prod.mk.inj same
    obtain ⟨field, front, inner, digits, rfl, innerBlank, fits, numeral⟩ :=
      readNumber?_sound number
    refine ⟨blanks ++ (inner ++ digits), ?_,
      .plain ⟨blanks ++ inner, digits, (List.append_assoc ..).symm, ?_, fits, numeral⟩⟩
    · rw [List.append_assoc, ← front]
      exact split
    · intro c member
      exact (List.mem_append.1 member).elim (blank c) (innerBlank c)

/-- A hyphen is taken off the front. -/
theorem afterHyphen?_eq_some_iff : afterHyphen? text = some rest ↔ text = '-' :: rest := by
  constructor
  · intro taken
    unfold afterHyphen? at taken
    split at taken
    · rw [Option.some.inj taken]
    · cases taken
  · rintro rfl
    rfl

/-- A text that is read as a day names that day. -/
theorem readDate?_sound (read : readDate? text = some date) : NamesDate text date := by
  unfold readDate? at read
  simp only [bind, Option.bind_eq_some_iff] at read
  obtain ⟨⟨year, afterYear⟩, yearRead, beforeMonth, firstHyphen, ⟨month, afterMonth⟩, monthRead,
    beforeDay, secondHyphen, ⟨day, rest⟩, dayRead, whole⟩ := read
  have atEnd : rest.isEmpty := by
    cases isEnd : rest.isEmpty with
    | true => rfl
    | false =>
      rw [isEnd] at whole
      cases whole
  rw [atEnd, if_pos rfl] at whole
  obtain ⟨rfl, rfl, rfl⟩ := Date.of?_eq_some_iff.1 whole
  obtain ⟨yearText, rfl, isYear⟩ := readYear?_sound yearRead
  obtain rfl := afterHyphen?_eq_some_iff.1 firstHyphen
  obtain ⟨monthText, rfl, isMonth⟩ := readNumber?_sound monthRead
  obtain rfl := afterHyphen?_eq_some_iff.1 secondHyphen
  obtain ⟨dayText, rfl, isDay⟩ := readNumber?_sound dayRead
  obtain rfl := List.isEmpty_iff.1 atEnd
  rw [List.append_nil]
  exact ⟨yearText, monthText, dayText, rfl, isYear, isMonth, isDay⟩

/-- A text is read as a day exactly if it names that day. -/
theorem readDate?_eq_some_iff : readDate? text = some date ↔ NamesDate text date :=
  ⟨readDate?_sound, readDate?_complete⟩

/-! ## Days written out -/

/-- A numeral of fixed width denotes its number. -/
theorem isNumeral_paddedDigits (width n : Nat) : IsNumeral (paddedDigits width n) n :=
  ⟨paddedDigits_ne_nil width n, fun _ => isDigit_of_mem_paddedDigits, valueOf_paddedDigits width n⟩

/-- A numeral of fixed width is a field of that width, when it fits in. -/
theorem isField_paddedDigits {width : Nat} (positive : 0 < width) (fits : n < tenTo width) :
    IsField width (paddedDigits width n) n :=
  ⟨[], paddedDigits width n, rfl, by simp, Nat.le_of_eq (length_paddedDigits positive fits),
    isNumeral_paddedDigits width n⟩

/-- A year written out names the year, with a sign or without. -/
theorem isYear_yearText (year : Int) : IsYear (yearText year) year := by
  have noBlanks : ∀ c ∈ ([] : List Char), isBlank c := by simp
  have numeral := isNumeral_paddedDigits 4 year.natAbs
  unfold yearText
  by_cases short : 0 ≤ year ∧ year ≤ 9999
  · have fits : year.natAbs < tenTo 4 := by
      have bound : tenTo 4 = 10000 := by decide
      omega
    have isYear := IsYear.plain (isField_paddedDigits (by decide) fits)
    rw [if_pos short]
    rwa [Int.natAbs_of_nonneg short.1] at isYear
  · rw [if_neg short]
    by_cases below : year < 0
    · have isYear := IsYear.negative noBlanks numeral
      rw [if_pos below]
      rwa [Int.ofNat_natAbs_of_nonpos (Int.le_of_lt below), Int.neg_neg] at isYear
    · have isYear := IsYear.positive noBlanks numeral
      rw [if_neg below]
      rwa [Int.natAbs_of_nonneg (Int.not_lt.1 below)] at isYear

/-- Every day written out names that day. -/
theorem namesDate_dateChars (date : Date) : NamesDate (dateChars date) date := by
  have month := date.month_range
  have day := date.day_range
  have bound : tenTo 2 = 100 := by decide
  refine ⟨yearText date.year, paddedDigits 2 date.month, paddedDigits 2 date.day, ?_,
    isYear_yearText date.year, isField_paddedDigits (by decide) (by omega),
    isField_paddedDigits (by decide) (by omega)⟩
  unfold dateChars
  simp only [List.append_assoc, List.cons_append, List.nil_append]

/-- A day written out begins with no blank. -/
theorem beginsPlain_dateChars (date : Date) : BeginsPlain (dateChars date) := by
  have firstDigit := isNumeral_paddedDigits 4 date.year.natAbs
  obtain ⟨c, more, digits⟩ := List.exists_cons_of_ne_nil firstDigit.notEmpty
  have isDigit : c.isDigit := firstDigit.digits c (digits ▸ List.mem_cons_self)
  unfold dateChars yearText
  split
  · exact ⟨c, _, by rw [digits]; rfl, isBlank_of_isDigit isDigit⟩
  · refine ⟨_, _, rfl, ?_⟩
    split <;> decide

/-- A day written out ends with no blank. -/
theorem beginsPlain_reverse_dateChars (date : Date) : BeginsPlain (dateChars date).reverse := by
  have lastDigit := isNumeral_paddedDigits 2 date.day
  have notEmpty : (paddedDigits 2 date.day).reverse ≠ [] := by simpa using lastDigit.notEmpty
  obtain ⟨c, more, digits⟩ := List.exists_cons_of_ne_nil notEmpty
  have isDigit : c.isDigit :=
    lastDigit.digits c (List.mem_reverse.1 (digits ▸ List.mem_cons_self))
  unfold dateChars
  rw [List.reverse_append, digits, List.cons_append]
  exact ⟨c, _, rfl, isBlank_of_isDigit isDigit⟩

end Calendar

open Calendar Text

variable {date now : Date} {leadDays : Int} {text before after : String}

/-- The day of a text is the one that it names without the blanks around it. -/
theorem Date.ofText?_eq_some_iff :
    Date.ofText? text = some date ↔ NamesDate (trimChars text.toList) date := readDate?_eq_some_iff

/-- A day written out names that day, with any blanks around it. -/
theorem Date.ofText?_text (blankBefore : isBlankText before) (blankAfter : isBlankText after)
    (date : Date) : Date.ofText? (before ++ date.text ++ after) = some date := by
  have chars : date.text.toList = dateChars date := String.toList_ofList
  rw [Date.ofText?_eq_some_iff, String.toList_append, String.toList_append, chars,
    trimChars_surrounded (List.all_eq_true.1 blankBefore) (List.all_eq_true.1 blankAfter)
      (beginsPlain_dateChars date) (beginsPlain_reverse_dateChars date)]
  exact namesDate_dateChars date

namespace Anniversary

/-- A text that names a day asks for the notice of that day. -/
theorem noticeForText_of_names (names : NamesDate (trimChars text.toList) date)
    (leadDays : Int) (now : Date) :
    noticeForText text leadDays now = noticeFor date leadDays now := by
  unfold noticeForText
  rw [Date.ofText?_eq_some_iff.2 names]

/-- A text that names no day is refused as it stands, whatever the lead. -/
theorem noticeForText_of_unnamed (unnamed : ∀ date, ¬ NamesDate (trimChars text.toList) date)
    (leadDays : Int) (now : Date) :
    noticeForText text leadDays now = .error (.invalidDate text) := by
  have none : Date.ofText? text = none := by
    rw [Option.eq_none_iff_forall_ne_some]
    intro date found
    exact unnamed date (Date.ofText?_eq_some_iff.1 found)
  unfold noticeForText
  rw [none]

/-- Every day written out, with any blanks around it, asks for the notice of that day, and so does
every other text that names it. A text that names no day once the blanks around it are taken away is
refused as it was, with them, whatever the lead. -/
theorem noticeForText_exact :
    (∀ (date : Date) (before after : String), isBlankText before → isBlankText after →
      ∀ leadDays now, noticeForText (before ++ date.text ++ after) leadDays now =
        noticeFor date leadDays now) ∧
    (∀ (text : String) (date : Date), NamesDate (trimChars text.toList) date →
      ∀ leadDays now, noticeForText text leadDays now = noticeFor date leadDays now) ∧
    (∀ text : String, (∀ date, ¬ NamesDate (trimChars text.toList) date) →
      ∀ leadDays now, noticeForText text leadDays now = .error (.invalidDate text)) := by
  refine ⟨?_, fun _ _ => noticeForText_of_names, fun _ => noticeForText_of_unnamed⟩
  intro date before after blankBefore blankAfter
  exact noticeForText_of_names
    (Date.ofText?_eq_some_iff.1 (Date.ofText?_text blankBefore blankAfter date))

/-- A leap day before year 0 between white space is read; a day that its year lacks is refused with
the blank in front of it, and with a negative lead. -/
theorem noticeForText_exact_leapDays :
    ∃ day now notice : Date, Date.of? (-4) 2 29 = some day ∧ Date.of? 2025 1 1 = some now ∧
      Date.of? 2025 2 28 = some notice ∧ day.text = "-0004-02-29" ∧
      noticeForText ("\u3000" ++ day.text ++ " \n") 1 now = .ok (.midnight notice) ∧
      noticeForText " 2025-02-29" (-1) now = .error (.invalidDate " 2025-02-29") := by
  let day : Date := ⟨-4, 2, 29, by decide⟩
  let now : Date := ⟨2025, 1, 1, by decide⟩
  let notice : Date := ⟨2025, 2, 28, by decide⟩
  obtain ⟨written, -, refused⟩ := noticeForText_exact
  have read := written day "\u3000" " \n" (by decide) (by decide) 1 now
  let next : Date := ⟨2025, 3, 1, by decide⟩
  have found : nextOccurrence day now = .ok next := rfl
  have goesOut : noticeFor day 1 now = .ok (.midnight notice) :=
    noticeFor_eq_midnight (by decide) found (by decide)
  have unnamed : ∀ date, ¬ NamesDate (trimChars " 2025-02-29".toList) date := by
    intro date names
    have none : readDate? (trimChars " 2025-02-29".toList) = none := by decide
    rw [readDate?_complete names] at none
    cases none
  exact ⟨day, now, notice, rfl, rfl, rfl, by decide, read.trans goesOut,
    refused " 2025-02-29" unnamed (-1) now⟩

end Anniversary

end ReminderDispatch
