import Mathlib.Tactic.SplitIfs
import ReminderDispatch.Proofs.Calendar.DayNumbers
import ReminderDispatch.Proofs.Calendar.Numerals

/-!
# Written instants

The text of an instant is scanned part by part: the year up to the hyphen, with or without a sign,
month, day and clock by two digits each, the fraction up to the zone. So every regular instant is
read back, in every year of the calendar, with any nanoseconds, and also within a leap second. A
leap second inside a minute has the text of the second after it, and is read back as that.
-/

namespace ReminderDispatch.Calendar

open Text

variable {c : Char} {rest : List Char}

/-! ## Marks -/

/-- A mark is passed. -/
theorem scanMark_cons {mark : Char} (notBlank : isBlank mark = false) :
    scanMark mark (mark :: rest) = .ok rest := by
  unfold scanMark
  rw [trimFront_cons notBlank]
  exact if_pos rfl

/-! ## Years -/

/-- A signed year is scanned up to its last digit. -/
theorem scanNumber_signed (n : Nat) (ends : NoDigitNext rest) :
    scanNumber (paddedDigits 4 n ++ rest).length (paddedDigits 4 n ++ rest) = .ok (n, rest) := by
  have within : (paddedDigits 4 n).length ≤ (paddedDigits 4 n ++ rest).length := by
    rw [List.length_append]
    exact Nat.le_add_right _ _
  have scanned := scanNumber_append (fun c => isDigit_of_mem_paddedDigits) (paddedDigits_ne_nil 4 n)
    within fun _ => ends
  rw [valueOf_paddedDigits] at scanned
  exact scanned

/-- A year of the calendar is scanned up to the hyphen behind it. -/
theorem scanYear_yearText (date : Date) (rest : List Char) :
    scanYear (yearText date.year ++ '-' :: rest) = .ok (date.year, '-' :: rest) := by
  have first : -262143 ≤ date.year := date.admitted.1
  have last : date.year ≤ 262142 := date.admitted.2.1
  have inRange : -2147483648 ≤ date.year ∧ date.year ≤ 2147483647 := by omega
  have ends : NoDigitNext ('-' :: rest) := noDigitNext_cons (by decide)
  have signed := scanNumber_signed date.year.natAbs ends
  unfold yearText scanYear
  split_ifs with plain negative
  · have fits : date.year.natAbs < 10000 := by omega
    have scanned : scanNumber 4 (paddedDigits 4 date.year.natAbs ++ '-' :: rest) =
        .ok (date.year.natAbs, '-' :: rest) :=
      scanNumber_paddedDigits (by decide) fits (Nat.le_refl 4) fun _ => ends
    have value : (date.year.natAbs : Int) = date.year := by omega
    obtain ⟨d, more, digits⟩ := List.exists_cons_of_ne_nil (paddedDigits_ne_nil 4 date.year.natAbs)
    have digit : d.isDigit := isDigit_of_mem_paddedDigits (digits ▸ List.mem_cons_self)
    rw [digits, List.cons_append] at scanned ⊢
    rw [trimFront_cons (isBlank_of_isDigit digit)]
    split
    · next isMinus =>
      rw [(List.cons.inj isMinus).1] at digit
      exact absurd digit (by decide)
    · next isPlus =>
      rw [(List.cons.inj isPlus).1] at digit
      exact absurd digit (by decide)
    · rw [scanned]
      simp only [Except.map, bind, Except.bind, value]
      rw [if_pos inRange]
  · have value : -(date.year.natAbs : Int) = date.year := by omega
    rw [List.cons_append, trimFront_cons (by decide)]
    simp only [signed, Except.map, bind, Except.bind, value]
    rw [if_pos inRange]
  · have value : (date.year.natAbs : Int) = date.year := by omega
    rw [List.cons_append, trimFront_cons (by decide)]
    simp only [signed, Except.map, bind, Except.bind, value]
    rw [if_pos inRange]

/-! ## Fractions -/

/-- The digits of a fraction are scanned up to the zone, and count from the left. -/
theorem scanFraction_paddedDigits {width n : Nat} (positive : 0 < width) (within : width ≤ 9)
    (fits : n < tenTo width) :
    scanFraction ('.' :: (paddedDigits width n ++ ['Z'])) = .ok (n * tenTo (9 - width), ['Z']) := by
  have ends : NoDigitNext ['Z'] := noDigitNext_cons (by decide)
  have scanned := scanNumber_paddedDigits positive fits within fun _ => ends
  have places : (paddedDigits width n ++ ['Z']).length - ['Z'].length = width := by
    rw [List.length_append, length_paddedDigits positive fits, Nat.add_sub_cancel]
  simp only [scanFraction, scanned, places, bind, Except.bind]
  rfl

/-- The nanoseconds of a second are scanned up to the zone. -/
theorem scanFraction_fractionChars {nanos : Nat} (fits : nanos < 1000000000) :
    scanFraction (fractionChars nanos ++ ['Z']) = .ok (nanos, ['Z']) := by
  have million : tenTo 6 = 1000000 := by decide
  have thousand : tenTo 3 = 1000 := by decide
  have one : tenTo 0 = 1 := by decide
  unfold fractionChars
  split_ifs with none millis micros
  · rw [none]
    rfl
  · have short : nanos / 1000000 < 1000 := by omega
    rw [List.cons_append, scanFraction_paddedDigits (by decide) (by decide) short, million]
    congr 2
    omega
  · have short : nanos / 1000 < 1000000 := by omega
    rw [List.cons_append, scanFraction_paddedDigits (by decide) (by decide) short, thousand]
    congr 2
    omega
  · rw [List.cons_append, scanFraction_paddedDigits (by decide) (by decide) fits, one, Nat.mul_one]

/-! ## Instants -/

/-- A clock that shows UTC, with a leap second as second 60, shows the instant. -/
theorem instantAt_parts {time : Instant} (regular : time.IsRegular) :
    instantAt time.date.year time.date.month time.date.day (time.second / 3600)
        (time.second / 60 % 60) (time.second % 60 + time.nanos / 1000000000)
        (time.nanos % 1000000000) 0 = .ok time := by
  have inDay := time.inDay
  have inSecond := time.inSecond
  have whole : time.nanos < 1000000000 ∨ time.second % 60 = 59 := regular
  have leap : (time.second % 60 + time.nanos / 1000000000) / 60 = time.nanos / 1000000000 := by
    omega
  have clock : ((time.second / 3600 * 3600 + time.second / 60 % 60 * 60 +
      (time.second % 60 + time.nanos / 1000000000 - time.nanos / 1000000000) : Nat) : Int) - 0 =
        time.second := by omega
  have nanos : time.nanos % 1000000000 + time.nanos / 1000000000 * 1000000000 = time.nanos := by
    omega
  unfold instantAt
  rw [leap, time.date.of?_self]
  dsimp only
  rw [if_neg (by decide), clock, nanos, Instant.ofSeconds?_self regular]

/-- The parts of a written instant, one after the other. -/
theorem instantChars_eq (time : Instant) : instantChars time =
    yearText time.date.year ++ '-' :: (paddedDigits 2 time.date.month ++
      '-' :: (paddedDigits 2 time.date.day ++ 'T' :: (paddedDigits 2 (time.second / 3600) ++
        ':' :: (paddedDigits 2 (time.second / 60 % 60) ++
          ':' :: (paddedDigits 2 (time.second % 60 + time.nanos / 1000000000) ++
            (fractionChars (time.nanos % 1000000000) ++ ['Z'])))))) := by
  unfold instantChars dateChars timeChars
  simp only [List.append_assoc, List.cons_append, List.nil_append]

/-- A regular instant is read back from its text. -/
theorem readInstant_instantChars {time : Instant} (regular : time.IsRegular) :
    readInstant (instantChars time) = .ok time := by
  have inDay := time.inDay
  have inSecond := time.inSecond
  have whole : time.nanos < 1000000000 ∨ time.second % 60 = 59 := regular
  have month := time.date.month_range
  have day := time.date.day_range
  have date := fun rest => scanYear_yearText time.date rest
  have hyphen : ∀ rest, scanMark '-' ('-' :: rest) = .ok rest := fun _ => scanMark_cons (by decide)
  have colon : ∀ rest, scanMark ':' (':' :: rest) = .ok rest := fun _ => scanMark_cons (by decide)
  have letter : ∀ rest, scanSeparator ('T' :: rest) = .ok rest := fun _ => rfl
  have months := scanField_paddedDigits month.1 month.2 (by omega)
  have days := scanField_paddedDigits day.1 day.2 (by omega)
  have hours := scanField_paddedDigits (Nat.zero_le (time.second / 3600))
    (show time.second / 3600 ≤ 23 by omega) (by omega)
  have minutes := scanField_paddedDigits (Nat.zero_le (time.second / 60 % 60))
    (show time.second / 60 % 60 ≤ 59 by omega) (by omega)
  have seconds := scanField_paddedDigits (Nat.zero_le (time.second % 60 + time.nanos / 1000000000))
    (show time.second % 60 + time.nanos / 1000000000 ≤ 60 by omega) (by omega)
  have subsecond : time.nanos % 1000000000 < 1000000000 := Nat.mod_lt _ (by decide)
  have fraction := scanFraction_fractionChars subsecond
  have zone : scanZone (trimFront ['Z']) = .ok (0, []) := rfl
  rw [instantChars_eq]
  simp only [readInstant, date, hyphen, colon, letter, months, days, hours, minutes, seconds,
    fraction, zone, bind, Except.bind]
  exact instantAt_parts regular

end ReminderDispatch.Calendar

namespace ReminderDispatch.Instant

variable (time : Instant)

/-- The instant that a text shows. A leap second inside a minute is shown as the second after it;
the end of a minute has second 60 for it. -/
def shown : Instant :=
  if inside : 1000000000 ≤ time.nanos ∧ time.second % 60 ≠ 59 then
    { time with
      second := time.second + 1
      nanos := time.nanos - 1000000000
      inDay := by
        have inDay := time.inDay
        omega
      inSecond := by
        have inSecond := time.inSecond
        omega }
  else time

/-- The instants that are shown as they are. -/
theorem shown_eq_self_iff : time.shown = time ↔ time.IsRegular := by
  unfold IsRegular shown
  split
  · next inside =>
    constructor
    · intro same
      have second : time.second + 1 = time.second := congrArg Instant.second same
      omega
    · intro whole
      omega
  · next outside =>
    refine ⟨fun _ => ?_, fun _ => rfl⟩
    omega

/-- What is shown is regular. -/
theorem shown_isRegular : time.shown.IsRegular := by
  unfold shown
  split
  · have inSecond := time.inSecond
    left
    change time.nanos - 1000000000 < 1000000000
    omega
  · next outside =>
    unfold IsRegular
    omega

/-- The instant that is shown has the same text. -/
theorem text_shown : time.shown.text = time.text := by
  unfold shown
  split
  · next inside =>
    obtain ⟨past, within⟩ := inside
    have inSecond := time.inSecond
    have hour : (time.second + 1) / 3600 = time.second / 3600 := by omega
    have minute : (time.second + 1) / 60 = time.second / 60 := by omega
    have second : (time.second + 1) % 60 + (time.nanos - 1000000000) / 1000000000 =
        time.second % 60 + time.nanos / 1000000000 := by omega
    have fraction : (time.nanos - 1000000000) % 1000000000 = time.nanos % 1000000000 := by omega
    unfold text
    rw [Calendar.instantChars_eq, Calendar.instantChars_eq]
    simp only [hour, minute, second, fraction]
  · rfl

/-- A text is read as the instant that it shows. -/
theorem ofText_text : ofText time.text = .ok time.shown := by
  rw [← text_shown]
  unfold ofText text
  rw [String.toList_ofList]
  exact Calendar.readInstant_instantChars time.shown_isRegular

/-- The year has a sign before year 0, and a leap second is written as second 60. -/
example : (Date.of? (-5) 12 31 >>= fun date => of? date 86399 1500000000).map (·.text) =
    some "-0005-12-31T23:59:60.500Z" := by decide +kernel

end ReminderDispatch.Instant
