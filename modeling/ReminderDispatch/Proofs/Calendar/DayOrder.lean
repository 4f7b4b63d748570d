import ReminderDispatch.Proofs.Calendar.DayNumbers

/-!
# The order of days

Days are numbered in their order, one after the other and without a gap from the first day of the
calendar to its last. So a number names at most one day, it names none exactly when it lies outside
that range, and to count days forth or back is to add to their number.
-/

namespace ReminderDispatch

namespace Calendar

variable {year : Int} {passed : Nat}

/-! ## Years and months in order -/

/-- A later year begins later. -/
theorem daysBeforeYear_le {earlier later : Int} (ordered : earlier ≤ later) :
    daysBeforeYear earlier ≤ daysBeforeYear later := by
  unfold daysBeforeYear
  omega

/-- A number lies in the year that is found for it. -/
theorem yearOf_bounds (number : Int) :
    daysBeforeYear (yearOf number) ≤ number ∧ number < daysBeforeYear (yearOf number + 1) := by
  let near := number * 400 / 146097 + 1
  have early := daysBeforeYear_bounds (near - 1)
  have here := daysBeforeYear_bounds near
  have late := daysBeforeYear_bounds (near + 1 + 1)
  change daysBeforeYear (if number < daysBeforeYear near then near - 1
      else if number < daysBeforeYear (near + 1) then near else near + 1) ≤ number ∧
    number < daysBeforeYear ((if number < daysBeforeYear near then near - 1
      else if number < daysBeforeYear (near + 1) then near else near + 1) + 1)
  by_cases before : number < daysBeforeYear near
  · rw [if_pos before, Int.sub_add_cancel]
    omega
  · rw [if_neg before]
    by_cases within : number < daysBeforeYear (near + 1)
    · rw [if_pos within]
      omega
    · rw [if_neg within]
      omega

/-- The days before a month end with those of the month before. -/
theorem daysBeforeMonth_succ {month length : Nat} (positive : 1 ≤ month)
    (found : (monthLengths year)[month - 1]? = some length) :
    daysBeforeMonth year (month + 1) = daysBeforeMonth year month + length := by
  have single : daysOf [length] = length := Nat.zero_add length
  have split : month + 1 - 1 = month - 1 + 1 := by omega
  rw [daysBeforeMonth_eq, daysBeforeMonth_eq, split, List.take_add_one, found, daysOf_append,
    Option.toList_some, single]

/-- A later month begins later. -/
theorem daysBeforeMonth_le {earlier later : Nat} (ordered : earlier ≤ later) :
    daysBeforeMonth year earlier ≤ daysBeforeMonth year later := by
  have fewer : earlier - 1 ≤ later - 1 := by omega
  obtain ⟨between, split⟩ := List.take_prefix_take_left (l := monthLengths year) fewer
  rw [daysBeforeMonth_eq, daysBeforeMonth_eq, ← split, daysOf_append]
  exact Nat.le_add_right _ _

/-- Every day that some months hold lies in one of them, after the months before it. -/
theorem exists_month {lengths : List Nat} (within : passed < daysOf lengths) :
    ∃ months length inMonth, lengths[months]? = some length ∧ inMonth < length ∧
      passed = daysOf (lengths.take months) + inMonth := by
  induction lengths generalizing passed with
  | nil => exact absurd within (Nat.not_lt_zero passed)
  | cons first more ih =>
    rw [daysOf_cons] at within
    by_cases inFirst : passed < first
    · exact ⟨0, first, passed, rfl, inFirst, (Nat.zero_add passed).symm⟩
    · have inMore : passed - first < daysOf more := by omega
      obtain ⟨months, length, inMonth, found, short, place⟩ := ih inMore
      refine ⟨months + 1, length, inMonth, found, short, ?_⟩
      rw [List.take_succ_cons, daysOf_cons]
      omega

end Calendar

open Calendar

namespace Date

variable {a b date : Date} {number : Int}

/-! ## The order of days is the order of their numbers -/

/-- An earlier day has a lower number. -/
theorem dayNumber_lt (earlier : a < b) : a.dayNumber < b.dayNumber := by
  have inYear := a.daysBeforeMonth_add_lt
  obtain ⟨length, found, inMonth⟩ := a.exists_length
  have firstDay := a.day_range.1
  unfold dayNumber
  rcases earlier with years | ⟨sameYear, months | ⟨sameMonth, days⟩⟩
  · have next := daysBeforeYear_succ a.year
    have later := daysBeforeYear_le (show a.year + 1 ≤ b.year by omega)
    omega
  · have next := daysBeforeMonth_succ a.month_range.1 found
    have later : daysBeforeMonth a.year (a.month + 1) ≤ daysBeforeMonth a.year b.month :=
      daysBeforeMonth_le months
    rw [← sameYear]
    omega
  · rw [← sameYear, ← sameMonth]
    omega

/-- Of two days one is the earlier, or they are the same. -/
protected theorem lt_trichotomy (a b : Date) : a < b ∨ a = b ∨ b < a := by
  by_cases earlier : a < b
  · exact .inl earlier
  · by_cases later : b < a
    · exact .inr (.inr later)
    · exact .inr (.inl (Date.le_antisymm later earlier))

/-- A day is earlier than another if its number is lower. -/
theorem lt_iff_dayNumber_lt : a < b ↔ a.dayNumber < b.dayNumber := by
  constructor
  · exact dayNumber_lt
  · intro lower
    rcases Date.lt_trichotomy a b with earlier | same | later
    · exact earlier
    · rw [same] at lower
      omega
    · have higher := dayNumber_lt later
      omega

/-- A day is at most another if its number is. -/
theorem le_iff_dayNumber_le : a ≤ b ↔ a.dayNumber ≤ b.dayNumber := by
  change ¬ b < a ↔ _
  rw [lt_iff_dayNumber_lt]
  omega

/-- No day is earlier than itself. -/
protected theorem lt_irrefl (a : Date) : ¬ a < a := by
  rw [lt_iff_dayNumber_lt]
  omega

/-- A day is at most itself. -/
protected theorem le_refl (a : Date) : a ≤ a := Date.lt_irrefl a

/-- An earlier day is at most the later one. -/
protected theorem le_of_lt (earlier : a < b) : a ≤ b := by
  rw [lt_iff_dayNumber_lt] at earlier
  rw [le_iff_dayNumber_le]
  omega

/-- A day is at most all days that a later one is at most. -/
protected theorem le_trans {c : Date} (first : a ≤ b) (second : b ≤ c) : a ≤ c := by
  rw [le_iff_dayNumber_le] at first second ⊢
  omega

/-- An earlier year has earlier days. -/
theorem lt_of_year_lt (years : a.year < b.year) : a < b := .inl years

/-- A later day is in the same year or in a later one. -/
theorem year_le_of_le (ordered : a ≤ b) : a.year ≤ b.year :=
  Int.not_lt.1 fun years => ordered (lt_of_year_lt years)

/-- Different days have different numbers. -/
theorem eq_of_dayNumber_eq (same : a.dayNumber = b.dayNumber) : a = b :=
  Date.le_antisymm (le_iff_dayNumber_le.2 (Int.le_of_eq same))
    (le_iff_dayNumber_le.2 (Int.le_of_eq same.symm))

/-! ## The range of the calendar -/

/-- The first day of the calendar. -/
def first : Date := ⟨firstYear, 1, 1, by decide⟩

/-- The last day of the calendar. -/
def last : Date := ⟨lastYear, 12, 31, by decide⟩

/-- The calendar begins with its first year. -/
theorem dayNumber_first : first.dayNumber = daysBeforeYear firstYear := by decide

/-- The year after the last one would begin on the day after the last day. -/
theorem dayNumber_last : last.dayNumber + 1 = daysBeforeYear (lastYear + 1) := by decide

/-- A day lies between the first and the last one. -/
theorem dayNumber_range (date : Date) :
    first.dayNumber ≤ date.dayNumber ∧ date.dayNumber ≤ last.dayNumber := by
  have inYear := date.daysBeforeMonth_add_lt
  have next := daysBeforeYear_succ date.year
  have begins := daysBeforeYear_le date.admitted.1
  have ends := daysBeforeYear_le (Int.add_le_add_right date.admitted.2.1 1)
  have earliest := dayNumber_first
  have latest := dayNumber_last
  have number : date.dayNumber = daysBeforeYear date.year +
      daysBeforeMonth date.year date.month + (date.day - 1 : Nat) := rfl
  omega

/-- Every number from that of the first day to that of the last is the number of a day. -/
theorem exists_dayNumber (notBefore : first.dayNumber ≤ number)
    (notAfter : number ≤ last.dayNumber) : ∃ date : Date, date.dayNumber = number := by
  obtain ⟨year, begun, notOver⟩ : ∃ year, daysBeforeYear year ≤ number ∧
      number < daysBeforeYear (year + 1) := ⟨yearOf number, yearOf_bounds number⟩
  have next := daysBeforeYear_succ year
  have inCalendar : firstYear ≤ year ∧ year ≤ lastYear := by
    rw [dayNumber_first] at notBefore
    have notLater : number < daysBeforeYear (lastYear + 1) := by
      rw [← dayNumber_last]
      omega
    refine ⟨Int.not_lt.1 fun early => ?_, Int.not_lt.1 fun late => ?_⟩
    · have ends := daysBeforeYear_le (show year + 1 ≤ firstYear by omega)
      omega
    · have begins := daysBeforeYear_le (show lastYear + 1 ≤ year by omega)
      omega
  have within : (number - daysBeforeYear year).toNat < daysOf (monthLengths year) := by
    rw [daysOf_monthLengths]
    omega
  obtain ⟨months, length, inMonth, found, short, place⟩ := exists_month within
  have admitted : Admits year (months + 1) (inMonth + 1) := by
    refine ⟨inCalendar.1, inCalendar.2, Nat.succ_pos inMonth, ?_⟩
    unfold daysInMonth
    rw [if_neg (Nat.succ_ne_zero months), Nat.add_sub_cancel, List.getD_eq_getElem?_getD, found]
    exact short
  refine ⟨⟨year, months + 1, inMonth + 1, admitted⟩, ?_⟩
  unfold dayNumber
  rw [daysBeforeMonth_eq]
  show daysBeforeYear year + ((daysOf ((monthLengths year).take months) : Nat) : Int) +
    (inMonth : Nat) = number
  omega

/-- A number names the day that has it. -/
theorem ofDayNumber?_eq_some_iff : ofDayNumber? number = some date ↔ date.dayNumber = number := by
  constructor
  · intro found
    have sameYear : date.year = yearOf number := (of?_eq_some_iff.1 found).1
    obtain ⟨begun, notOver⟩ := yearOf_bounds number
    have begins := daysBeforeYear_le date.admitted.1
    have ends := daysBeforeYear_le (Int.add_le_add_right date.admitted.2.1 1)
    rw [← sameYear] at begun notOver
    have notBefore : first.dayNumber ≤ number := by
      rw [dayNumber_first]
      omega
    have notAfter : number ≤ last.dayNumber := by
      have latest := dayNumber_last
      omega
    obtain ⟨day, isDay⟩ := exists_dayNumber notBefore notAfter
    rw [← isDay, ofDayNumber?_dayNumber] at found
    rw [← Option.some.inj found]
    exact isDay
  · rintro rfl
    exact date.ofDayNumber?_dayNumber

/-- A number names no day if it lies outside the calendar. -/
theorem ofDayNumber?_eq_none_iff :
    ofDayNumber? number = none ↔ number < first.dayNumber ∨ last.dayNumber < number := by
  constructor
  · intro missing
    by_cases inside : first.dayNumber ≤ number ∧ number ≤ last.dayNumber
    · obtain ⟨day, isDay⟩ := exists_dayNumber inside.1 inside.2
      rw [ofDayNumber?_eq_some_iff.2 isDay] at missing
      cases missing
    · omega
  · intro outside
    cases found : ofDayNumber? number with
    | none => rfl
    | some day =>
      have isDay := ofDayNumber?_eq_some_iff.1 found
      have range := day.dayNumber_range
      omega

/-- To go some days forth or back is to add to the number of the day. -/
theorem addDays?_eq_some_iff {days : Int} :
    a.addDays? days = some b ↔ b.dayNumber = a.dayNumber + days := ofDayNumber?_eq_some_iff

/-- The days before a day are in the calendar down to its first day. -/
theorem addDays?_back_eq_none_iff {days : Int} (back : days ≤ 0) :
    a.addDays? days = none ↔ a.dayNumber + days < first.dayNumber := by
  have range := a.dayNumber_range
  unfold addDays?
  rw [ofDayNumber?_eq_none_iff]
  omega

end Date

end ReminderDispatch
