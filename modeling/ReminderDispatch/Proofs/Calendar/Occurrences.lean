import ReminderDispatch.Calendar.Anniversary
import ReminderDispatch.Proofs.Calendar.DayOrder

/-!
# Occurrences of anniversaries

An anniversary occurs once in every year of the calendar. The search looks at the year of the day on
which it starts and, when the occurrence of that year is over, at the next year. So it ends at the
first occurrence from that day on, and fails only where the calendar ends before one.
-/

namespace ReminderDispatch

namespace Calendar

variable {year : Int} {month day : Nat}

/-- Only the length of February depends on the year. -/
theorem daysInMonth_eq (notFebruary : month ≠ 2) (year other : Int) :
    daysInMonth year month = daysInMonth other month := by
  unfold daysInMonth monthLengths
  match month with
  | 0 => rfl
  | 1 => rfl
  | 2 => exact absurd rfl notFebruary
  | month + 3 => rfl

/-- February has 29 days in a leap year and 28 days in any other. -/
theorem daysInMonth_february (year : Int) :
    daysInMonth year 2 = if isLeap year then 29 else 28 := rfl

/-- March has 31 days in every year. -/
theorem daysInMonth_march (year : Int) : daysInMonth year 3 = 31 := rfl

end Calendar

open Calendar

namespace Anniversary

variable {anniversary now day : Date} {year : Int}

/-! ## The occurrence of a year -/

/-- The anniversary is a 29 February. -/
def IsLeapDay (anniversary : Date) : Prop := anniversary.month = 2 ∧ anniversary.day = 29

instance (anniversary : Date) : Decidable (IsLeapDay anniversary) :=
  inferInstanceAs (Decidable (_ ∧ _))

/-- The anniversary occurs on its own day of the year, and on 1 March in the place of a 29 February
that the year does not have. -/
def OccursOn (anniversary day : Date) : Prop :=
  day.month = anniversary.month ∧ day.day = anniversary.day ∨
    IsLeapDay anniversary ∧ isLeap day.year = false ∧ day.month = 3 ∧ day.day = 1

instance (anniversary day : Date) : Decidable (OccursOn anniversary day) :=
  inferInstanceAs (Decidable (_ ∨ _))

/-- A year without 29 February has no day for an anniversary of that day. -/
theorem not_admits_leapDay (leapDay : IsLeapDay anniversary) (common : isLeap year = false) :
    ¬ Admits year anniversary.month anniversary.day := by
  intro admitted
  have atMost : anniversary.day ≤ daysInMonth year anniversary.month := admitted.2.2.2
  rw [leapDay.1, leapDay.2, daysInMonth_february, common] at atMost
  exact absurd atMost (by decide)

/-- Every other anniversary has its day in every year of the calendar. -/
theorem admits_of_not_leapDay (inCalendar : firstYear ≤ year ∧ year ≤ lastYear)
    (regular : ¬ (IsLeapDay anniversary ∧ isLeap year = false)) :
    Admits year anniversary.month anniversary.day := by
  have own : anniversary.day ≤ daysInMonth anniversary.year anniversary.month :=
    anniversary.admitted.2.2.2
  refine ⟨inCalendar.1, inCalendar.2, anniversary.day_range.1, ?_⟩
  by_cases february : anniversary.month = 2
  · rw [february, daysInMonth_february] at own ⊢
    cases leap : isLeap year with
    | true => exact Nat.le_trans own (by split <;> decide)
    | false =>
      have notLast : anniversary.day ≠ 29 := fun isLast => regular ⟨⟨february, isLast⟩, leap⟩
      have atMost : anniversary.day ≤ 29 := Nat.le_trans own (by split <;> decide)
      exact Nat.le_of_lt_succ (Nat.lt_of_le_of_ne atMost notLast)
  · rw [daysInMonth_eq february year anniversary.year]
    exact own

/-- Every year of the calendar has a 1 March. -/
theorem admits_march (inCalendar : firstYear ≤ year ∧ year ≤ lastYear) : Admits year 3 1 :=
  ⟨inCalendar.1, inCalendar.2, Nat.le_refl 1, by rw [daysInMonth_march]; decide⟩

/-- The month and the day of the month on which the anniversary occurs in a year. -/
def monthDayIn (anniversary : Date) (year : Int) : Nat × Nat :=
  if IsLeapDay anniversary ∧ isLeap year = false then (3, 1)
  else (anniversary.month, anniversary.day)

/-- Every year of the calendar has the day on which the anniversary occurs. -/
theorem admits_monthDayIn (anniversary : Date) (inCalendar : firstYear ≤ year ∧ year ≤ lastYear) :
    Admits year (monthDayIn anniversary year).1 (monthDayIn anniversary year).2 := by
  unfold monthDayIn
  split
  · exact admits_march inCalendar
  · next regular => exact admits_of_not_leapDay inCalendar regular

/-- A day on which the anniversary occurs is the one of its year. -/
theorem occursOn_iff :
    OccursOn anniversary day ↔ (day.month, day.day) = monthDayIn anniversary day.year := by
  unfold monthDayIn
  split
  · next moved =>
    rw [Prod.mk.injEq]
    constructor
    · rintro (own | ⟨-, -, first⟩)
      · have admitted := day.admitted
        rw [own.1, own.2] at admitted
        exact absurd admitted (not_admits_leapDay moved.1 moved.2)
      · exact first
    · intro first
      exact .inr ⟨moved.1, moved.2, first⟩
  · next regular =>
    rw [Prod.mk.injEq]
    constructor
    · rintro (own | ⟨leapDay, common, -⟩)
      · exact own
      · exact absurd ⟨leapDay, common⟩ regular
    · exact .inl

/-- Outside the calendar there is no day. -/
theorem dateInYear_eq_error (outside : ¬ (firstYear ≤ year ∧ year ≤ lastYear)) :
    dateInYear anniversary year = .error .outOfRange := by
  have missing : ∀ month day, Date.of? year month day = none := fun month day =>
    dif_neg fun admitted => outside ⟨admitted.1, admitted.2.1⟩
  unfold dateInYear
  rw [missing, missing]

/-- In every year of the calendar the anniversary falls on the day on which it occurs. -/
theorem dateInYear_eq_ok (inCalendar : firstYear ≤ year ∧ year ≤ lastYear) :
    dateInYear anniversary year = .ok ⟨year, _, _, admits_monthDayIn anniversary inCalendar⟩ := by
  unfold dateInYear
  by_cases moved : IsLeapDay anniversary ∧ isLeap year = false
  · have missing : Date.of? year anniversary.month anniversary.day = none :=
      dif_neg (not_admits_leapDay moved.1 moved.2)
    have march : Date.of? year 3 1 = some ⟨year, 3, 1, admits_march inCalendar⟩ := dif_pos _
    simp only [missing, march, monthDayIn, if_pos moved]
  · have own : Date.of? year anniversary.month anniversary.day =
        some ⟨year, _, _, admits_of_not_leapDay inCalendar moved⟩ := dif_pos _
    simp only [own, monthDayIn, if_neg moved]

/-- Every year of the calendar has its occurrence, and only one. -/
theorem exists_dateInYear (anniversary : Date) (inCalendar : firstYear ≤ year ∧ year ≤ lastYear) :
    ∃ date, dateInYear anniversary year = .ok date ∧
      ∀ day : Date, day.year = year ∧ OccursOn anniversary day ↔ day = date := by
  refine ⟨_, dateInYear_eq_ok inCalendar, fun day => ?_⟩
  rw [occursOn_iff, Date.mk.injEq]
  constructor
  · rintro ⟨rfl, place⟩
    exact ⟨rfl, congrArg Prod.fst place, congrArg Prod.snd place⟩
  · rintro ⟨rfl, month, number⟩
    exact ⟨rfl, Prod.ext month number⟩

/-! ## The first occurrence -/

/-- The anniversary occurs on the day, and not before it from a day on. -/
structure IsFirstFrom (anniversary now day : Date) : Prop where
  /-- The search does not go back. -/
  notBefore : now ≤ day
  /-- The anniversary occurs. -/
  occurs : OccursOn anniversary day
  /-- No occurrence is passed. -/
  nonePassed : ∀ other, now ≤ other → other < day → ¬ OccursOn anniversary other

/-- There is only one first occurrence. -/
theorem IsFirstFrom.unique {other : Date} (isFirst : IsFirstFrom anniversary now day)
    (isOther : IsFirstFrom anniversary now other) : day = other := by
  rcases Date.lt_trichotomy day other with earlier | same | later
  · exact absurd isFirst.occurs (isOther.nonePassed day isFirst.notBefore earlier)
  · exact same
  · exact absurd isOther.occurs (isFirst.nonePassed other isOther.notBefore later)

/-- The search ends at the first occurrence, or there is none up to the end of the calendar. -/
theorem nextOccurrence_cases (anniversary now : Date) :
    (∃ day, nextOccurrence anniversary now = .ok day ∧ IsFirstFrom anniversary now day) ∨
      nextOccurrence anniversary now = .error .outOfRange ∧
        ∀ day, now ≤ day → ¬ OccursOn anniversary day := by
  obtain ⟨thisYear, found, isOnly⟩ :=
    exists_dateInYear anniversary ⟨now.admitted.1, now.admitted.2.1⟩
  have inYear : thisYear.year = now.year ∧ OccursOn anniversary thisYear := (isOnly thisYear).2 rfl
  have searched : nextOccurrence anniversary now =
      if thisYear < now then dateInYear anniversary (now.year + 1) else .ok thisYear := by
    unfold nextOccurrence
    rw [found]
    rfl
  rw [searched]
  by_cases passed : thisYear < now
  · rw [if_pos passed]
    -- The occurrence of this year is over, so what is searched for lies in a later year.
    have later : ∀ day : Date, now ≤ day → OccursOn anniversary day → now.year + 1 ≤ day.year := by
      intro day notBefore occurs
      have notEarlier := Date.year_le_of_le notBefore
      have otherYear : day.year ≠ now.year := by
        intro sameYear
        rw [(isOnly day).1 ⟨sameYear, occurs⟩] at notBefore
        exact notBefore passed
      omega
    by_cases goesOn : now.year + 1 ≤ lastYear
    · have begun : firstYear ≤ now.year + 1 := Int.le_trans now.admitted.1 (by omega)
      obtain ⟨nextYear, foundNext, isOnlyNext⟩ := exists_dateInYear anniversary ⟨begun, goesOn⟩
      have inNext := (isOnlyNext nextYear).2 rfl
      have after : now < nextYear := Date.lt_of_year_lt (by omega)
      refine .inl ⟨nextYear, foundNext, Date.le_of_lt after, inNext.2, ?_⟩
      intro other notBefore earlier occurs
      have notLater := Date.year_le_of_le (Date.le_of_lt earlier)
      have sameYear : other.year = now.year + 1 := by
        have := later other notBefore occurs
        omega
      rw [(isOnlyNext other).1 ⟨sameYear, occurs⟩] at earlier
      exact Date.lt_irrefl nextYear earlier
    · refine .inr ⟨dateInYear_eq_error fun inCalendar => goesOn inCalendar.2, ?_⟩
      intro day notBefore occurs
      have := later day notBefore occurs
      have inCalendar : day.year ≤ lastYear := day.admitted.2.1
      omega
  · rw [if_neg passed]
    refine .inl ⟨thisYear, rfl, passed, inYear.2, ?_⟩
    intro other notBefore earlier occurs
    have notEarlier := Date.year_le_of_le notBefore
    have notLater := Date.year_le_of_le (Date.le_of_lt earlier)
    rw [(isOnly other).1 ⟨by omega, occurs⟩] at earlier
    exact Date.lt_irrefl thisYear earlier

/-- The search succeeds with the first occurrence only. -/
theorem nextOccurrence_eq_ok_iff :
    nextOccurrence anniversary now = .ok day ↔ IsFirstFrom anniversary now day := by
  rcases nextOccurrence_cases anniversary now with ⟨first, found, isFirst⟩ | ⟨failed, noneLeft⟩
  · rw [found, Except.ok.injEq]
    constructor
    · rintro rfl
      exact isFirst
    · intro isOther
      exact isFirst.unique isOther
  · rw [failed]
    constructor
    · intro impossible
      cases impossible
    · intro isFirst
      exact absurd isFirst.occurs (noneLeft day isFirst.notBefore)

/-- The search fails, with one error, where no occurrence is left. -/
theorem nextOccurrence_eq_error_iff {error : NoticeError} :
    nextOccurrence anniversary now = .error error ↔
      error = .outOfRange ∧ ∀ day, now ≤ day → ¬ OccursOn anniversary day := by
  rcases nextOccurrence_cases anniversary now with ⟨first, found, isFirst⟩ | ⟨failed, noneLeft⟩
  · rw [found]
    constructor
    · intro impossible
      cases impossible
    · rintro ⟨-, noneLeft⟩
      exact absurd isFirst.occurs (noneLeft first isFirst.notBefore)
  · rw [failed, Except.error.injEq]
    constructor
    · rintro rfl
      exact ⟨rfl, noneLeft⟩
    · rintro ⟨rfl, -⟩
      rfl

/-- The search ends where it starts if the anniversary occurs there. -/
theorem nextOccurrence_eq_self_iff :
    nextOccurrence anniversary day = .ok day ↔ OccursOn anniversary day := by
  rw [nextOccurrence_eq_ok_iff]
  constructor
  · exact IsFirstFrom.occurs
  · intro occurs
    exact ⟨Date.lt_irrefl day, occurs, fun other notBefore earlier => absurd earlier notBefore⟩

/-- The anniversary falls on the days on which it occurs. -/
theorem fallsOn_iff : fallsOn anniversary day = true ↔ OccursOn anniversary day := by
  rw [← nextOccurrence_eq_self_iff]
  unfold fallsOn
  cases nextOccurrence anniversary day <;> simp

/-- The next occurrence is the first day from `now` on, `now` included, on which the anniversary
occurs, and there is none exactly when the calendar ends before one. -/
theorem nextOccurrence_first (anniversary now : Date) :
    (∀ day, nextOccurrence anniversary now = .ok day ↔
      now ≤ day ∧ OccursOn anniversary day ∧
        ∀ other, now ≤ other → other < day → ¬ OccursOn anniversary other) ∧
    (nextOccurrence anniversary now = .error .outOfRange ↔
      ∀ day, now ≤ day → ¬ OccursOn anniversary day) ∧
    (∀ error, nextOccurrence anniversary now = .error error → error = .outOfRange) := by
  refine ⟨fun day => ?_, ?_, fun error failed => (nextOccurrence_eq_error_iff.1 failed).1⟩
  · rw [nextOccurrence_eq_ok_iff]
    constructor
    · intro isFirst
      exact ⟨isFirst.notBefore, isFirst.occurs, isFirst.nonePassed⟩
    · rintro ⟨notBefore, occurs, nonePassed⟩
      exact ⟨notBefore, occurs, nonePassed⟩
  · rw [nextOccurrence_eq_error_iff]
    exact ⟨fun failed => failed.2, fun noneLeft => ⟨rfl, noneLeft⟩⟩

/-- The year 2100 is no leap year. -/
example : (do
    let anniversary ← Date.of? 2000 2 29
    let now ← Date.of? 2099 3 2
    (nextOccurrence anniversary now).toOption) = Date.of? 2100 3 1 := by decide

end Anniversary

end ReminderDispatch
