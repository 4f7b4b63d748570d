/-!
# Dates

Days of the proleptic Gregorian calendar, in the years that the calendar covers. Each day has a
number, counted from 1 January of year 1, and `ofDayNumber?` finds the day of a number.
-/

namespace ReminderDispatch

namespace Calendar

/-- The first year of the calendar. -/
def firstYear : Int := -262143

/-- The last year of the calendar. -/
def lastYear : Int := 262142

/-- The year has a 29 February. -/
def isLeap (year : Int) : Bool :=
  year % 4 == 0 && (year % 100 != 0 || year % 400 == 0)

/-- The lengths of the months of a year, in order. -/
def monthLengths (year : Int) : List Nat :=
  [31, if isLeap year then 29 else 28, 31, 30, 31, 30, 31, 31, 30, 31, 30, 31]

/-- The number of days of a month, with months counted from 1; a month that does not exist has
none. -/
def daysInMonth (year : Int) (month : Nat) : Nat :=
  if month = 0 then 0 else (monthLengths year).getD (month - 1) 0

/-- The year, month and day name a day of the calendar. -/
def Admits (year : Int) (month day : Nat) : Prop :=
  firstYear ≤ year ∧ year ≤ lastYear ∧ 1 ≤ day ∧ day ≤ daysInMonth year month

instance (year : Int) (month day : Nat) : Decidable (Admits year month day) :=
  inferInstanceAs (Decidable (_ ∧ _ ∧ _ ∧ _))

/-- The days before 1 January of a year, counted from 1 January of year 1. -/
def daysBeforeYear (year : Int) : Int :=
  365 * (year - 1) + (year - 1) / 4 - (year - 1) / 100 + (year - 1) / 400

/-- The days of a year before the first of a month. -/
def daysBeforeMonth (year : Int) (month : Nat) : Nat :=
  ((monthLengths year).take (month - 1)).foldl (· + ·) 0

/-- The year that holds a day number: the mean length of a year leads to it or to a neighbour. -/
def yearOf (number : Int) : Int :=
  let near := number * 400 / 146097 + 1
  if number < daysBeforeYear near then near - 1
  else if number < daysBeforeYear (near + 1) then near
  else near + 1

/-- The month and the day of the month that come after a count of days, given the lengths of the
months from `month` on. -/
def monthDay : List Nat → Nat → Nat → Nat × Nat
  | [], month, passed => (month, passed + 1)
  | length :: later, month, passed =>
    if passed < length then (month, passed + 1) else monthDay later (month + 1) (passed - length)

end Calendar

open Calendar

/-- A day of the calendar. -/
structure Date where
  /-- The year; year 0 is the one before year 1. -/
  year : Int
  /-- The month, from 1 to 12. -/
  month : Nat
  /-- The day of the month, from 1. -/
  day : Nat
  /-- The calendar has this day. -/
  admitted : Admits year month day
  deriving DecidableEq, Repr

namespace Date

/-- The day of a year, month and day of the month, if the calendar has it. -/
def of? (year : Int) (month day : Nat) : Option Date :=
  if admitted : Admits year month day then some ⟨year, month, day, admitted⟩ else none

/-- The number of the day, with 1 January of year 1 as day 0. -/
def dayNumber (date : Date) : Int :=
  daysBeforeYear date.year + daysBeforeMonth date.year date.month + (date.day - 1 : Nat)

/-- The day of a number, if the calendar reaches it. -/
def ofDayNumber? (number : Int) : Option Date :=
  let year := yearOf number
  let found := monthDay (monthLengths year) 1 (number - daysBeforeYear year).toNat
  of? year found.1 found.2

/-- The day that comes a number of days later, or earlier when it is negative. -/
def addDays? (date : Date) (days : Int) : Option Date := ofDayNumber? (date.dayNumber + days)

/-- Earlier days are less: by year, then month, then day. -/
instance : LT Date := ⟨fun a b =>
  a.year < b.year ∨ a.year = b.year ∧ (a.month < b.month ∨ a.month = b.month ∧ a.day < b.day)⟩

instance (a b : Date) : Decidable (a < b) := inferInstanceAs (Decidable (_ ∨ _))

/-- A day is at most another when the other is not earlier. -/
instance : LE Date := ⟨fun a b => ¬ b < a⟩

instance (a b : Date) : Decidable (a ≤ b) := inferInstanceAs (Decidable (¬ _))

/-- Two days are the same if neither is earlier. -/
protected theorem le_antisymm {a b : Date} (notLater : a ≤ b) (notEarlier : b ≤ a) : a = b := by
  obtain ⟨yearA, monthA, dayA, _⟩ := a
  obtain ⟨yearB, monthB, dayB, _⟩ := b
  change ¬ (yearB < yearA ∨ yearB = yearA ∧ (monthB < monthA ∨ monthB = monthA ∧ dayB < dayA))
    at notLater
  change ¬ (yearA < yearB ∨ yearA = yearB ∧ (monthA < monthB ∨ monthA = monthB ∧ dayA < dayB))
    at notEarlier
  have sameYear : yearA = yearB := by omega
  have sameMonth : monthA = monthB := by omega
  have sameDay : dayA = dayB := by omega
  rw [mk.injEq]
  exact ⟨sameYear, sameMonth, sameDay⟩

/-- 1 January 1970. -/
def epoch : Date := ⟨1970, 1, 1, by decide⟩

instance : Inhabited Date := ⟨epoch⟩

/-- The day made of three numbers has these numbers. -/
theorem of?_eq_some_iff {year : Int} {month day : Nat} {date : Date} :
    of? year month day = some date ↔ date.year = year ∧ date.month = month ∧ date.day = day := by
  obtain ⟨y, m, d, admitted⟩ := date
  constructor
  · intro found
    unfold of? at found
    split at found
    · simp_all
    · simp at found
  · rintro ⟨rfl, rfl, rfl⟩
    simp [of?, admitted]

/-- The numbers of a day make that day. -/
@[simp] theorem of?_self (date : Date) : of? date.year date.month date.day = some date :=
  of?_eq_some_iff.2 ⟨rfl, rfl, rfl⟩

/-- A month of the calendar is one of the twelve. -/
theorem month_range (date : Date) : 1 ≤ date.month ∧ date.month ≤ 12 := by
  obtain ⟨year, month, day, admitted⟩ := date
  have some : 0 < daysInMonth year month := by have := admitted.2.2; omega
  show 1 ≤ month ∧ month ≤ 12
  constructor
  · apply Decidable.byContradiction
    intro small
    have zero : month = 0 := by omega
    simp [daysInMonth, zero] at some
  · apply Decidable.byContradiction
    intro large
    have none : (monthLengths year).length ≤ month - 1 := by simp [monthLengths]; omega
    simp [daysInMonth, List.getElem?_eq_none none] at some

end Date

end ReminderDispatch
