import ReminderDispatch.Calendar.Instant

/-!
# Numbers of days

A day is found again from its number. The mean length of a year leads from a number to the year that
holds it or to one of its neighbours, and the months of that year are counted off up to the day. So
an instant is found again from its midnight and the seconds since then.
-/

namespace ReminderDispatch

namespace Calendar

variable {year : Int} {passed : Nat}

/-! ## Years -/

/-- The number of days of a year. -/
def daysInYear (year : Int) : Nat := if isLeap year then 366 else 365

/-- A leap year is every fourth one, but of the years that end a century only every fourth. -/
theorem isLeap_iff (year : Int) :
    isLeap year = true ↔ year % 4 = 0 ∧ (year % 100 ≠ 0 ∨ year % 400 = 0) := by
  unfold isLeap
  simp only [Bool.and_eq_true, Bool.or_eq_true, beq_iff_eq, bne_iff_ne]

/-- The next year begins when all days of a year are over. -/
theorem daysBeforeYear_succ (year : Int) :
    daysBeforeYear (year + 1) = daysBeforeYear year + daysInYear year := by
  unfold daysBeforeYear daysInYear
  by_cases leap : isLeap year = true
  · have rule := (isLeap_iff year).1 leap
    rw [if_pos leap]
    omega
  · have rule : ¬ (year % 4 = 0 ∧ (year % 100 ≠ 0 ∨ year % 400 = 0)) := fun holds =>
      leap ((isLeap_iff year).2 holds)
    rw [if_neg leap]
    omega

/-- In 400 years there are 146097 days, and the days before any year are close to their mean. -/
theorem daysBeforeYear_bounds (year : Int) :
    146097 * (year - 1) - 699 ≤ 400 * daysBeforeYear year ∧
      400 * daysBeforeYear year ≤ 146097 * (year - 1) + 396 := by
  unfold daysBeforeYear
  omega

/-- The year of a day is found from its number. -/
theorem yearOf_daysBeforeYear (inYear : passed < daysInYear year) :
    yearOf (daysBeforeYear year + passed) = year := by
  have atMost : daysInYear year ≤ 366 := by unfold daysInYear; split <;> omega
  have mean := daysBeforeYear_bounds year
  have next := daysBeforeYear_succ year
  have before := daysBeforeYear_succ (year - 1)
  rw [Int.sub_add_cancel] at before
  have near : (daysBeforeYear year + passed) * 400 / 146097 + 1 = year - 1 ∨
      (daysBeforeYear year + passed) * 400 / 146097 + 1 = year ∨
      (daysBeforeYear year + passed) * 400 / 146097 + 1 = year + 1 := by omega
  unfold yearOf
  dsimp only
  rcases near with early | same | late
  · rw [early, Int.sub_add_cancel, if_neg (by omega), if_neg (by omega)]
  · rw [same, if_neg (by omega), if_pos (by omega)]
  · rw [late, if_pos (by omega)]
    omega

/-! ## Months -/

/-- The days of some months. -/
def daysOf (lengths : List Nat) : Nat := lengths.foldl (· + ·) 0

/-- The days of months are those of the first one and of the others. -/
theorem daysOf_cons (first : Nat) (more : List Nat) :
    daysOf (first :: more) = first + daysOf more := by
  unfold daysOf
  rw [← List.sum_eq_foldl, ← List.sum_eq_foldl, List.sum_cons]

/-- The days of months are those of the earlier ones and of the later ones. -/
theorem daysOf_append (earlier later : List Nat) :
    daysOf (earlier ++ later) = daysOf earlier + daysOf later := by
  unfold daysOf
  rw [← List.sum_eq_foldl, ← List.sum_eq_foldl, ← List.sum_eq_foldl, List.sum_append]

/-- Months that are over are counted off up to the one that holds the day. -/
theorem monthDay_take {lengths : List Nat} {months length : Nat} (inMonth : passed < length)
    (month : Nat) (found : lengths[months]? = some length) :
    monthDay lengths month (daysOf (lengths.take months) + passed) = (month + months, passed + 1) := by
  induction lengths generalizing months month with
  | nil => simp at found
  | cons first more ih =>
    cases months with
    | zero =>
      have isFirst : first = length := Option.some.inj found
      have none : daysOf [] = 0 := rfl
      rw [List.take_zero, none, Nat.zero_add, monthDay, if_pos (isFirst ▸ inMonth)]
      rfl
    | succ months =>
      have later : more[months]? = some length := found
      have split : daysOf ((first :: more).take (months + 1)) + passed =
          first + (daysOf (more.take months) + passed) := by
        rw [List.take_succ_cons, daysOf_cons, Nat.add_assoc]
      rw [split, monthDay, if_neg (by omega), Nat.add_sub_cancel_left, ih (month + 1) later]
      congr 1
      omega

/-- The days before a month are those of the months before it. -/
theorem daysBeforeMonth_eq (year : Int) (month : Nat) :
    daysBeforeMonth year month = daysOf ((monthLengths year).take (month - 1)) := rfl

/-- The months of a year make up the year. -/
theorem daysOf_monthLengths (year : Int) : daysOf (monthLengths year) = daysInYear year := by
  unfold monthLengths daysInYear
  split <;> rfl

end Calendar

open Calendar

namespace Date

variable (date : Date)

/-- The length of the month of a date, which the day does not pass. -/
theorem exists_length : ∃ length, (monthLengths date.year)[date.month - 1]? = some length ∧
    date.day - 1 < length := by
  obtain ⟨year, month, day, admitted⟩ := date
  have first : 1 ≤ day := admitted.2.2.1
  have last : day ≤ daysInMonth year month := admitted.2.2.2
  show ∃ length, (monthLengths year)[month - 1]? = some length ∧ day - 1 < length
  unfold daysInMonth at last
  split at last
  · omega
  · rw [List.getD_eq_getElem?_getD] at last
    cases found : (monthLengths year)[month - 1]? with
    | none =>
      rw [found, Option.getD_none] at last
      omega
    | some length =>
      rw [found, Option.getD_some] at last
      exact ⟨length, rfl, by omega⟩

/-- The day of a date is one of the 31 that a month can have. -/
theorem day_range : 1 ≤ date.day ∧ date.day ≤ 31 := by
  have first : 1 ≤ date.day := date.admitted.2.2.1
  obtain ⟨length, found, inMonth⟩ := date.exists_length
  have atMost : ∀ length ∈ monthLengths date.year, length ≤ 31 := by
    unfold monthLengths
    split <;> decide
  have inYear := atMost length (List.mem_of_getElem? found)
  omega

/-- A date lies in its year. -/
theorem daysBeforeMonth_add_lt :
    daysBeforeMonth date.year date.month + (date.day - 1) < daysInYear date.year := by
  obtain ⟨length, found, inMonth⟩ := date.exists_length
  have upTo : daysOf ((monthLengths date.year).take (date.month - 1 + 1)) ≤
      daysOf (monthLengths date.year) := by
    have split := List.take_append_drop (date.month - 1 + 1) (monthLengths date.year)
    calc
      daysOf ((monthLengths date.year).take (date.month - 1 + 1)) ≤
          daysOf ((monthLengths date.year).take (date.month - 1 + 1)) +
            daysOf ((monthLengths date.year).drop (date.month - 1 + 1)) := Nat.le_add_right _ _
      _ = daysOf (monthLengths date.year) := by rw [← daysOf_append, split]
  have single : daysOf [length] = length := Nat.zero_add length
  rw [List.take_add_one, found, daysOf_append, Option.toList_some, single] at upTo
  rw [daysBeforeMonth_eq, ← daysOf_monthLengths]
  omega

/-- A day is found from its number. -/
theorem ofDayNumber?_dayNumber : ofDayNumber? date.dayNumber = some date := by
  obtain ⟨length, found, inMonth⟩ := date.exists_length
  have inYear := date.daysBeforeMonth_add_lt
  have number : date.dayNumber = daysBeforeYear date.year +
      ((daysBeforeMonth date.year date.month + (date.day - 1) : Nat) : Int) := by
    unfold dayNumber
    omega
  have passed : (date.dayNumber - daysBeforeYear date.year).toNat =
      daysOf ((monthLengths date.year).take (date.month - 1)) + (date.day - 1) := by
    rw [number, ← daysBeforeMonth_eq]
    omega
  have year : yearOf date.dayNumber = date.year := by
    rw [number]
    exact yearOf_daysBeforeYear inYear
  have months := date.month_range
  have day : 1 ≤ date.day := date.admitted.2.2.1
  unfold ofDayNumber?
  dsimp only
  rw [year, passed, monthDay_take inMonth 1 found]
  have sameMonth : 1 + (date.month - 1) = date.month := by omega
  have sameDay : date.day - 1 + 1 = date.day := by omega
  rw [sameMonth, sameDay]
  exact date.of?_self

/-- No days later it is the same day. -/
theorem addDays?_zero : date.addDays? 0 = some date := by
  unfold addDays?
  rw [Int.add_zero]
  exact date.ofDayNumber?_dayNumber

end Date

namespace Instant

variable (time : Instant)

/-- The second runs past its end only if it is the last one of its minute. -/
def IsRegular : Prop := time.nanos < 1000000000 ∨ time.second % 60 = 59

variable {time} (regular : time.IsRegular)
include regular

/-- The parts of a regular instant make this instant. -/
theorem of?_self : of? time.date time.second time.nanos = some time := by
  unfold of?
  rw [dif_pos ⟨time.inDay, time.inSecond, regular⟩]

/-- A regular instant is found from the seconds of its day. -/
theorem ofSeconds?_self : ofSeconds? time.date time.second time.nanos = some time := by
  have inDay := time.inDay
  have noDay : (time.second : Int) / 86400 = 0 := by omega
  have clock : ((time.second : Int) % 86400).toNat = time.second := by omega
  unfold ofSeconds?
  rw [noDay, clock, time.date.addDays?_zero]
  exact of?_self regular

end Instant

end ReminderDispatch
