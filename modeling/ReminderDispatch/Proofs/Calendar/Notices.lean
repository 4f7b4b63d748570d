import ReminderDispatch.Proofs.Calendar.Occurrences

/-!
# Days of notices

The day of a notice is found by its number: that of the next occurrence less the lead. A negative
lead is refused before any date is looked at. Then only the two ends of the calendar are in the way,
the last one of an occurrence and the first one of a notice.
-/

namespace ReminderDispatch.Anniversary

variable {anniversary now next day : Date} {leadDays : Int}

/-- A negative lead is refused, whatever the dates. -/
theorem noticeFor_negative (negative : leadDays < 0) :
    noticeFor anniversary leadDays now = .error (.invalidLead leadDays) := if_pos negative

/-- Without a next occurrence there is no notice. -/
theorem noticeFor_missing (notNegative : 0 ≤ leadDays) {error : NoticeError}
    (failed : nextOccurrence anniversary now = .error error) :
    noticeFor anniversary leadDays now = .error .outOfRange := by
  unfold noticeFor
  rw [if_neg (Int.not_lt.2 notNegative), failed, (nextOccurrence_eq_error_iff.1 failed).1]
  rfl

/-- A notice before the first day of the calendar is refused. -/
theorem noticeFor_early (notNegative : 0 ≤ leadDays)
    (found : nextOccurrence anniversary now = .ok next)
    (early : next.dayNumber - leadDays < Date.first.dayNumber) :
    noticeFor anniversary leadDays now = .error .outOfRange := by
  have noDay : next.addDays? (-leadDays) = none :=
    (Date.addDays?_back_eq_none_iff (by omega)).2 early
  unfold noticeFor
  rw [if_neg (Int.not_lt.2 notNegative), found]
  simp only [bind, Except.bind, noDay]

/-- Any other notice goes out when the day with the number of the next occurrence less the lead
begins. -/
theorem noticeFor_eq_midnight (notNegative : 0 ≤ leadDays)
    (found : nextOccurrence anniversary now = .ok next)
    (number : day.dayNumber = next.dayNumber - leadDays) :
    noticeFor anniversary leadDays now = .ok (.midnight day) := by
  have isDay : next.addDays? (-leadDays) = some day := Date.addDays?_eq_some_iff.2 number
  unfold noticeFor
  rw [if_neg (Int.not_lt.2 notNegative), found]
  simp only [bind, Except.bind, isDay]

/-- The first day of the calendar is the only bound of a notice below. -/
theorem exists_noticeDay (next : Date) (notNegative : 0 ≤ leadDays)
    (inCalendar : Date.first.dayNumber ≤ next.dayNumber - leadDays) :
    ∃ day : Date, day.dayNumber = next.dayNumber - leadDays := by
  have range := next.dayNumber_range
  exact Date.exists_dayNumber inCalendar (by omega)

/-- Without a lead the notice goes out today exactly if the anniversary occurs today. -/
theorem noticeFor_today_iff :
    noticeFor anniversary 0 day = .ok (.midnight day) ↔ OccursOn anniversary day := by
  rw [← nextOccurrence_eq_self_iff]
  cases searched : nextOccurrence anniversary day with
  | error error =>
    rw [noticeFor_missing (Int.le_refl 0) searched]
    exact iff_of_false (by simp) (by simp)
  | ok next =>
    have number : next.dayNumber = next.dayNumber - 0 := (Int.sub_zero _).symm
    rw [noticeFor_eq_midnight (Int.le_refl 0) searched number]
    constructor
    · intro goesOut
      exact congrArg Except.ok (congrArg Instant.date (Except.ok.inj goesOut))
    · intro isToday
      rw [Except.ok.inj isToday]

/-- A lead is refused exactly if it is negative. Otherwise the notice lies outside the calendar
exactly if there is no next occurrence or if the day before it by the lead precedes the first day,
and in all other cases it goes out when that day begins. -/
theorem noticeFor_exact (anniversary : Date) (leadDays : Int) (now : Date) :
    (noticeFor anniversary leadDays now = .error (.invalidLead leadDays) ↔ leadDays < 0) ∧
    (noticeFor anniversary leadDays now = .error .outOfRange ↔
      0 ≤ leadDays ∧ ((∀ next, nextOccurrence anniversary now ≠ .ok next) ∨
        ∃ next, nextOccurrence anniversary now = .ok next ∧
          next.dayNumber - leadDays < Date.first.dayNumber)) ∧
    (∀ next, 0 ≤ leadDays → nextOccurrence anniversary now = .ok next →
      Date.first.dayNumber ≤ next.dayNumber - leadDays →
      ∃ day : Date, day.dayNumber = next.dayNumber - leadDays ∧
        noticeFor anniversary leadDays now = .ok (.midnight day)) := by
  by_cases negative : leadDays < 0
  · have notLong : ¬ 0 ≤ leadDays := Int.not_le.2 negative
    rw [noticeFor_negative negative]
    refine ⟨iff_of_true rfl negative, iff_of_false (by simp) fun holds => notLong holds.1, ?_⟩
    intro next notNegative
    exact absurd notNegative notLong
  · have notNegative : 0 ≤ leadDays := Int.not_lt.1 negative
    cases searched : nextOccurrence anniversary now with
    | error error =>
      rw [noticeFor_missing notNegative searched]
      refine ⟨iff_of_false (by simp) negative, iff_of_true rfl ⟨notNegative, .inl (by simp)⟩, ?_⟩
      intro next _ impossible
      cases impossible
    | ok found =>
      by_cases early : found.dayNumber - leadDays < Date.first.dayNumber
      · rw [noticeFor_early notNegative searched early]
        refine ⟨iff_of_false (by simp) negative,
          iff_of_true rfl ⟨notNegative, .inr ⟨found, rfl, early⟩⟩, ?_⟩
        intro next _ isFound inCalendar
        rw [← Except.ok.inj isFound] at inCalendar
        exact absurd inCalendar (Int.not_le.2 early)
      · obtain ⟨day, number⟩ := exists_noticeDay found notNegative (Int.not_lt.1 early)
        rw [noticeFor_eq_midnight notNegative searched number]
        refine ⟨iff_of_false (by simp) negative, iff_of_false (by simp) ?_, ?_⟩
        · rintro ⟨-, failed | ⟨next, isFound, isEarly⟩⟩
          · exact failed found rfl
          · rw [← Except.ok.inj isFound] at isEarly
            exact early isEarly
        · intro next _ isFound _
          rw [← Except.ok.inj isFound]
          exact ⟨day, number, rfl⟩

/-- A notice for 1 March that goes out a day before it goes out on 29 February of a leap year. -/
theorem noticeFor_exact_leapDay :
    ∃ anniversary now next day : Date, Date.of? 2025 3 1 = some anniversary ∧
      Date.of? 2024 1 15 = some now ∧ Date.of? 2024 2 29 = some day ∧
      nextOccurrence anniversary now = .ok next ∧
      Date.first.dayNumber ≤ next.dayNumber - 1 ∧
      noticeFor anniversary 1 now = .ok (.midnight day) := by
  let anniversary : Date := ⟨2025, 3, 1, by decide⟩
  let now : Date := ⟨2024, 1, 15, by decide⟩
  let next : Date := ⟨2024, 3, 1, by decide⟩
  have found : nextOccurrence anniversary now = .ok next := rfl
  have inCalendar : Date.first.dayNumber ≤ next.dayNumber - 1 := by decide
  obtain ⟨day, number, goesOut⟩ :=
    (noticeFor_exact anniversary 1 now).2.2 next (by decide) found inCalendar
  have isLeapDay : day = ⟨2024, 2, 29, by decide⟩ := Date.eq_of_dayNumber_eq number
  exact ⟨anniversary, now, next, day, rfl, rfl, isLeapDay ▸ rfl, found, inCalendar, goesOut⟩

end ReminderDispatch.Anniversary
