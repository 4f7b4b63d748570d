import ReminderDispatch.Proofs.Calendar.Notices
import ReminderDispatch.Store.Reminders

/-!
# Birthdays of users

A user has one birthday in every year of the calendar. The days on which the store finds it are those
on which a notice without a lead goes out, and the store finds the users of a day in the order in
which they were inserted.
-/

namespace ReminderDispatch

open Calendar Anniversary

namespace ReminderStore

/-- Users are kept in the order of their insertion. -/
theorem users_addUser (store : ReminderStore) (joined : List User) :
    (joined.foldl addUser store).users = store.users ++ joined := by
  induction joined generalizing store with
  | nil => exact (List.append_nil _).symm
  | cons user more ih => rw [List.foldl_cons, ih, addUser, List.append_assoc, List.singleton_append]

/-- The store finds the users whose day of birth occurs. -/
theorem dueBirthdays_eq (store : ReminderStore) (now : Instant) :
    store.dueBirthdays now =
      (store.users.filter fun user => OccursOn user.birthDate now.date).map User.birthday := by
  have sameUsers : ∀ user : User,
      user.celebratesOn now.date = decide (OccursOn user.birthDate now.date) := fun user =>
    Bool.eq_iff_iff.2 (fallsOn_iff.trans decide_eq_true_iff.symm)
  unfold dueBirthdays
  rw [funext sameUsers]

end ReminderStore

namespace User

variable {user : User} {day : Date}

/-- A user has birthday on the days on which the day of birth occurs. -/
theorem celebratesOn_iff : user.celebratesOn day = true ↔ OccursOn user.birthDate day := fallsOn_iff

/-- In every year of the calendar a user has birthday on one day: on the month and day of birth, or
on 1 March for a birth on a 29 February that the year does not have. These are the days on which a
notice without a lead goes out, and at any time of a day the store finds its users who have birthday,
in the order in which they joined. -/
theorem birthday_once_a_year (user : User) (year : Int)
    (inCalendar : firstYear ≤ year ∧ year ≤ lastYear) :
    (∃ date : Date, date.year = year ∧
      (date.month, date.day) =
        (if IsLeapDay user.birthDate ∧ isLeap year = false then (3, 1)
        else (user.birthDate.month, user.birthDate.day)) ∧
      ∀ day : Date, day.year = year → (user.celebratesOn day = true ↔ day = date)) ∧
    (∀ day : Date,
      (user.celebratesOn day = true ↔ OccursOn user.birthDate day) ∧
      (user.celebratesOn day = true ↔ noticeFor user.birthDate 0 day = .ok (.midnight day))) ∧
    (∀ (store : ReminderStore) (joined : List User) (now : Instant),
      (joined.foldl ReminderStore.addUser store).dueBirthdays now =
        ((store.users ++ joined).filter fun user =>
          OccursOn user.birthDate now.date).map User.birthday) := by
  refine ⟨?_, fun day => ⟨celebratesOn_iff, ?_⟩, fun store joined now => ?_⟩
  · obtain ⟨date, -, isOnly⟩ := exists_dateInYear user.birthDate inCalendar
    obtain ⟨sameYear, occurs⟩ := (isOnly date).2 rfl
    have place : (date.month, date.day) = monthDayIn user.birthDate year :=
      sameYear ▸ occursOn_iff.1 occurs
    refine ⟨date, sameYear, place, fun day inYear => ?_⟩
    rw [celebratesOn_iff, ← isOnly day]
    exact ⟨fun occurs => ⟨inYear, occurs⟩, fun found => found.2⟩
  · rw [celebratesOn_iff, noticeFor_today_iff]
  · rw [ReminderStore.dueBirthdays_eq, ReminderStore.users_addUser]

/-- A user who was born on a 29 February has birthday on 1 March 2100, and on no other day of that
year. -/
theorem birthday_once_a_year_leapDay :
    (firstYear ≤ 2100 ∧ 2100 ≤ lastYear) ∧
      ∃ birth march : Date, Date.of? 2000 2 29 = some birth ∧ Date.of? 2100 3 1 = some march ∧
        ∀ day : Date, day.year = 2100 →
          ((User.mk ⟨7⟩ "ada@example.com" "Ada" birth).celebratesOn day = true ↔ day = march) := by
  have inCalendar : firstYear ≤ 2100 ∧ 2100 ≤ lastYear := by decide
  let birth : Date := ⟨2000, 2, 29, by decide⟩
  obtain ⟨march, sameYear, place, isOnly⟩ :=
    (birthday_once_a_year ⟨⟨7⟩, "ada@example.com", "Ada", birth⟩ 2100 inCalendar).1
  have isMarch : Date.of? 2100 3 1 = some march :=
    Date.of?_eq_some_iff.2 ⟨sameYear, congrArg Prod.fst place, congrArg Prod.snd place⟩
  exact ⟨inCalendar, birth, march, rfl, isMarch, isOnly⟩

end User

end ReminderDispatch
