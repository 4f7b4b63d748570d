import ReminderDispatch.Proofs.Lists
import ReminderDispatch.Proofs.Scan.Reminders

/-!
# Celebrations

What a scan does about each birthday of which it is told. A user whose birthday is done for the day
is skipped. For all others both tasks are published, whatever becomes of each, or nothing is when no
tasks can be made. A birthday is done unless one of its publications failed for a reason that may
pass.
-/

namespace ReminderDispatch

/-- A publication failed for a reason that may pass. -/
def Answered.failsForNow (limit : Duration) : Answered → Bool
  | ⟨.publish _ _, reply⟩ =>
    match heard limit reply with
    | .ok _ => false
    | .error failure => failure.kind.allowsRetry
  | _ => false

/-- A published payload that was not accepted may be accepted another time. -/
theorem Answered.failsForNow_eq {answered : Answered} (limit : Duration) {payload : TaskPayload}
    (isPublication : answered.call = payload.publication) :
    answered.failsForNow limit = !answered.isOk := by
  obtain ⟨call, reply⟩ := answered
  obtain rfl : call = payload.publication := isPublication
  rcases reply with _ | reply
  · rfl
  · cases reply <;> rfl

namespace Scanner

/-- What a scan does about a birthday. -/
inductive Treatment where
  /-- Nothing, as the user is done for the day. -/
  | skipped
  /-- Nothing, as no tasks can be made. -/
  | dropped
  /-- Tasks are published. -/
  | published (said : List Answered)

/-- A birthday of which a scan was told, and what the scan did about it. -/
structure Celebration where
  /-- The birthday. -/
  birthday : Birthday
  /-- The day of the scan. -/
  day : Date
  /-- What was done. -/
  treatment : Treatment

namespace Celebration

/-- What was said about the birthday. -/
def said (celebration : Celebration) : List Answered :=
  match celebration.treatment with
  | .skipped | .dropped => []
  | .published said => said

/-- Nothing was done, as the user was done for the day. -/
def isSkipped (celebration : Celebration) : Bool :=
  match celebration.treatment with
  | .skipped => true
  | .dropped | .published _ => false

/-- It was the birthday of a user, on a day. -/
def IsOf (celebration : Celebration) (day : Date) (user : UserId) : Prop :=
  celebration.day = day ∧ celebration.birthday.userId = user

instance (celebration : Celebration) (day : Date) (user : UserId) :
    Decidable (celebration.IsOf day user) :=
  inferInstanceAs (Decidable (_ ∧ _))

/-- The user is done for the day: no tasks can be made, or they were published and neither failed
for a reason that may pass. -/
def Completes (limit : Duration) (celebration : Celebration) : Prop :=
  match celebration.treatment with
  | .skipped => False
  | .dropped => True
  | .published said => ∀ answered ∈ said, answered.failsForNow limit = false

end Celebration

variable {σ : Type} {responds : (call : Call) → Option call.Reply → σ → σ → Prop} {state after : σ}
  {trace : List Answered} {scanner : Scanner} {now : Instant} {limit : Duration} {day : Date}
  {past front back : List Celebration} {celebration : Celebration} {birthday : Birthday}
  {handled last : HandledBirthdays} {user : UserId}

/-- A user is done for a day by one of the celebrations on this day. -/
def DoneOn (limit : Duration) (past : List Celebration) (day : Date) (user : UserId) : Prop :=
  ∃ celebration ∈ past, celebration.IsOf day user ∧ celebration.Completes limit

/-- What is done about a birthday depends on what was done before it: the user is skipped when done
for the day, and otherwise both tasks are published if they can be made. -/
structure Celebration.Fits (limit : Duration) (past : List Celebration)
    (celebration : Celebration) : Prop where
  /-- A user who is done for the day is skipped. -/
  skipped : DoneOn limit past celebration.day celebration.birthday.userId →
    celebration.treatment = .skipped
  /-- For all others both tasks are published. -/
  published : ¬ DoneOn limit past celebration.day celebration.birthday.userId →
    ∀ tasks, celebration.birthday.fanOut = .ok tasks →
      ∃ said, celebration.treatment = .published said ∧
        said.map (·.call) = tasks.payloads.map (·.publication)
  /-- Nothing is published if no tasks can be made. -/
  dropped : ¬ DoneOn limit past celebration.day celebration.birthday.userId →
    ∀ failure, celebration.birthday.fanOut = .error failure → celebration.treatment = .dropped

/-- Each celebration fits those before it. -/
def Orderly (limit : Duration) : List Celebration → List Celebration → Prop
  | _, [] => True
  | past, celebration :: more =>
    celebration.Fits limit past ∧ Orderly limit (past ++ [celebration]) more

/-- Celebrations stay orderly when others follow that fit them. -/
theorem Orderly.append (first : Orderly limit past front)
    (second : Orderly limit (past ++ front) back) : Orderly limit past (front ++ back) := by
  induction front generalizing past with
  | nil => simpa using second
  | cons celebration more ih =>
    refine ⟨first.1, ih first.2 ?_⟩
    simpa using second

/-- Wherever a celebration stands among orderly ones, it fits those before it. -/
theorem Orderly.fits (orderly : Orderly limit past (front ++ celebration :: back)) :
    celebration.Fits limit (past ++ front) := by
  induction front generalizing past with
  | nil =>
    rw [List.append_nil]
    exact orderly.1
  | cons first more ih =>
    have fits := ih orderly.2
    rwa [List.append_assoc] at fits

/-- One more celebration makes its own user done for its day, if it completes. -/
theorem doneOn_concat : DoneOn limit (past ++ [celebration]) day user ↔
    DoneOn limit past day user ∨ celebration.IsOf day user ∧ celebration.Completes limit := by
  simp only [DoneOn, List.mem_append, List.mem_singleton, or_and_right, exists_or, exists_eq_left]

/-- The users who are remembered stay those who are done for the day when one more is remembered,
provided that the celebration completes. -/
theorem recalls_insert {treatment : Treatment} {done : Bool}
    (recalls : ∀ user, handled.contains user = true ↔ DoneOn limit past day user)
    (completes : done = true ↔ (⟨birthday, day, treatment⟩ : Celebration).Completes limit)
    (user : UserId) :
    (if done then handled.insert birthday.userId else handled).contains user = true ↔
      DoneOn limit (past ++ [⟨birthday, day, treatment⟩]) day user := by
  have isOf : (⟨birthday, day, treatment⟩ : Celebration).IsOf day user ↔ user = birthday.userId :=
    ⟨fun same => same.2.symm, fun same => ⟨rfl, same.symm⟩⟩
  rw [doneOn_concat, ← recalls user, ← completes, isOf]
  cases done with
  | false => simp
  | true => rw [if_pos rfl, HandledBirthdays.contains_insert, Or.comm, and_iff_left rfl]

/-! ## One birthday -/

/-- What is done about a birthday that is not skipped, and whether the user is then done for the
day. -/
inductive Celebrates (limit : Duration) (birthday : Birthday) : Treatment → Bool → Prop where
  /-- No tasks can be made. -/
  | dropped {failure : ValidationError} (invalid : birthday.fanOut = .error failure) :
      Celebrates limit birthday .dropped true
  /-- Both tasks are published, whatever becomes of each. -/
  | published {tasks : FanOut} {said : List Answered} (valid : birthday.fanOut = .ok tasks)
      (calls : said.map (·.call) = tasks.payloads.map (·.publication)) :
      Celebrates limit birthday (.published said) (!said.any (·.failsForNow limit))

/-- Among publications, those that may be accepted another time are those that were not. -/
theorem any_failsForNow {said : List Answered} {payloads : List TaskPayload} (limit : Duration)
    (calls : said.map (·.call) = payloads.map (·.publication)) :
    said.any (·.failsForNow limit) = !said.all (·.isOk) := by
  rw [List.not_all_eq_any_not, Bool.eq_iff_iff, List.any_eq_true, List.any_eq_true]
  refine exists_congr fun answered => and_congr_right fun member => ?_
  obtain ⟨payload, -, isCall⟩ := exists_publication calls member
  rw [answered.failsForNow_eq limit isCall]

/-- The report on birthdays: those that were skipped are counted, and those that were dropped count
as failed. -/
def celebrationsReport (celebrations : List Celebration) (said : List Answered) : ScanReport :=
  .counting (celebrations.countP (·.isSkipped))
    (celebrations.countP fun celebration =>
      !celebration.isSkipped && !celebration.birthday.fanOut.isOk) said

/-- One celebration more comes first in the report. -/
theorem celebrationsReport_cons (celebration : Celebration) (more : List Celebration)
    (front back : List Answered) :
    celebrationsReport [celebration] front + celebrationsReport more back =
      celebrationsReport (celebration :: more) (front ++ back) := by
  unfold celebrationsReport
  rw [ScanReport.counting_add, ← List.countP_append, ← List.countP_append,
    List.singleton_append]

/-- A birthday is dropped or published. -/
theorem handleBirthday_runs {done : Bool} {report : ScanReport} (limit : Duration) (day : Date)
    (runs : (scanner.handleBirthday birthday).Runs responds state trace after
      (some (done, report))) :
    ∃ treatment, (⟨birthday, day, treatment⟩ : Celebration).said = trace ∧
      Celebrates limit birthday treatment done ∧
      report = celebrationsReport [⟨birthday, day, treatment⟩] trace := by
  unfold handleBirthday at runs
  cases fanOut : birthday.fanOut with
  | error failure =>
    rw [fanOut] at runs
    obtain ⟨rfl, -, same⟩ := runs.pure_cases
    obtain ⟨rfl, rfl⟩ := Prod.mk.inj same
    refine ⟨.dropped, rfl, .dropped fanOut, ?_⟩
    simp [celebrationsReport, Celebration.isSkipped, fanOut,
      ScanReport.oneFailed_eq_counting]
  | ok tasks =>
    rw [fanOut] at runs
    obtain ⟨publication, said, middle, nothing, rfl, begins, ends⟩ := runs.bind_cases
    obtain ⟨calls, retry, report⟩ := publishAll_runs begins
    obtain ⟨rfl, -, same⟩ := ends.pure_cases
    obtain ⟨rfl, rfl⟩ := Prod.mk.inj same
    rw [List.append_nil, retry, ← any_failsForNow limit calls, report]
    refine ⟨.published said, rfl, .published fanOut calls, ?_⟩
    simp [celebrationsReport, Celebration.isSkipped, fanOut]

/-- What is done about the birthday of a user who is not done fits what was done before. -/
theorem Celebrates.fits {treatment : Treatment} {done : Bool}
    (celebrates : Celebrates limit birthday treatment done)
    (isNew : ¬ DoneOn limit past day birthday.userId) :
    (⟨birthday, day, treatment⟩ : Celebration).Fits limit past ∧
      (done = true ↔ (⟨birthday, day, treatment⟩ : Celebration).Completes limit) := by
  cases celebrates with
  | dropped invalid =>
    refine ⟨⟨fun isDone => absurd isDone isNew, fun _ tasks valid => ?_, fun _ _ _ => rfl⟩, ?_⟩
    · exact absurd (valid.symm.trans invalid) (by simp)
    · exact iff_of_true rfl trivial
  | @published tasks said valid calls =>
    refine ⟨⟨fun isDone => absurd isDone isNew, fun _ others isValid => ?_,
      fun _ failure invalid => ?_⟩, ?_⟩
    · obtain rfl := Except.ok.inj (valid.symm.trans isValid)
      exact ⟨said, rfl, calls⟩
    · exact absurd (valid.symm.trans invalid) (by simp)
    · show (!said.any (·.failsForNow limit)) = true ↔
        ∀ answered ∈ said, answered.failsForNow limit = false
      simp

/-! ## One scan -/

/-- What is done about birthdays on a day, after what was done before. -/
structure Celebrated (limit : Duration) (past : List Celebration) (day : Date)
    (birthdays : List Birthday) (celebrations : List Celebration) (trace : List Answered) :
    Prop where
  /-- Each celebration fits those before it. -/
  orderly : Orderly limit past celebrations
  /-- There is one celebration for each birthday. -/
  birthdays_eq : celebrations.map (·.birthday) = birthdays
  /-- All celebrations are on the day. -/
  today : ∀ celebration ∈ celebrations, celebration.day = day
  /-- Nothing else is said. -/
  trace_eq : trace = celebrations.flatMap (·.said)

/-- One more birthday comes first. -/
theorem Celebrated.cons {birthdays : List Birthday} {celebrations : List Celebration}
    {treatment : Treatment} (fits : (⟨birthday, day, treatment⟩ : Celebration).Fits limit past)
    (celebrated : Celebrated limit (past ++ [⟨birthday, day, treatment⟩]) day birthdays celebrations
      trace) :
    Celebrated limit past day (birthday :: birthdays) (⟨birthday, day, treatment⟩ :: celebrations)
      ((⟨birthday, day, treatment⟩ : Celebration).said ++ trace) where
  orderly := ⟨fits, celebrated.orderly⟩
  birthdays_eq := by rw [List.map_cons, celebrated.birthdays_eq]
  today celebration member := by
    rcases List.mem_cons.1 member with rfl | later
    · rfl
    · exact celebrated.today celebration later
  trace_eq := by rw [List.flatMap_cons, celebrated.trace_eq]

/-- How birthdays are treated one after the other on a day, with those who are remembered before
and after it: a user who is remembered is skipped, and one who is done is remembered from then
on. -/
inductive Treats (limit : Duration) (day : Date) :
    HandledBirthdays → List Celebration → HandledBirthdays → Prop where
  /-- There is no birthday. -/
  | none (handled : HandledBirthdays) : Treats limit day handled [] handled
  /-- The user is remembered, and others follow. -/
  | skipped {birthday : Birthday} {handled last : HandledBirthdays} {more : List Celebration}
      (known : handled.contains birthday.userId = true)
      (others : Treats limit day handled more last) :
      Treats limit day handled (⟨birthday, day, .skipped⟩ :: more) last
  /-- The birthday is celebrated, and others follow. -/
  | celebrated {birthday : Birthday} {treatment : Treatment} {done : Bool}
      {handled last : HandledBirthdays} {more : List Celebration}
      (isNew : ¬ handled.contains birthday.userId = true)
      (celebrates : Celebrates limit birthday treatment done)
      (others : Treats limit day (if done then handled.insert birthday.userId else handled) more
        last) : Treats limit day handled (⟨birthday, day, treatment⟩ :: more) last

/-- Birthdays are handled in order, and the report counts what was said, skipped and dropped. -/
theorem handleBirthdays_runs {birthdays : List Birthday} {report : ScanReport} (limit : Duration)
    (day : Date)
    (runs : (scanner.handleBirthdays handled birthdays).Runs responds state trace after
      (some (last, report))) :
    ∃ celebrations, birthdays = celebrations.map (·.birthday) ∧
      trace = celebrations.flatMap (·.said) ∧ Treats limit day handled celebrations last ∧
      report = celebrationsReport celebrations trace := by
  induction birthdays generalizing state trace after handled last report with
  | nil =>
    obtain ⟨rfl, -, same⟩ := runs.pure_cases
    obtain ⟨rfl, rfl⟩ := Prod.mk.inj same
    exact ⟨[], rfl, rfl, .none _, rfl⟩
  | cons birthday more ih =>
    unfold handleBirthdays at runs
    by_cases isDone : handled.contains birthday.userId = true
    · rw [if_pos isDone] at runs
      obtain ⟨⟨final, rest⟩, said, middle, nothing, rfl, others, ends⟩ := runs.bind_cases
      obtain ⟨celebrations, rfl, rfl, treats, rfl⟩ := ih others
      obtain ⟨rfl, -, same⟩ := ends.pure_cases
      obtain ⟨rfl, rfl⟩ := Prod.mk.inj same
      refine ⟨⟨birthday, day, .skipped⟩ :: celebrations, rfl, by simp [Celebration.said],
        .skipped isDone treats, ?_⟩
      rw [List.append_nil, ← List.nil_append (celebrations.flatMap _), ← celebrationsReport_cons]
      rfl
    · rw [if_neg isDone] at runs
      obtain ⟨⟨done, first⟩, begun, middle, second, rfl, handles, goesOn⟩ := runs.bind_cases
      obtain ⟨⟨final, rest⟩, said, later, nothing, rfl, others, ends⟩ := goesOn.bind_cases
      obtain ⟨treatment, rfl, celebrates, rfl⟩ := handleBirthday_runs limit day handles
      obtain ⟨celebrations, rfl, rfl, treats, rfl⟩ := ih others
      obtain ⟨rfl, -, same⟩ := ends.pure_cases
      obtain ⟨rfl, rfl⟩ := Prod.mk.inj same
      refine ⟨⟨birthday, day, treatment⟩ :: celebrations, rfl, by simp,
        .celebrated isDone celebrates treats, ?_⟩
      rw [List.append_nil, celebrationsReport_cons]

/-- Birthdays are treated on the day that is remembered. -/
theorem Treats.day_eq {celebrations : List Celebration}
    (treats : Treats limit day handled celebrations last) : last.day = handled.day := by
  induction treats with
  | none handled => rfl
  | skipped known others ih => exact ih
  | @celebrated birthday treatment done handled last more isNew celebrates others ih =>
    rw [ih]
    cases done with
    | false => rfl
    | true => exact handled.day_insert birthday.userId

/-- A birthday that is celebrated is not skipped. -/
theorem Celebrates.not_skipped {treatment : Treatment} {done : Bool}
    (celebrates : Celebrates limit birthday treatment done) (day : Date) :
    (⟨birthday, day, treatment⟩ : Celebration).isSkipped = false := by
  cases celebrates <;> rfl

/-- The user is done unless a publication failed for a reason that may pass. -/
theorem Celebrates.done_eq {treatment : Treatment} {done : Bool}
    (celebrates : Celebrates limit birthday treatment done) (day : Date) :
    done = !(⟨birthday, day, treatment⟩ : Celebration).said.any (·.failsForNow limit) := by
  cases celebrates <;> rfl

/-- To treat birthdays makes no difference for other users. -/
theorem Treats.contains_other {celebrations : List Celebration}
    (treats : Treats limit day handled celebrations last)
    (isOther : user ∉ celebrations.map (·.birthday.userId)) :
    last.contains user = handled.contains user := by
  induction treats with
  | none handled => rfl
  | skipped known others ih => exact ih fun isMore => isOther (List.mem_cons_of_mem _ isMore)
  | celebrated isNew celebrates others ih =>
    have different := List.ne_of_not_mem_cons isOther
    rw [ih fun isMore => isOther (List.mem_cons_of_mem _ isMore),
      HandledBirthdays.contains_insert_other _ different]

/-- The birthdays of different users are treated each on its own: a user who is remembered is
skipped, and one who is not is remembered afterwards unless a publication failed for a reason that
may pass. -/
theorem Treats.each {celebrations : List Celebration}
    (treats : Treats limit day handled celebrations last)
    (distinct : (celebrations.map (·.birthday.userId)).Nodup) :
    ∀ celebration ∈ celebrations,
      celebration.isSkipped = handled.contains celebration.birthday.userId ∧
      last.contains celebration.birthday.userId =
        (handled.contains celebration.birthday.userId ||
          !celebration.said.any (·.failsForNow limit)) := by
  induction treats with
  | none handled => simp
  | @skipped birthday handled last more known others ih =>
    obtain ⟨apart, distinctRest⟩ := List.nodup_cons.1 distinct
    refine List.forall_mem_cons.2 ⟨⟨known.symm, ?_⟩, ih distinctRest⟩
    rw [others.contains_other apart, known]
    rfl
  | @celebrated birthday treatment done handled last more isNew celebrates others ih =>
    obtain ⟨apart, distinctRest⟩ := List.nodup_cons.1 distinct
    have unknown : handled.contains birthday.userId = false := Bool.eq_false_iff.2 isNew
    refine List.forall_mem_cons.2 ⟨⟨?_, ?_⟩, fun celebration member => ?_⟩
    · rw [unknown]
      exact celebrates.not_skipped day
    · rw [others.contains_other apart, unknown, Bool.false_or, ← celebrates.done_eq day]
      exact HandledBirthdays.contains_insert_self isNew done
    · have different : celebration.birthday.userId ≠ birthday.userId := fun same =>
        apart (List.mem_map.2 ⟨celebration, member, same⟩)
      rw [← handled.contains_insert_other different done]
      exact ih distinctRest celebration member

/-- The users that are remembered are those who are done, before and after birthdays are treated. -/
theorem Treats.remembers {celebrations : List Celebration}
    (treats : Treats limit day handled celebrations last)
    (recalls : ∀ user, handled.contains user = true ↔ DoneOn limit past day user) :
    Celebrated limit past day (celebrations.map (·.birthday)) celebrations
        (celebrations.flatMap (·.said)) ∧
      ∀ user, last.contains user = true ↔ DoneOn limit (past ++ celebrations) day user := by
  induction treats generalizing past with
  | none handled => exact ⟨⟨trivial, rfl, by simp, rfl⟩, by simpa using recalls⟩
  | @skipped birthday handled last more known others ih =>
    have fits : (⟨birthday, day, .skipped⟩ : Celebration).Fits limit past :=
      ⟨fun _ => rfl, fun isNew => absurd ((recalls _).1 known) isNew,
        fun isNew => absurd ((recalls _).1 known) isNew⟩
    have stillRecalls : ∀ user, handled.contains user = true ↔
        DoneOn limit (past ++ [⟨birthday, day, .skipped⟩]) day user :=
      recalls_insert recalls (iff_of_false Bool.false_ne_true id)
    obtain ⟨celebrated, recallsAll⟩ := ih stillRecalls
    refine ⟨celebrated.cons fits, fun user => ?_⟩
    rw [recallsAll user, List.append_assoc, List.singleton_append]
  | @celebrated birthday treatment done handled last more isNew celebrates others ih =>
    obtain ⟨fits, completes⟩ := celebrates.fits fun isDone => isNew ((recalls _).2 isDone)
    obtain ⟨celebrated, recallsAll⟩ := ih (recalls_insert recalls completes)
    refine ⟨celebrated.cons fits, fun user => ?_⟩
    rw [recallsAll user, List.append_assoc, List.singleton_append]

/-- The call asks for birthdays. -/
def IsBirthdayQuery (call : Call) : Prop := ∃ now, call = .dueBirthdays now

/-- The half of a scan that handles reminders does not ask for birthdays. -/
theorem scanReminders_quiet (scanner : Scanner) (now : Instant) :
    (scanner.scanReminders now).Uses (¬ IsBirthdayQuery ·) := by
  refine (scanner.scanReminders_asks ?_ ?_ ?_).uses
  · rintro payload ⟨time, same⟩
    cases same
  · rintro id ⟨time, same⟩
    cases same
  · rintro ⟨time, same⟩
    cases same

/-- What was said in a scan: calls for reminders, the query for birthdays, and, if it succeeds, what
was said about the birthdays of which it told. -/
inductive Tells (round : Round) : List Celebration → Prop where
  /-- The query for birthdays succeeds. -/
  | told {reminders : List Answered} {birthdays : List Birthday} {celebrations : List Celebration}
      (quiet : ∀ answered ∈ reminders, ¬ IsBirthdayQuery answered.call)
      (trace_eq : round.trace = reminders ++ ⟨.dueBirthdays round.now, some (.ok birthdays)⟩ ::
        celebrations.flatMap (·.said))
      (birthdays_eq : celebrations.map (·.birthday) = birthdays)
      (today : ∀ celebration ∈ celebrations, celebration.day = round.now.date) :
      Tells round celebrations
  /-- The query for birthdays fails. -/
  | untold {reminders : List Answered} {query : Answered}
      (quiet : ∀ answered ∈ reminders, ¬ IsBirthdayQuery answered.call)
      (trace_eq : round.trace = reminders ++ [query])
      (isQuery : query.call = .dueBirthdays round.now) (failed : query.isOk = false) :
      Tells round []

/-- All celebrations of a scan are on its day. -/
theorem Tells.day_eq {round : Round} {celebrations : List Celebration}
    (tells : Tells round celebrations) (member : celebration ∈ celebrations) :
    celebration.day = round.now.date := by
  cases tells with
  | told quiet trace_eq birthdays_eq today => exact today celebration member
  | untold quiet trace_eq isQuery failed => exact absurd member List.not_mem_nil

/-- What a scan tells of is settled by what was said in it. -/
theorem Tells.settled {round : Round} {celebrations : List Celebration}
    {reminders said : List Answered} {birthdays : List Birthday} (tells : Tells round celebrations)
    (quiet : ∀ answered ∈ reminders, ¬ IsBirthdayQuery answered.call)
    (trace_eq : round.trace =
      reminders ++ ⟨.dueBirthdays round.now, some (.ok birthdays)⟩ :: said) :
    celebrations.map (·.birthday) = birthdays ∧ celebrations.flatMap (·.said) = said := by
  cases tells with
  | told otherQuiet otherTrace birthdays_eq today =>
    obtain ⟨-, same, rest⟩ := first_split_unique
      (p := fun answered => IsBirthdayQuery answered.call) otherQuiet ⟨_, rfl⟩ quiet ⟨_, rfl⟩
      (otherTrace.symm.trans trace_eq)
    cases same
    exact ⟨birthdays_eq, rest⟩
  | untold otherQuiet otherTrace isQuery failed =>
    obtain ⟨-, rfl, -⟩ := first_split_unique
      (p := fun answered => IsBirthdayQuery answered.call) otherQuiet ⟨_, isQuery⟩ quiet ⟨_, rfl⟩
      (otherTrace.symm.trans trace_eq)
    have isOk : Answered.isOk ⟨.dueBirthdays round.now, some (.ok birthdays)⟩ = true := rfl
    rw [failed] at isOk
    contradiction

/-- What a scan makes of the birthdays that it remembers: nothing changes when the query fails, and
otherwise it remembers those who are done today. -/
inductive Learns (limit : Duration) (past : List Celebration) (today : Date)
    (before : HandledBirthdays) : List Celebration → HandledBirthdays → Prop where
  /-- The query for birthdays failed. -/
  | nothing : Learns limit past today before [] before
  /-- The query succeeded. -/
  | done {celebrations : List Celebration} {after : HandledBirthdays}
      (onDay : after.day = some today)
      (recalls : ∀ user, after.contains user = true ↔
        DoneOn limit (past ++ celebrations) today user)
      (sameDay : ∀ celebration ∈ celebrations, celebration.day = today) :
      Learns limit past today before celebrations after

/-- Birthdays are remembered for the day on which they are handled. -/
theorem onDay_day (handled : HandledBirthdays) (today : Date) :
    (handled.onDay today).day = some today := by
  unfold HandledBirthdays.onDay
  split
  · assumption
  · rfl

/-- What was said in the half of a scan that handles birthdays, who is remembered after it, and its
failure. -/
inductive BirthdayHalf (limit : Duration) (scanner : Scanner) (now : Instant) :
    List Celebration → List Answered → HandledBirthdays → Option FailedQuery → Prop where
  /-- The query succeeds: every birthday of which it tells is treated. -/
  | told {celebrations : List Celebration} {last : HandledBirthdays}
      (treats : Treats limit now.date (scanner.handled.onDay now.date) celebrations last) :
      BirthdayHalf limit scanner now celebrations
        (⟨.dueBirthdays now, some (.ok (celebrations.map (·.birthday)))⟩ ::
          celebrations.flatMap (·.said)) last none
  /-- The query fails. -/
  | failed (failure : StoreError) :
      BirthdayHalf limit scanner now [] [⟨.dueBirthdays now, some (.error failure)⟩]
        scanner.handled (some (.birthdays failure))
  /-- The query stays without an answer. -/
  | silent :
      BirthdayHalf limit scanner now [] [⟨.dueBirthdays now, none⟩] scanner.handled
        (some (.birthdays (.timeout scanner.settings.ioTimeout)))

/-- If the query tells of some birthdays, each of these is treated. -/
theorem BirthdayHalf.of_told {due : List Birthday} {celebrations : List Celebration}
    {said : List Answered} {failure : Option FailedQuery}
    (half : BirthdayHalf limit scanner now celebrations said last failure)
    (told : ∀ reply rest, said = ⟨.dueBirthdays now, reply⟩ :: rest → reply = some (.ok due)) :
    failure = none ∧ celebrations.map (·.birthday) = due ∧
      Treats limit now.date (scanner.handled.onDay now.date) celebrations last ∧
      said = ⟨.dueBirthdays now, some (.ok due)⟩ :: celebrations.flatMap (·.said) := by
  cases half with
  | told treats =>
    have same := told _ _ rfl
    obtain rfl : celebrations.map (·.birthday) = due := Except.ok.inj (Option.some.inj same)
    exact ⟨rfl, rfl, treats, rfl⟩
  | failed failure => cases told _ _ rfl
  | silent => cases told _ _ rfl

/-- After the half that handles birthdays, the scanner remembers today, or what it remembered
before. -/
theorem BirthdayHalf.day_cases {celebrations : List Celebration} {said : List Answered}
    {failure : Option FailedQuery}
    (half : BirthdayHalf limit scanner now celebrations said last failure) :
    last.day = some now.date ∨ last = scanner.handled := by
  cases half with
  | told treats => exact .inl (treats.day_eq.trans (onDay_day _ _))
  | failed failure => exact .inr rfl
  | silent => exact .inr rfl

/-- The half of a scan that handles birthdays asks once, and its report counts what was said. -/
theorem scanBirthdays_half {report : ScanReport} {failure : Option FailedQuery} (limit : Duration)
    (runs : (scanner.scanBirthdays now).Runs responds state trace after
      (some (last, report, failure))) :
    ∃ celebrations, BirthdayHalf limit scanner now celebrations trace last failure ∧
      report = { celebrationsReport celebrations trace with
        dueBirthdays := celebrations.length } := by
  obtain ⟨found, asked, middle, said, rfl, query, handles⟩ := runs.bind_cases
  obtain ⟨reply, rfl, -, rfl⟩ := ask_heard query
  rcases reply with _ | reply
  · obtain ⟨rfl, -, same⟩ := handles.pure_cases
    cases same
    exact ⟨[], .silent, rfl⟩
  · cases reply with
    | error failure =>
      obtain ⟨rfl, -, same⟩ := handles.pure_cases
      cases same
      exact ⟨[], .failed failure, rfl⟩
    | ok birthdays =>
      obtain ⟨⟨final, rest⟩, calls, stop, nothing, rfl, handling, done⟩ :=
        Program.Runs.bind_cases handles
      obtain ⟨celebrations, rfl, rfl, treats, rfl⟩ :=
        handleBirthdays_runs limit now.date handling
      obtain ⟨rfl, -, same⟩ := done.pure_cases
      cases same
      rw [List.append_nil]
      refine ⟨celebrations, .told treats, ?_⟩
      unfold celebrationsReport
      rw [ScanReport.dueBirthdays_add, List.length_map, List.singleton_append,
        ScanReport.counting_query _ _ _ rfl rfl]

/-- If the query succeeds, the birthdays of which it tells are celebrated, and those who are done
today are remembered. -/
theorem scanBirthdays_runs {report : ScanReport} {failure : Option FailedQuery}
    (runs : (scanner.scanBirthdays now).Runs responds state trace after
      (some (last, report, failure)))
    (recalls : ∀ user, (scanner.handled.onDay now.date).contains user = true ↔
      DoneOn limit past now.date user) :
    (∃ query, trace = [query] ∧ query.call = .dueBirthdays now ∧ query.isOk = false ∧
      last = scanner.handled) ∨
    ∃ birthdays celebrations said, trace = ⟨.dueBirthdays now, some (.ok birthdays)⟩ :: said ∧
      Celebrated limit past now.date birthdays celebrations said ∧ last.day = some now.date ∧
      ∀ user, last.contains user = true ↔ DoneOn limit (past ++ celebrations) now.date user := by
  obtain ⟨celebrations, half, -⟩ := scanBirthdays_half limit runs
  cases half with
  | told treats =>
    obtain ⟨celebrated, recallsAll⟩ := treats.remembers recalls
    have sameDay : last.day = some now.date := treats.day_eq.trans (onDay_day _ _)
    exact .inr ⟨_, celebrations, _, rfl, celebrated, sameDay, recallsAll⟩
  | failed failure => exact .inl ⟨_, rfl, rfl, rfl, rfl⟩
  | silent => exact .inl ⟨_, rfl, rfl, rfl, rfl⟩

/-- A scan that remembers those who are done today tells of orderly celebrations. -/
theorem scan_tells {next : Scanner} {outcome : Except IncompleteScan ScanReport}
    (runs : (scanner.scan now).Runs responds state trace after (some (next, outcome)))
    (recalls : ∀ user, (scanner.handled.onDay now.date).contains user = true ↔
      DoneOn limit past now.date user) :
    ∃ celebrations, Tells ⟨scanner, now, trace⟩ celebrations ∧ Orderly limit past celebrations ∧
      Learns limit past now.date scanner.handled celebrations next.handled := by
  obtain ⟨report, reminders, middle, rest, rfl, first, goesOn⟩ := runs.bind_cases
  obtain ⟨⟨handled, second, failure⟩, said, final, nothing, rfl, others, ends⟩ := goesOn.bind_cases
  obtain ⟨rfl, -, same⟩ := ends.pure_cases
  obtain ⟨rfl, -⟩ := Prod.mk.inj same
  have quiet := first.uses (scanReminders_quiet scanner now)
  rw [List.append_nil]
  rcases scanBirthdays_runs others recalls with ⟨query, rfl, isQuery, failed, rfl⟩ |
    ⟨birthdays, celebrations, about, rfl, celebrated, sameDay, recallsAll⟩
  · exact ⟨[], .untold quiet rfl isQuery failed, trivial, .nothing⟩
  · refine ⟨celebrations, .told quiet ?_ celebrated.birthdays_eq celebrated.today,
      celebrated.orderly, .done sameDay recallsAll celebrated.today⟩
    rw [← celebrated.trace_eq]

end Scanner

end ReminderDispatch
