import ReminderDispatch.Proofs.Scan.Celebrations

/-!
# Birthdays under scans

A birthday has no state in the store; what keeps it from being celebrated at every scan of its day
is what the scanner remembers. The scanner remembers one day only, and it takes up a new day at the
first scan whose query succeeds. While the days of its scans do not go backwards, it remembers for
each day exactly those who are done for this day.

The main result is that over all scans every celebration fits those before it, whatever the queries
and the publications come to, and that without failures each user has one notification and one mail
on each day.
-/

namespace ReminderDispatch.Scanner

variable {σ : Type} {responds : (call : Call) → Option call.Reply → σ → σ → Prop}
  {scanner : Scanner} {limit : Duration} {past celebrations : List Celebration}
  {handled after : HandledBirthdays} {today day : Date} {user : UserId} {rounds : List Round}

/-! ## What the scanner remembers -/

/-- What a scanner remembers is right for a day that is not yet over: it is about no later day, and
for this day it has exactly those who are done. -/
structure Remembers (limit : Duration) (handled : HandledBirthdays) (past : List Celebration)
    (day : Date) : Prop where
  /-- The remembered day is not later. -/
  notLater : ∀ remembered, handled.day = some remembered → remembered ≤ day
  /-- The remembered users are those who are done for the day. -/
  recalls : ∀ user, (handled.onDay day).contains user = true ↔ DoneOn limit past day user

/-- At first nobody is done on any day. -/
theorem empty_remembers (limit : Duration) (day : Date) : Remembers limit .empty [] day where
  notLater remembered isDay := by
    have noDay : (none : Option Date) = some remembered := isDay
    contradiction
  recalls user := by
    apply iff_of_false
    · show ¬ (HandledBirthdays.empty.onDay day).contains user = true
      simp [HandledBirthdays.empty, HandledBirthdays.onDay, HandledBirthdays.contains]
    · rintro ⟨celebration, member, -⟩
      exact List.not_mem_nil member

/-- Nobody is remembered for a day that is not the remembered one. -/
theorem not_contains_onDay (other : handled.day ≠ some day) (user : UserId) :
    ¬ (handled.onDay day).contains user = true := by
  unfold HandledBirthdays.onDay
  rw [if_neg other]
  simp [HandledBirthdays.contains]

/-- After a scan, what is remembered is right for every day that it was right for, unless that day
is over. -/
theorem Remembers.learn (remembers : Remembers limit handled past today)
    (upcoming : Remembers limit handled past day) (notOver : today ≤ day)
    (learns : Learns limit past today handled celebrations after) :
    Remembers limit after (past ++ celebrations) day := by
  cases learns with
  | nothing =>
    rw [List.append_nil]
    exact upcoming
  | done onDay recalls sameDay =>
    have notLater : ∀ remembered, after.day = some remembered → remembered ≤ day := by
      intro remembered isDay
      rw [← Option.some.inj (onDay.symm.trans isDay)]
      exact notOver
    refine ⟨notLater, fun user => ?_⟩
    by_cases same : day = today
    · have kept : after.onDay day = after := if_pos (same ▸ onDay)
      rw [kept, same]
      exact recalls user
    · have isNew : after.day ≠ some day := fun isDay =>
        same (Option.some.inj (isDay.symm.trans onDay))
      have wasNew : handled.day ≠ some day := fun isDay =>
        same (Date.le_antisymm (remembers.notLater day isDay) notOver)
      -- the scan has celebrated today, and nobody was done for another day before it
      refine iff_of_false (not_contains_onDay isNew user) ?_
      rintro ⟨celebration, member, isOf, completes⟩
      rcases List.mem_append.1 member with earlier | late
      · have done : DoneOn limit past day user := ⟨celebration, earlier, isOf, completes⟩
        exact not_contains_onDay wasNew user ((upcoming.recalls user).2 done)
      · exact same (isOf.1.symm.trans (sameDay celebration late))

/-! ## Any number of scans -/

/-- Scans of one scanner, one after the other, each with what is remembered after those before it;
their calls are answered as they may be, and in between anything may happen. -/
inductive Watches (responds : (call : Call) → Option call.Reply → σ → σ → Prop) :
    Scanner → List Round → Prop where
  /-- No scan took place. -/
  | none (scanner : Scanner) : Watches responds scanner []
  /-- A scan took place, and then others. -/
  | more {scanner next : Scanner} {now : Instant} {trace : List Answered} {before after : σ}
      {outcome : Except IncompleteScan ScanReport} {rounds : List Round}
      (scans : (scanner.scan now).Runs responds before trace after (some (next, outcome)))
      (goesOn : Watches responds next rounds) :
      Watches responds scanner (⟨scanner, now, trace⟩ :: rounds)

/-- The celebrations of all scans are orderly if what the scanner remembers is right for their
days. -/
theorem watches_orderly (watches : Watches responds scanner rounds)
    (ascending : (rounds.map (·.now.date)).Pairwise (· ≤ ·))
    (remembers : ∀ round ∈ rounds, Remembers limit scanner.handled past round.now.date) :
    ∃ chronicle, List.Forall₂ Tells rounds chronicle ∧ Orderly limit past chronicle.flatten := by
  induction watches generalizing past with
  | none scanner => exact ⟨[], .nil, trivial⟩
  | @more scanner next now trace before after outcome rounds scans goesOn ih =>
    obtain ⟨notOver, laterAscending⟩ := List.pairwise_cons.1 ascending
    have first : Remembers limit scanner.handled past now.date := remembers _ List.mem_cons_self
    obtain ⟨celebrations, tells, orderly, learns⟩ := scan_tells scans first.recalls
    have later : ∀ round ∈ rounds,
        Remembers limit next.handled (past ++ celebrations) round.now.date := by
      intro round member
      have upcoming := remembers round (List.mem_cons_of_mem _ member)
      exact first.learn upcoming (notOver _ (List.mem_map_of_mem member)) learns
    obtain ⟨chronicle, told, orderlyRest⟩ := ih laterAscending later
    refine ⟨celebrations :: chronicle, .cons tells told, ?_⟩
    rw [List.flatten_cons]
    exact orderly.append orderlyRest

/-- Each celebration of a chronicle is one of a scan. -/
theorem exists_round {chronicle : List (List Celebration)} {celebration : Celebration}
    (told : List.Forall₂ Tells rounds chronicle) (member : celebration ∈ chronicle.flatten) :
    ∃ round ∈ rounds, ∃ celebrations, Tells round celebrations ∧ celebration ∈ celebrations := by
  induction told with
  | nil => exact absurd member List.not_mem_nil
  | @cons round celebrations more chronicle tells _ ih =>
    rcases List.mem_append.1 member with first | later
    · exact ⟨round, List.mem_cons_self, celebrations, tells, first⟩
    · obtain ⟨other, isLater, othersTold⟩ := ih later
      exact ⟨other, List.mem_cons_of_mem _ isLater, othersTold⟩

/-- Each scan has its celebrations in a chronicle. -/
theorem exists_celebrations {chronicle : List (List Celebration)} {round : Round}
    (told : List.Forall₂ Tells rounds chronicle) (member : round ∈ rounds) :
    ∃ celebrations, Tells round celebrations ∧
      ∀ celebration ∈ celebrations, celebration ∈ chronicle.flatten := by
  induction told with
  | nil => exact absurd member List.not_mem_nil
  | @cons first celebrations more chronicle tells _ ih =>
    rcases List.mem_cons.1 member with rfl | later
    · exact ⟨celebrations, tells, fun _ isFirst => List.mem_append_left _ isFirst⟩
    · obtain ⟨others, othersTell, among⟩ := ih later
      exact ⟨others, othersTell, fun _ isLater => List.mem_append_right _ (among _ isLater)⟩

/-! ## One celebration a day -/

/-- When nothing fails, a celebration that is not skipped completes. -/
theorem completes_of_accepted {celebration : Celebration} {tasks : FanOut}
    {published : List Answered} (treatment : celebration.treatment = .published published)
    (calls : published.map (·.call) = tasks.payloads.map (·.publication))
    (accepted : ∀ answered ∈ celebration.said, answered.isOk = true) :
    celebration.Completes limit := by
  have said : celebration.said = published := by
    unfold Celebration.said
    rw [treatment]
  unfold Celebration.Completes
  rw [treatment]
  intro answered member
  obtain ⟨payload, -, isCall⟩ := exists_publication calls member
  rw [answered.failsForNow_eq limit isCall, accepted answered (said ▸ member)]
  rfl

/-- When all tasks of a user can be made and are accepted, exactly one notification and one mail are
accepted on a day on which the user was told of. -/
theorem Orderly.one_a_day (orderly : Orderly limit [] celebrations)
    (returned : ∃ celebration ∈ celebrations, celebration.IsOf day user)
    (convertible : ∀ celebration ∈ celebrations, celebration.IsOf day user →
      ∃ tasks, celebration.birthday.fanOut = .ok tasks)
    (accepted : ∀ celebration ∈ celebrations, celebration.IsOf day user →
      ∀ answered ∈ celebration.said, answered.isOk = true) :
    ∃ celebration ∈ celebrations, ∃ tasks, celebration.IsOf day user ∧
      celebration.birthday.fanOut = .ok tasks ∧
      ((celebrations.filter (·.IsOf day user)).flatMap (·.said)).map (·.call) =
        [(TaskPayload.notification tasks.notification).publication,
          (TaskPayload.email tasks.email).publication] := by
  cases own : celebrations.filter (·.IsOf day user) with
  | nil =>
    obtain ⟨celebration, member, isOf⟩ := returned
    have kept := List.filter_eq_nil_iff.1 own celebration member
    exact absurd (decide_eq_true isOf) kept
  | cons first more =>
    obtain ⟨front, back, rfl, others, isOf, rest⟩ := List.filter_eq_cons_iff.1 own
    have firstIsOf : first.IsOf day user := of_decide_eq_true isOf
    have member : first ∈ front ++ first :: back := by simp
    obtain ⟨tasks, valid⟩ := convertible first member firstIsOf
    have isNew : ¬ DoneOn limit ([] ++ front) first.day first.birthday.userId := by
      rintro ⟨earlier, isEarlier, sameDay, -⟩
      have isOther := others earlier isEarlier
      rw [firstIsOf.1, firstIsOf.2] at sameDay
      exact isOther (decide_eq_true sameDay)
    obtain ⟨published, treatment, calls⟩ := orderly.fits.published isNew tasks valid
    have completes : first.Completes limit :=
      completes_of_accepted treatment calls (accepted first member firstIsOf)
    -- the first celebration completes, so all others of the user on this day are skipped
    have silent : ∀ celebration ∈ more, celebration.said = [] := by
      intro celebration isMore
      rw [← rest] at isMore
      obtain ⟨isBack, same⟩ := List.mem_filter.1 isMore
      obtain ⟨between, behind, rfl⟩ := List.append_of_mem isBack
      have sameIsOf : celebration.IsOf day user := of_decide_eq_true same
      rw [← List.cons_append, ← List.append_assoc] at orderly
      have done : DoneOn limit ([] ++ (front ++ first :: between)) celebration.day
          celebration.birthday.userId := by
        refine ⟨first, by simp, ?_, completes⟩
        rw [sameIsOf.1, sameIsOf.2]
        exact firstIsOf
      unfold Celebration.said
      rw [orderly.fits.skipped done]
    have said : first.said = published := by
      unfold Celebration.said
      rw [treatment]
    refine ⟨first, member, tasks, firstIsOf, valid, ?_⟩
    rw [List.flatMap_cons, List.flatMap_eq_nil_iff.2 silent, List.append_nil, said, calls]
    rfl

/-- Each birthday is handed out once a day, in every run of scans whose days do not go backwards,
whatever the queries and the publications come to.

There is a celebration for every birthday of which a scan was told. A user who is done for the day
is skipped; for all others both tasks are published, if they can be made. So a user is left alone
once a celebration on this day was complete, and is celebrated again until then. When nothing fails,
exactly one notification and one mail are accepted for each user of whom a scan of the day was told.
-/
theorem celebrated_once_a_day {settings : ScannerSettings}
    (watches : Watches responds (.new settings limit) rounds)
    (ascending : (rounds.map (·.now.date)).Pairwise (· ≤ ·)) :
    ∃ chronicle, List.Forall₂ Tells rounds chronicle ∧
      (∀ front celebration back, chronicle.flatten = front ++ celebration :: back →
        celebration.Fits limit front) ∧
      ∀ day user, (∃ celebration ∈ chronicle.flatten, celebration.IsOf day user) →
        (∀ celebration ∈ chronicle.flatten, celebration.IsOf day user →
          ∃ tasks, celebration.birthday.fanOut = .ok tasks) →
        (∀ celebration ∈ chronicle.flatten, celebration.IsOf day user →
          ∀ answered ∈ celebration.said, answered.isOk = true) →
        ∃ celebration ∈ chronicle.flatten, ∃ tasks, celebration.IsOf day user ∧
          celebration.birthday.fanOut = .ok tasks ∧
          ((chronicle.flatten.filter (·.IsOf day user)).flatMap (·.said)).map (·.call) =
            [(TaskPayload.notification tasks.notification).publication,
              (TaskPayload.email tasks.email).publication] := by
  have remembers : ∀ round ∈ rounds,
      Remembers limit (new settings limit).handled [] round.now.date :=
    fun round _ => empty_remembers limit round.now.date
  obtain ⟨chronicle, told, orderly⟩ := watches_orderly watches ascending remembers
  refine ⟨chronicle, told, fun front celebration back split => ?_,
    fun day user => orderly.one_a_day⟩
  rw [split] at orderly
  exact orderly.fits

/-- Scans at given times, each with a state from which its calls are answered without choice. -/
def visit (answer : (call : Call) → σ → Option call.Reply × σ) :
    Scanner → List (Instant × σ) → List Round
  | _, [] => []
  | scanner, (now, state) :: more =>
    ⟨scanner, now, (scanner.scan now).transcript answer state⟩ ::
      visit answer ((scanner.scan now).run answer state).1.1 more

/-- Such scans are those of one scanner. -/
theorem watches_visit {answer : (call : Call) → σ → Option call.Reply × σ}
    (answers : ∀ call state, responds call (answer call state).1 state (answer call state).2)
    (scanner : Scanner) (times : List (Instant × σ)) :
    Watches responds scanner (visit answer scanner times) := by
  induction times generalizing scanner with
  | nil => exact .none scanner
  | cons time more ih =>
    obtain ⟨now, state⟩ := time
    exact .more (Program.runs_transcript answers (scanner.scan now) state) (ih _)

/-- A user whose birthday it is. -/
def ada : Birthday := ⟨⟨7⟩, "ada@example.com", "Ada"⟩

/-- A user without an address for the mail. -/
def bob : Birthday := ⟨⟨8⟩, "", "Bob"⟩

/-- Every query tells of the two birthdays. Publications are accepted or not as a list tells, and
all further ones are accepted. -/
def tardily : (call : Call) → List Bool → Option call.Reply × List Bool
  | .dueReminders _, plan => (some (.ok []), plan)
  | .dueBirthdays _, plan => (some (.ok [ada, bob]), plan)
  | .publish _ _, accepted :: plan => (if accepted then some (.ok (.ofNat 1)) else none, plan)
  | .publish _ _, [] => (some (.ok (.ofNat 1)), [])
  | _, plan => (none, plan)

/-- Calls are answered from the plan. -/
def AnswersTardily (call : Call) (reply : Option call.Reply) (before after : List Bool) : Prop :=
  tardily call before = (reply, after)

/-- The second of January in 1970. -/
def nextDay : Date := ⟨1970, 1, 2, by decide⟩

/-- Three scans on one day, in the first of which the mail fails, and one on the next day. -/
def fourScans : List Round :=
  visit tardily watch
    [(.midnight .epoch, [true, false]), (.midnight .epoch, []), (.midnight .epoch, []),
      (.midnight nextDay, [])]

/-- Such scans are told of both birthdays, and say something about them only at their end. -/
theorem tells_visit {times : List (Instant × List Bool)} {round : Round}
    (member : round ∈ visit tardily scanner times) (tells : Tells round celebrations) :
    celebrations.map (·.birthday) = [ada, bob] ∧
      celebrations.flatMap (·.said) <:+ round.trace := by
  induction times generalizing scanner with
  | nil => exact absurd member List.not_mem_nil
  | cons time more ih =>
    obtain ⟨now, plan⟩ := time
    rcases List.mem_cons.1 member with rfl | later
    · have quiet : ∀ answered ∈ [(⟨.dueReminders now, some (.ok [])⟩ : Answered)],
          ¬ IsBirthdayQuery answered.call := by
        rintro answered isFirst ⟨asked, same⟩
        rw [List.mem_singleton.1 isFirst] at same
        cases same
      obtain ⟨said, trace_eq⟩ : ∃ said, (scanner.scan now).transcript tardily plan =
          [⟨.dueReminders now, some (.ok [])⟩] ++
            ⟨.dueBirthdays now, some (.ok [ada, bob])⟩ :: said := ⟨_, rfl⟩
      obtain ⟨birthdays, about⟩ := tells.settled quiet trace_eq
      refine ⟨birthdays, ?_⟩
      change _ <:+ (scanner.scan now).transcript tardily plan
      rw [about, trace_eq]
      exact (List.suffix_cons _ _).trans (List.suffix_append _ _)
    · exact ih later

/-- On the next day, all that is said about the birthday of the first user is accepted. -/
theorem accepted_nextDay {chronicle : List (List Celebration)} {celebration : Celebration}
    (told : List.Forall₂ Tells fourScans chronicle) (member : celebration ∈ chronicle.flatten)
    (isOf : celebration.IsOf nextDay ada.userId) :
    celebration.birthday = ada ∧ ∀ answered ∈ celebration.said, answered.isOk = true := by
  obtain ⟨round, visited, celebrations, tells, isTold⟩ := exists_round told member
  obtain ⟨birthdays, said⟩ := tells_visit visited tells
  constructor
  · have among : celebration.birthday ∈ [ada, bob] := birthdays ▸ List.mem_map_of_mem isTold
    rcases List.mem_pair.1 among with isAda | isBob
    · exact isAda
    · have other : ada.userId = bob.userId := isOf.2.symm.trans (congrArg (·.userId) isBob)
      exact absurd other (by decide)
  · have onDay : round.now.date = nextDay := (tells.day_eq isTold).symm.trans isOf.1
    have allAccepted : ∀ round ∈ fourScans, round.now.date = nextDay →
        round.trace.all (·.isOk) = true := by decide +kernel
    intro answered isSaid
    have inTrace : answered ∈ round.trace := said.subset (List.mem_flatMap.2 ⟨_, isTold, isSaid⟩)
    exact List.all_eq_true.1 (allAccepted round visited onDay) answered inTrace

/-- The first user is told of on the next day. -/
theorem told_nextDay {chronicle : List (List Celebration)}
    (told : List.Forall₂ Tells fourScans chronicle) :
    ∃ celebration ∈ chronicle.flatten, celebration.IsOf nextDay ada.userId := by
  obtain ⟨round, visited, onDay⟩ : ∃ round ∈ fourScans, round.now.date = nextDay := by
    decide +kernel
  obtain ⟨celebrations, tells, among⟩ := exists_celebrations told visited
  have isTold : ada ∈ celebrations.map (·.birthday) :=
    (tells_visit visited tells).1 ▸ List.mem_cons_self
  obtain ⟨celebration, member, same⟩ := List.mem_map.1 isTold
  exact ⟨celebration, among celebration member, (tells.day_eq member).trans onDay,
    congrArg (·.userId) same⟩

/-- A failed mail, a birthday from which no tasks can be made, and a new day, on which the tasks of
the other one are accepted at once. -/
theorem celebrated_once_a_day_fourScans :
    Watches AnswersTardily watch fourScans ∧
      (fourScans.map (·.now.date)).Pairwise (· ≤ ·) ∧
      ∃ chronicle, List.Forall₂ Tells fourScans chronicle ∧
        (∀ front celebration back, chronicle.flatten = front ++ celebration :: back →
          celebration.Fits (.ofSeconds 5) front) ∧
        ∃ tasks, ada.fanOut = .ok tasks ∧
          ((chronicle.flatten.filter (·.IsOf nextDay ada.userId)).flatMap (·.said)).map (·.call) =
            [(TaskPayload.notification tasks.notification).publication,
              (TaskPayload.email tasks.email).publication] := by
  have watches : Watches AnswersTardily watch fourScans := watches_visit (fun _ _ => rfl) _ _
  have ascending : (fourScans.map (·.now.date)).Pairwise (· ≤ ·) := by decide
  have isValid : ada.fanOut.isOk = true := by decide +kernel
  obtain ⟨made, valid⟩ : ∃ tasks, ada.fanOut = .ok tasks := by
    cases fanOut : ada.fanOut with
    | ok tasks => exact ⟨tasks, rfl⟩
    | error failure => simp [fanOut] at isValid
  obtain ⟨chronicle, told, fits, once⟩ := celebrated_once_a_day watches ascending
  obtain ⟨celebration, member, tasks, isOf, isMade, accepted⟩ :=
    once nextDay ada.userId (told_nextDay told)
      (fun celebration member isOf => ⟨made, (accepted_nextDay told member isOf).1 ▸ valid⟩)
      (fun celebration member isOf => (accepted_nextDay told member isOf).2)
  rw [(accepted_nextDay told member isOf).1] at isMade
  exact ⟨watches, ascending, chronicle, told, fits, tasks, isMade, accepted⟩

end ReminderDispatch.Scanner
