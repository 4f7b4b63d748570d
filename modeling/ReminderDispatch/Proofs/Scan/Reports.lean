import ReminderDispatch.Proofs.Scan.Celebrations

/-!
# Reports on scans

All that a scan does in a dialogue that comes to its end, and what its report says about it. The
minutes of a scan are the turns of the reminders of which it was told, and the celebrations of the
birthdays; nothing else is said, and nothing else is counted. So the report adds up: each number in
it is a number of calls or of items, whatever the queries, the publications and the marks come to,
and a half whose query fails does not count at all.
-/

namespace ReminderDispatch.Scanner

variable {σ : Type} {responds : (call : Call) → Option call.Reply → σ → σ → Prop} {state after : σ}
  {trace said front back : List Answered} {scanner next : Scanner} {now : Instant}
  {limit : Duration} {day : Date} {handled last : HandledBirthdays} {reminder : Reminder}
  {turns : List Turn} {celebrations : List Celebration}
  {outcome : Except IncompleteScan ScanReport}

/-! ## Minutes -/

/-- What is returned after a scan with a report and the failures of its queries. -/
def conclude (report : ScanReport) (failures : List FailedQuery) :
    Except IncompleteScan ScanReport :=
  if failures.isEmpty then .ok report else .error ⟨report, failures⟩

/-- The report that is returned after a scan, complete or not. -/
def reportOf : Except IncompleteScan ScanReport → ScanReport
  | .ok report => report
  | .error incomplete => incomplete.report

/-- The report is returned in both cases. -/
theorem reportOf_conclude (report : ScanReport) (failures : List FailedQuery) :
    reportOf (conclude report failures) = report := by
  unfold conclude
  split <;> rfl

/-- What took place in a scan, half by half. -/
structure Minutes where
  /-- The turns of the reminders of which the scan was told. -/
  turns : List Turn
  /-- The celebrations of the birthdays of which the scan was told. -/
  celebrations : List Celebration
  /-- What was said in the half that handles reminders. -/
  front : List Answered
  /-- What was said in the half that handles birthdays. -/
  back : List Answered
  /-- The failure of the query for reminders. -/
  noReminders : Option FailedQuery
  /-- The failure of the query for birthdays. -/
  noBirthdays : Option FailedQuery

namespace Minutes

/-- The report on the half that handles reminders. -/
def firstReport (minutes : Minutes) : ScanReport := turnsReport minutes.turns minutes.front

/-- The report on the half that handles birthdays. -/
def secondReport (minutes : Minutes) : ScanReport :=
  { celebrationsReport minutes.celebrations minutes.back with
    dueBirthdays := minutes.celebrations.length }

/-- The minutes are those of a scan. -/
structure Tell (minutes : Minutes) (limit : Duration) (scanner : Scanner) (now : Instant)
    (trace : List Answered) (next : Scanner) (outcome : Except IncompleteScan ScanReport) :
    Prop where
  /-- All that was said was said in one of the halves. -/
  trace_eq : trace = minutes.front ++ minutes.back
  /-- What took place in the half that handles reminders. -/
  reminders : ReminderHalf scanner.settings.ioTimeout now minutes.turns minutes.front
    minutes.noReminders
  /-- What took place in the half that handles birthdays. -/
  birthdays : BirthdayHalf limit scanner now minutes.celebrations minutes.back next.handled
    minutes.noBirthdays
  /-- The scanner has not changed but for the birthdays that it remembers. -/
  next_eq : next = { scanner with handled := next.handled }
  /-- The outcome. -/
  outcome_eq : outcome = conclude (minutes.firstReport + minutes.secondReport)
    (minutes.noReminders.toList ++ minutes.noBirthdays.toList)

/-- The minutes are those of a scan in which both queries succeed. -/
structure Told (minutes : Minutes) (limit : Duration) (scanner : Scanner) (now : Instant)
    (due : List Reminder) (birthdays : List Birthday) (trace : List Answered) (next : Scanner)
    (outcome : Except IncompleteScan ScanReport) : Prop where
  /-- Every reminder of which the scan was told has its turn. -/
  reminders_eq : minutes.turns.map (·.reminder) = due
  /-- The turns of the reminders. -/
  handled : ∀ turn ∈ minutes.turns, Handled turn.reminder turn.said
  /-- Every birthday of which the scan was told is treated. -/
  birthdays_eq : minutes.celebrations.map (·.birthday) = birthdays
  /-- How the birthdays are treated. -/
  treats : Treats limit now.date (scanner.handled.onDay now.date) minutes.celebrations next.handled
  /-- All that was said. -/
  trace_eq : trace = (⟨.dueReminders now, some (.ok due)⟩ :: minutes.turns.flatMap (·.said)) ++
    ⟨.dueBirthdays now, some (.ok birthdays)⟩ :: minutes.celebrations.flatMap (·.said)
  /-- The scan is complete. -/
  outcome_eq : outcome = .ok (minutes.firstReport + minutes.secondReport)

/-- If both queries tell of some items, each of these has its turn, and the scan is complete. -/
theorem Tell.told {minutes : Minutes} {due : List Reminder} {birthdays : List Birthday}
    (tell : minutes.Tell limit scanner now trace next outcome)
    (dueReminders : ∀ reply rest, minutes.front = ⟨.dueReminders now, reply⟩ :: rest →
      reply = some (.ok due))
    (dueBirthdays : ∀ reply rest, minutes.back = ⟨.dueBirthdays now, reply⟩ :: rest →
      reply = some (.ok birthdays)) :
    minutes.Told limit scanner now due birthdays trace next outcome := by
  obtain ⟨noReminderFailure, reminders_eq, handled, front_eq⟩ := tell.reminders.of_told dueReminders
  obtain ⟨noBirthdayFailure, birthdays_eq, treats, back_eq⟩ :=
    tell.birthdays.of_told dueBirthdays
  have complete : outcome = .ok (minutes.firstReport + minutes.secondReport) := by
    rw [tell.outcome_eq, noReminderFailure, noBirthdayFailure]
    rfl
  exact ⟨reminders_eq, handled, birthdays_eq, treats, by rw [tell.trace_eq, ← front_eq, ← back_eq],
    complete⟩

end Minutes

/-- There are minutes of every scan that comes to its end. -/
theorem scan_minutes (limit : Duration)
    (runs : (scanner.scan now).Runs responds state trace after (some (next, outcome))) :
    ∃ minutes : Minutes, minutes.Tell limit scanner now trace next outcome := by
  obtain ⟨⟨first, noReminders⟩, front, middle, rest, rfl, reminders, goesOn⟩ := runs.bind_cases
  obtain ⟨⟨handled, second, noBirthdays⟩, back, final, nothing, rfl, birthdays, ends⟩ :=
    goesOn.bind_cases
  obtain ⟨turns, firstHalf, rfl⟩ := scanReminders_runs reminders
  obtain ⟨celebrations, secondHalf, rfl⟩ := scanBirthdays_half limit birthdays
  obtain ⟨rfl, -, same⟩ := ends.pure_cases
  obtain ⟨rfl, rfl⟩ := Prod.mk.inj same
  exact ⟨⟨turns, celebrations, front, back, noReminders, noBirthdays⟩, by rw [List.append_nil],
    firstHalf, secondHalf, rfl, rfl⟩

/-! ## Reports that add up -/

/-- The items that were handled and from which tasks can be made. -/
def convertible (turns : List Turn) (celebrations : List Celebration) : Nat :=
  turns.countP (·.reminder.fanOut.isOk) + celebrations.countP fun celebration =>
    !celebration.isSkipped && celebration.birthday.fanOut.isOk

/-- The items that were handled and from which no tasks can be made. -/
def inconvertible (turns : List Turn) (celebrations : List Celebration) : Nat :=
  turns.countP (!·.reminder.fanOut.isOk) + celebrations.countP fun celebration =>
    !celebration.isSkipped && !celebration.birthday.fanOut.isOk

/-- The reminders from which tasks can be made of which no publication failed for a reason that may
pass. -/
def passedOn (limit : Duration) (turns : List Turn) : Nat :=
  turns.countP fun turn => turn.reminder.fanOut.isOk && !turn.said.any (·.failsForNow limit)

/-- The numbers of a report are those of the items that were handled, and of what was said. -/
structure AddsUp (limit : Duration) (report : ScanReport) (turns : List Turn)
    (celebrations : List Celebration) (said : List Answered) : Prop where
  /-- The accepted tasks are the publications that were accepted. -/
  enqueued_eq : report.enqueued = acceptedIn said
  /-- Two tasks were published for each item from which tasks can be made. -/
  published_eq : report.enqueued + refusedIn said = 2 * convertible turns celebrations
  /-- What failed are publications, marks, and items from which no tasks can be made. -/
  failed_eq : report.failed =
    refusedIn said + unmarkedIn said + inconvertible turns celebrations
  /-- The marked reminders are the marks that succeeded. -/
  marked_eq : report.marked = markedIn said
  /-- A reminder is marked if no tasks can be made from it, or if they were passed on. -/
  marks_eq : report.marked + unmarkedIn said =
    turns.countP (!·.reminder.fanOut.isOk) + passedOn limit turns
  /-- Every due reminder was handled. -/
  dueReminders_eq : report.dueReminders = turns.length
  /-- The skipped birthdays. -/
  skippedBirthdays_eq : report.skippedBirthdays = celebrations.countP (·.isSkipped)
  /-- Every due birthday was skipped or handled. -/
  dueBirthdays_eq : report.dueBirthdays =
    report.skippedBirthdays + celebrations.countP (!·.isSkipped)

/-- Published payloads count as publications, one each. -/
theorem counts_of_calls {payloads : List TaskPayload}
    (calls : said.map (·.call) = payloads.map (·.publication)) :
    acceptedIn said + refusedIn said = payloads.length ∧ markedIn said = 0 ∧
      unmarkedIn said = 0 := by
  obtain ⟨accepted, refused, marked, unmarked⟩ :=
    counts_of_publications (isPublication_of_calls calls)
  refine ⟨?_, marked, unmarked⟩
  have length : said.length = payloads.length := by
    rw [← List.length_map, calls, List.length_map]
  rw [accepted, refused, ← length]
  have all : said.length = said.countP (·.isOk) + said.countP (!·.isOk) := by
    simpa using List.length_eq_countP_add_countP Answered.isOk
  exact all.symm

/-- A mark counts as one, and it is not among the publications that may be accepted another time. -/
theorem counts_of_mark (limit : Duration) {mark : Answered}
    (isMark : mark.call = .mark reminder.id) :
    acceptedIn [mark] = 0 ∧ refusedIn [mark] = 0 ∧ markedIn [mark] + unmarkedIn [mark] = 1 ∧
      mark.failsForNow limit = false := by
  obtain ⟨call, reply⟩ := mark
  obtain rfl : call = .mark reminder.id := isMark
  rcases reply with _ | reply
  · exact ⟨rfl, rfl, rfl, rfl⟩
  · cases reply <;> exact ⟨rfl, rfl, rfl, rfl⟩

/-- What is said about a reminder are two publications if tasks can be made from it, and a mark
unless a task should be published again. -/
theorem Handled.counts (limit : Duration) (handled : Handled reminder said) :
    acceptedIn said + refusedIn said = 2 * [reminder].countP (·.fanOut.isOk) ∧
      markedIn said + unmarkedIn said = [reminder].countP (!·.fanOut.isOk) +
        [reminder].countP fun reminder =>
          reminder.fanOut.isOk && !said.any (·.failsForNow limit) := by
  cases handled with
  | @dropped failure mark invalid isMark =>
    obtain ⟨accepted, refused, marks, -⟩ := counts_of_mark limit isMark
    simp [invalid, accepted, refused, marks]
  | @kept tasks published valid calls refused =>
    obtain ⟨publications, marked, unmarked⟩ := counts_of_calls calls
    have again : said.any (·.failsForNow limit) = true := by
      rw [any_failsForNow limit calls, refused]
      rfl
    simp [valid, publications, marked, unmarked, again]
  | @passedOn tasks published mark valid calls accepted isMark =>
    obtain ⟨publications, marked, unmarked⟩ := counts_of_calls calls
    obtain ⟨noAccepted, noRefused, marks, notAgain⟩ := counts_of_mark limit isMark
    have never : published.any (·.failsForNow limit) = false := by
      rw [any_failsForNow limit calls, accepted]
      rfl
    rw [acceptedIn_append, refusedIn_append, markedIn_append, unmarkedIn_append, noAccepted,
      noRefused, marked, unmarked]
    simp [valid, publications, marks, never, notAgain]

/-- Turn by turn, two tasks are published for each reminder from which tasks can be made, and a
reminder is marked unless a task should be published again. -/
theorem counts_of_turns (limit : Duration)
    (handled : ∀ turn ∈ turns, Handled turn.reminder turn.said) :
    acceptedIn (turns.flatMap (·.said)) + refusedIn (turns.flatMap (·.said)) =
        2 * turns.countP (·.reminder.fanOut.isOk) ∧
      markedIn (turns.flatMap (·.said)) + unmarkedIn (turns.flatMap (·.said)) =
        turns.countP (!·.reminder.fanOut.isOk) + passedOn limit turns := by
  induction turns with
  | nil => exact ⟨rfl, rfl⟩
  | cons turn more ih =>
    obtain ⟨first, others⟩ := List.forall_mem_cons.1 handled
    obtain ⟨published, marked⟩ := first.counts limit
    obtain ⟨publishedLater, markedLater⟩ := ih others
    rw [List.flatMap_cons, acceptedIn_append, refusedIn_append, markedIn_append, unmarkedIn_append]
    unfold passedOn at markedLater ⊢
    simp only [List.countP_cons, List.countP_nil] at published marked publishedLater markedLater ⊢
    constructor <;> omega

/-- Birthday by birthday, two tasks are published for each one that is celebrated and from which
tasks can be made, and nothing is marked. -/
theorem Treats.counts (treats : Treats limit day handled celebrations last) :
    acceptedIn (celebrations.flatMap (·.said)) + refusedIn (celebrations.flatMap (·.said)) =
        2 * (celebrations.countP fun celebration =>
          !celebration.isSkipped && celebration.birthday.fanOut.isOk) ∧
      markedIn (celebrations.flatMap (·.said)) = 0 ∧
      unmarkedIn (celebrations.flatMap (·.said)) = 0 := by
  induction treats with
  | none handled => exact ⟨rfl, rfl, rfl⟩
  | skipped known others ih => exact ih
  | @celebrated birthday treatment done handled last more isNew celebrates others ih =>
    obtain ⟨published, marked, unmarked⟩ := ih
    cases celebrates with
    | dropped invalid =>
      refine ⟨?_, marked, unmarked⟩
      rw [List.countP_cons_of_neg (by simp [invalid]), ← published]
      rfl
    | @published tasks said valid calls =>
      obtain ⟨both, noMark, noFailedMark⟩ := counts_of_calls calls
      have two : tasks.payloads.length = 2 := tasks.length_payloads
      rw [List.countP_cons_of_pos
        (by simp [Celebration.isSkipped, valid]), List.flatMap_cons,
        acceptedIn_append, refusedIn_append, markedIn_append, unmarkedIn_append]
      have own : (⟨birthday, day, .published said⟩ : Celebration).said = said := rfl
      rw [own]
      refine ⟨?_, ?_, ?_⟩ <;> omega

/-- The report on the half that handles reminders adds up. -/
theorem ReminderHalf.addsUp {patience : Duration} {failure : Option FailedQuery} (limit : Duration)
    (half : ReminderHalf patience now turns said failure) :
    AddsUp limit (turnsReport turns said) turns [] said := by
  have counts : acceptedIn said + refusedIn said = 2 * turns.countP (·.reminder.fanOut.isOk) ∧
      markedIn said + unmarkedIn said =
        turns.countP (!·.reminder.fanOut.isOk) + passedOn limit turns := by
    cases half with
    | told handled =>
      obtain ⟨accepted, refused, marked, unmarked⟩ := counts_query
        ⟨.dueReminders now, some (.ok (turns.map (·.reminder)))⟩ (turns.flatMap (·.said)) rfl rfl
      rw [accepted, refused, marked, unmarked]
      exact counts_of_turns limit handled
    | failed failure => exact ⟨rfl, rfl⟩
    | silent => exact ⟨rfl, rfl⟩
  exact {
    enqueued_eq := rfl
    published_eq := counts.1
    failed_eq := rfl
    marked_eq := rfl
    marks_eq := counts.2
    dueReminders_eq := rfl
    skippedBirthdays_eq := rfl
    dueBirthdays_eq := rfl }

/-- The report on the half that handles birthdays adds up. -/
theorem BirthdayHalf.addsUp {failure : Option FailedQuery}
    (half : BirthdayHalf limit scanner now celebrations said last failure) :
    AddsUp limit
      { celebrationsReport celebrations said with dueBirthdays := celebrations.length }
      [] celebrations said := by
  have counts : acceptedIn said + refusedIn said = 2 * (celebrations.countP fun celebration =>
        !celebration.isSkipped && celebration.birthday.fanOut.isOk) ∧
      markedIn said = 0 ∧ unmarkedIn said = 0 := by
    cases half with
    | told treats =>
      obtain ⟨accepted, refused, marked, unmarked⟩ := counts_query
        ⟨.dueBirthdays now, some (.ok (celebrations.map (·.birthday)))⟩
        (celebrations.flatMap (·.said)) rfl rfl
      rw [accepted, refused, marked, unmarked]
      exact treats.counts
    | failed failure => exact ⟨rfl, rfl, rfl⟩
    | silent => exact ⟨rfl, rfl, rfl⟩
  obtain ⟨published, marked, unmarked⟩ := counts
  have all : celebrations.length =
      celebrations.countP (·.isSkipped) + celebrations.countP (!·.isSkipped) := by
    simpa using List.length_eq_countP_add_countP Celebration.isSkipped
  exact {
    enqueued_eq := rfl
    published_eq := by rw [convertible, List.countP_nil, Nat.zero_add, ← published]; rfl
    failed_eq := by rw [inconvertible, List.countP_nil, Nat.zero_add]; rfl
    marked_eq := rfl
    marks_eq := congrArg₂ (· + ·) marked unmarked
    dueReminders_eq := rfl
    skippedBirthdays_eq := rfl
    dueBirthdays_eq := all }

/-- Two reports that add up, one on reminders and one on birthdays, add up together. -/
theorem AddsUp.add {first second : ScanReport} (reminders : AddsUp limit first turns [] front)
    (birthdays : AddsUp limit second [] celebrations back) :
    AddsUp limit (first + second) turns celebrations (front ++ back) := by
  obtain ⟨accepted, published, failed, marked, marks, due, skipped, known⟩ := reminders
  obtain ⟨accepted', published', failed', marked', marks', due', skipped', known'⟩ := birthdays
  simp only [convertible, inconvertible, passedOn, List.countP_nil, List.length_nil, Nat.add_zero,
    Nat.zero_add] at *
  rw [ScanReport.add_eq]
  constructor <;>
    simp only [acceptedIn_append, refusedIn_append, markedIn_append, unmarkedIn_append,
      convertible, inconvertible, passedOn] <;> omega

/-- Nothing is counted in a half of which there is nothing to tell. -/
theorem ReminderHalf.report_none {failure : FailedQuery}
    (half : ReminderHalf limit now turns said (some failure)) : turnsReport turns said = .none := by
  cases half <;> rfl

/-- Nothing is counted for birthdays when the query for them fails. -/
theorem BirthdayHalf.report_none {failure : FailedQuery}
    (half : BirthdayHalf limit scanner now celebrations said last (some failure)) :
    { celebrationsReport celebrations said with dueBirthdays := celebrations.length } =
      ScanReport.none := by
  cases half <;> rfl

/-- The minutes of a scan add up. -/
theorem Minutes.Tell.addsUp {minutes : Minutes}
    (tell : minutes.Tell limit scanner now trace next outcome) :
    AddsUp limit (minutes.firstReport + minutes.secondReport) minutes.turns minutes.celebrations
      trace := by
  rw [tell.trace_eq]
  exact (tell.reminders.addsUp limit).add tell.birthdays.addsUp

/-- The report on every scan adds up, whether it is complete or not: over the whole scan, and over
each half; and a half whose query fails does not count. -/
theorem report_adds_up
    (runs : (scanner.scan now).Runs responds state trace after (some (next, outcome))) :
    ∃ minutes : Minutes, minutes.Tell scanner.publishTimeout scanner now trace next outcome ∧
      AddsUp scanner.publishTimeout (reportOf outcome) minutes.turns minutes.celebrations trace ∧
      reportOf outcome = minutes.firstReport + minutes.secondReport ∧
      AddsUp scanner.publishTimeout minutes.firstReport minutes.turns [] minutes.front ∧
      AddsUp scanner.publishTimeout minutes.secondReport [] minutes.celebrations minutes.back ∧
      (minutes.noReminders.isSome → minutes.firstReport = .none) ∧
      (minutes.noBirthdays.isSome → minutes.secondReport = .none) := by
  obtain ⟨minutes, tell⟩ := scan_minutes scanner.publishTimeout runs
  have sum : reportOf outcome = minutes.firstReport + minutes.secondReport := by
    rw [tell.outcome_eq, reportOf_conclude]
  refine ⟨minutes, tell, ?_, sum, tell.reminders.addsUp scanner.publishTimeout,
    tell.birthdays.addsUp, fun noReminders => ?_, fun noBirthdays => ?_⟩
  · rw [sum]
    exact tell.addsUp
  · obtain ⟨failure, failed⟩ := Option.isSome_iff_exists.1 noReminders
    exact (failed ▸ tell.reminders).report_none
  · obtain ⟨failure, failed⟩ := Option.isSome_iff_exists.1 noBirthdays
    exact (failed ▸ tell.birthdays).report_none

/-- Three reminders, of which the second one has no title. -/
def threeWishes : List Reminder :=
  [wish, { wish with id := ⟨2⟩, title := "" }, { wish with id := ⟨3⟩ }]

/-- Collaborators that know three reminders and twice the same birthday, do not answer the second
publication, and mark no second reminder. They count the publications. -/
def grudging : (call : Call) → Nat → Option call.Reply × Nat
  | .dueReminders _, count => (some (.ok threeWishes), count)
  | .dueBirthdays _, count =>
    (some (.ok (List.replicate 2 ⟨⟨7⟩, "ada@example.com", "Ada"⟩)), count)
  | .mark id, count =>
    (some (if id = ⟨2⟩ then .error (.unavailable "down") else .ok ()), count)
  | .publish _ _, count => (if count = 1 then none else some (.ok (.ofNat count)), count + 1)
  | _, count => (none, count)

/-- A scan with such collaborators: six tasks are published for the first and the third reminder and
the first birthday, of which one is refused; two reminders are marked, of which one mark fails. -/
theorem report_adds_up_grudging : ∃ minutes : Minutes,
    AddsUp watch.publishTimeout ⟨3, 2, 5, 3, 1, 1⟩ minutes.turns minutes.celebrations
        ((watch.scan (.midnight .epoch)).transcript grudging 0) ∧
      convertible minutes.turns minutes.celebrations = 3 ∧
      inconvertible minutes.turns minutes.celebrations = 1 := by
  have report : ((watch.scan (.midnight .epoch)).run grudging 0).1.2 = .ok ⟨3, 2, 5, 3, 1, 1⟩ := by
    decide +kernel
  have refused : refusedIn ((watch.scan (.midnight .epoch)).transcript grudging 0) = 1 := by
    decide +kernel
  have unmarked : unmarkedIn ((watch.scan (.midnight .epoch)).transcript grudging 0) = 1 := by
    decide +kernel
  have runs := Program.runs_answeredBy grudging (watch.scan (.midnight .epoch)) 0
  generalize ((watch.scan (.midnight .epoch)).run grudging 0).1 = result at runs report
  obtain ⟨next, outcome⟩ := result
  obtain rfl : outcome = .ok ⟨3, 2, 5, 3, 1, 1⟩ := report
  obtain ⟨minutes, -, adds, -⟩ := report_adds_up runs
  have published := adds.published_eq
  have failed := adds.failed_eq
  rw [refused] at published failed
  rw [unmarked] at failed
  refine ⟨minutes, adds, ?_, ?_⟩
  · simp only [reportOf] at published
    omega
  · simp only [reportOf] at failed
    omega

end ReminderDispatch.Scanner
