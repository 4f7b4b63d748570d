import ReminderDispatch.Proofs.Calendar.DayOrder
import ReminderDispatch.Proofs.Scan.Birthdays
import ReminderDispatch.Proofs.Scan.Reports

/-!
# The two halves of a scan

A query that fails takes its own half of the scan with it, and nothing else: the scan is the one in
which this query had told of nobody, except that it is incomplete. The scanner notices one
difference, for an empty answer makes it take up the new day while a failure does not; but it can
never be seen in a later scan, as long as days do not go backwards.
-/

namespace ReminderDispatch

/-- The items of which a query tells; a query that fails tells of none. -/
def told {ε α : Type} : Option (Except ε (List α)) → List α
  | some (.ok items) => items
  | some (.error _) | none => []

/-- The answer to a call, if a query that failed had told of nobody instead. -/
def mendedReply : (call : Call) → Option call.Reply → Option call.Reply
  | .dueReminders _, reply => some (.ok (told reply))
  | .dueBirthdays _, reply => some (.ok (told reply))
  | _, reply => reply

/-- A call with its answer, if a query that failed had told of nobody instead. -/
def Answered.mended (answered : Answered) : Answered :=
  ⟨answered.call, mendedReply answered.call answered.reply⟩

namespace Scanner

variable {σ : Type} {answer : (call : Call) → σ → Option call.Reply × σ} {state : σ}
  {scanner other : Scanner} {now : Instant} {handled : HandledBirthdays} {day today : Date}
  {limit : Duration}

/-- The surroundings, if every query that fails told of nobody instead. -/
def mend (answer : (call : Call) → σ → Option call.Reply × σ) (call : Call) (state : σ) :
    Option call.Reply × σ :=
  (mendedReply call (answer call state).1, (answer call state).2)

/-- The failure of a query for reminders. -/
def reminderFailure? (limit : Duration) : Answered → Option FailedQuery
  | ⟨.dueReminders _, none⟩ => some (.reminders (.timeout limit))
  | ⟨.dueReminders _, some (.error failure)⟩ => some (.reminders failure)
  | _ => none

/-- The failure of a query for birthdays. -/
def birthdayFailure? (limit : Duration) : Answered → Option FailedQuery
  | ⟨.dueBirthdays _, none⟩ => some (.birthdays (.timeout limit))
  | ⟨.dueBirthdays _, some (.error failure)⟩ => some (.birthdays failure)
  | _ => none

/-- Where nothing is asked there is nothing to mend. -/
theorem mend_eq {call : Call} (noQuery : call.isQuery = false) (state : σ) :
    mend answer call state = answer call state := by
  cases call with
  | dueReminders now => cases noQuery
  | dueBirthdays now => cases noQuery
  | _ => rfl

/-- The failures of the queries of a dialogue, those for reminders first. -/
def failedQueries (limit : Duration) (said : List Answered) : List FailedQuery :=
  said.filterMap (reminderFailure? limit) ++ said.filterMap (birthdayFailure? limit)

/-- A call that is no query does not fail as one, and there is nothing to mend about it. -/
theorem ordinary_of_noQuery (limit : Duration) {answered : Answered}
    (noQuery : answered.call.isQuery = false) :
    reminderFailure? limit answered = none ∧ birthdayFailure? limit answered = none ∧
      answered.mended = answered := by
  obtain ⟨call, reply⟩ := answered
  cases call with
  | dueReminders now => cases noQuery
  | dueBirthdays now => cases noQuery
  | _ => exact ⟨rfl, rfl, rfl⟩

/-- A program without queries comes to the same, and says the same, in mended surroundings. -/
theorem mend_quiet {α : Type} {program : Program α}
    (answer : (call : Call) → σ → Option call.Reply × σ) (limit : Duration)
    (quiet : program.Uses fun call => call.isQuery = false) (state : σ) :
    program.run (mend answer) state = program.run answer state ∧
      program.transcript (mend answer) state =
        (program.transcript answer state).map (·.mended) ∧
      (program.transcript answer state).filterMap (reminderFailure? limit) = [] ∧
      (program.transcript answer state).filterMap (birthdayFailure? limit) = [] := by
  have alike : ∀ call state, call.isQuery = false → mend answer call state = answer call state :=
    fun call state noQuery => mend_eq noQuery state
  obtain ⟨sameRun, sameTranscript⟩ := quiet.congr alike state
  have noQuery := (program.runs_answeredBy answer state).uses quiet
  refine ⟨sameRun, ?_, ?_, ?_⟩
  · have unchanged : (program.transcript answer state).map (·.mended) =
        (program.transcript answer state).map id :=
      List.map_congr_left fun answered member =>
        (ordinary_of_noQuery limit (noQuery answered member)).2.2
    rw [sameTranscript, unchanged, List.map_id]
  · exact List.filterMap_eq_nil_iff.2 fun answered member =>
      (ordinary_of_noQuery limit (noQuery answered member)).1
  · exact List.filterMap_eq_nil_iff.2 fun answered member =>
      (ordinary_of_noQuery limit (noQuery answered member)).2.1

/-- The half of a scan that handles reminders begins with its query. -/
theorem scanReminders_eq (scanner : Scanner) (now : Instant) :
    ∃ rest, scanner.scanReminders now =
        .ask (.dueReminders now) (some scanner.settings.ioTimeout) rest ∧
      rest none = pure (.none, some (.reminders (.timeout scanner.settings.ioTimeout))) ∧
      (∀ failure, rest (some (.error failure)) = pure (.none, some (.reminders failure))) ∧
      ∀ reminders : List Reminder, rest (some (.ok reminders)) =
        scanner.handleReminders reminders >>= fun report =>
          pure ({ ScanReport.none with dueReminders := reminders.length } + report, none) :=
  ⟨_, rfl, rfl, fun _ => rfl, fun _ => rfl⟩

/-- The half of a scan that handles reminders comes to the same report, and says the same, when its
query told of nobody instead of failing. -/
theorem scanReminders_mend (answer : (call : Call) → σ → Option call.Reply × σ)
    (scanner : Scanner) (now : Instant) (state : σ) :
    ∃ report failure middle,
      (scanner.scanReminders now).run answer state = ((report, failure), middle) ∧
      (scanner.scanReminders now).run (mend answer) state = ((report, none), middle) ∧
      (scanner.scanReminders now).transcript (mend answer) state =
        ((scanner.scanReminders now).transcript answer state).map (·.mended) ∧
      ((scanner.scanReminders now).transcript answer state).filterMap
        (reminderFailure? scanner.settings.ioTimeout) = failure.toList ∧
      ((scanner.scanReminders now).transcript answer state).filterMap
        (birthdayFailure? scanner.settings.ioTimeout) = [] := by
  obtain ⟨rest, begins, silent, failed, found⟩ := scanReminders_eq scanner now
  have quiet : ∀ reminders, (scanner.handleReminders reminders).Uses fun call =>
      call.isQuery = false := fun reminders =>
    (scanner.handleReminders_asks (fun _ => rfl) (fun _ => rfl) reminders).uses
  simp only [begins, Program.run_ask, Program.transcript_ask]
  have mended : mend answer (.dueReminders now) state =
    (some (.ok (told (answer (.dueReminders now) state).1)),
      (answer (.dueReminders now) state).2) := rfl
  rw [mended]
  rcases answer (.dueReminders now) state with ⟨reply, middle⟩
  rcases reply with _ | reply
  · simp only [told, silent, found]
    exact ⟨_, _, _, rfl, rfl, rfl, rfl, rfl⟩
  · cases reply with
    | error failure =>
      simp only [told, failed, found]
      exact ⟨_, _, _, rfl, rfl, rfl, rfl, rfl⟩
    | ok reminders =>
      obtain ⟨sameRun, said, noReminders, noBirthdays⟩ :=
        mend_quiet answer scanner.settings.ioTimeout (quiet reminders) middle
      simp only [told, found reminders, Program.run_bind, Program.transcript_bind, sameRun, said,
        Program.run_pure, Program.transcript_pure, List.append_nil]
      exact ⟨_, _, _, rfl, rfl, rfl, noReminders, noBirthdays⟩

/-- The half of a scan that handles birthdays begins with its query. -/
theorem scanBirthdays_eq (scanner : Scanner) (now : Instant) :
    ∃ rest, scanner.scanBirthdays now =
        .ask (.dueBirthdays now) (some scanner.settings.ioTimeout) rest ∧
      rest none = pure (scanner.handled, .none,
        some (.birthdays (.timeout scanner.settings.ioTimeout))) ∧
      (∀ failure, rest (some (.error failure)) =
        pure (scanner.handled, .none, some (.birthdays failure))) ∧
      ∀ birthdays : List Birthday, rest (some (.ok birthdays)) =
        scanner.handleBirthdays (scanner.handled.onDay now.date) birthdays >>= fun result =>
          pure (result.1, { ScanReport.none with dueBirthdays := birthdays.length } + result.2,
            none) :=
  ⟨_, rfl, rfl, fun _ => rfl, fun _ => rfl⟩

/-- The half of a scan that handles birthdays comes to the same report, and says the same, when its
query told of nobody instead of failing; only then it takes up the new day. -/
theorem scanBirthdays_mend (answer : (call : Call) → σ → Option call.Reply × σ)
    (scanner : Scanner) (now : Instant) (state : σ) :
    ∃ handled mended report failure middle,
      (scanner.scanBirthdays now).run answer state = ((handled, report, failure), middle) ∧
      (scanner.scanBirthdays now).run (mend answer) state = ((mended, report, none), middle) ∧
      (mended = handled ∨
        handled = scanner.handled ∧ mended = scanner.handled.onDay now.date) ∧
      (scanner.scanBirthdays now).transcript (mend answer) state =
        ((scanner.scanBirthdays now).transcript answer state).map (·.mended) ∧
      ((scanner.scanBirthdays now).transcript answer state).filterMap
        (reminderFailure? scanner.settings.ioTimeout) = [] ∧
      ((scanner.scanBirthdays now).transcript answer state).filterMap
        (birthdayFailure? scanner.settings.ioTimeout) = failure.toList := by
  obtain ⟨rest, begins, silent, failed, found⟩ := scanBirthdays_eq scanner now
  have quiet : ∀ birthdays, (scanner.handleBirthdays (scanner.handled.onDay now.date)
      birthdays).Uses fun call => call.isQuery = false := fun birthdays =>
    (scanner.handleBirthdays_asks (fun _ => rfl) _ birthdays).uses
  have mended : mend answer (.dueBirthdays now) state =
    (some (.ok (told (answer (.dueBirthdays now) state).1)),
      (answer (.dueBirthdays now) state).2) := rfl
  simp only [begins, Program.run_ask, Program.transcript_ask]
  rw [mended]
  rcases answer (.dueBirthdays now) state with ⟨reply, middle⟩
  rcases reply with _ | reply
  · simp only [told, silent, found]
    exact ⟨_, _, _, _, _, rfl, rfl, .inr ⟨rfl, rfl⟩, rfl, rfl, rfl⟩
  · cases reply with
    | error failure =>
      simp only [told, failed, found]
      exact ⟨_, _, _, _, _, rfl, rfl, .inr ⟨rfl, rfl⟩, rfl, rfl, rfl⟩
    | ok birthdays =>
      obtain ⟨sameRun, said, noReminders, noBirthdays⟩ :=
        mend_quiet answer scanner.settings.ioTimeout (quiet birthdays) middle
      simp only [told, found birthdays, Program.run_bind, Program.transcript_bind, sameRun, said,
        Program.run_pure, Program.transcript_pure, List.append_nil]
      exact ⟨_, _, _, _, _, rfl, rfl, .inl rfl, rfl, noReminders, noBirthdays⟩

/-! ## Scanners that cannot be told apart -/

/-- From a day on, it makes no difference which of two scanners remembers. -/
def AlikeFrom (day : Date) (handled other : HandledBirthdays) : Prop :=
  ∀ later, day ≤ later → handled.onDay later = other.onDay later

/-- Later there is less to tell apart. -/
theorem AlikeFrom.mono {other : HandledBirthdays} (alike : AlikeFrom day handled other)
    (notOver : day ≤ today) : AlikeFrom today handled other :=
  fun later upcoming => alike later (Date.le_trans notOver upcoming)

/-- What is remembered for today is remembered today. -/
theorem onDay_of_day (remembered : handled.day = some day) : handled.onDay day = handled :=
  if_pos remembered

/-- For a day that is not the remembered one, nobody is remembered. -/
theorem onDay_of_ne (other : handled.day ≠ some day) : handled.onDay day = ⟨some day, []⟩ :=
  if_neg other

/-- To take up a new day makes no difference from that day on. -/
theorem alikeFrom_onDay
    (notLater : ∀ remembered, handled.day = some remembered → remembered ≤ today) :
    AlikeFrom today handled (handled.onDay today) := by
  intro later upcoming
  by_cases known : handled.day = some today
  · rw [onDay_of_day known]
  · rw [onDay_of_ne known]
    have isNew : handled.day ≠ some later := by
      intro remembered
      have same : today = later := Date.le_antisymm upcoming (notLater later remembered)
      exact known (same ▸ remembered)
    rw [onDay_of_ne isNew]
    by_cases same : today = later
    · rw [same, onDay_of_day rfl]
    · rw [onDay_of_ne fun taken => same (Option.some.inj taken)]

/-- What is remembered about birthdays does not matter for a reminder. -/
theorem handleReminders_remembering (scanner : Scanner) (handled : HandledBirthdays)
    (reminders : List Reminder) :
    ({ scanner with handled := handled } : Scanner).handleReminders reminders =
      scanner.handleReminders reminders := by
  induction reminders with
  | nil => rfl
  | cons reminder more ih =>
    unfold handleReminders
    rw [ih]
    rfl

/-- Nor does it matter for a birthday, but for those who are done. -/
theorem handleBirthdays_remembering (scanner : Scanner) (other handled : HandledBirthdays)
    (birthdays : List Birthday) :
    ({ scanner with handled := other } : Scanner).handleBirthdays handled birthdays =
      scanner.handleBirthdays handled birthdays := by
  induction birthdays generalizing handled with
  | nil => rfl
  | cons birthday more ih =>
    unfold handleBirthdays
    split_ifs
    · rw [ih]
    · congr 1
      funext result
      obtain ⟨done, report⟩ := result
      simp only [ih]

/-- The half of a scan that handles reminders does not look at what is remembered. -/
theorem scanReminders_remembering (scanner : Scanner) (handled : HandledBirthdays) (now : Instant) :
    ({ scanner with handled := handled } : Scanner).scanReminders now =
      scanner.scanReminders now := by
  unfold scanReminders
  congr 1
  funext found
  cases found with
  | error failure => rfl
  | ok reminders => exact congrArg (· >>= _) (handleReminders_remembering scanner handled reminders)

/-- The half of a scan that handles birthdays cannot tell apart what cannot be told apart from its
day on, and leaves it so. -/
theorem scanBirthdays_alike (answer : (call : Call) → σ → Option call.Reply × σ)
    (scanner : Scanner) (now : Instant) (state : σ)
    {other : HandledBirthdays} (alike : AlikeFrom now.date scanner.handled other) :
    ∃ handled others report failure middle,
      (scanner.scanBirthdays now).run answer state = ((handled, report, failure), middle) ∧
      (({ scanner with handled := other } : Scanner).scanBirthdays now).run answer state =
        ((others, report, failure), middle) ∧
      AlikeFrom now.date handled others ∧
      (scanner.scanBirthdays now).transcript answer state =
        (({ scanner with handled := other } : Scanner).scanBirthdays now).transcript answer
          state := by
  obtain ⟨rest, begins, silent, failed, found⟩ := scanBirthdays_eq scanner now
  obtain ⟨others, othersBegin, othersSilent, othersFailed, othersFound⟩ :=
    scanBirthdays_eq { scanner with handled := other } now
  have sameDay : other.onDay now.date = scanner.handled.onDay now.date :=
    (alike now.date (Date.le_refl _)).symm
  have same : ∀ birthdays : List Birthday,
      others (some (.ok birthdays)) = rest (some (.ok birthdays)) := by
    intro birthdays
    rw [found, othersFound, handleBirthdays_remembering, sameDay]
  simp only [begins, othersBegin, Program.run_ask, Program.transcript_ask]
  rcases answer (.dueBirthdays now) state with ⟨reply, middle⟩
  rcases reply with _ | reply
  · simp only [silent, othersSilent]
    exact ⟨_, _, _, _, _, rfl, rfl, alike, rfl⟩
  · cases reply with
    | error failure =>
      simp only [failed, othersFailed]
      exact ⟨_, _, _, _, _, rfl, rfl, alike, rfl⟩
    | ok birthdays =>
      rw [same birthdays]
      exact ⟨_, _, _, _, _, rfl, rfl, fun _ _ => rfl, rfl⟩

/-- A scan is its two halves, one after the other. -/
theorem scan_eq (scanner : Scanner) (now : Instant) :
    scanner.scan now = scanner.scanReminders now >>= fun first =>
      scanner.scanBirthdays now >>= fun second =>
        pure ({ scanner with handled := second.1 },
          conclude (first.1 + second.2.1) (first.2.toList ++ second.2.2.toList)) := rfl

/-- A scan cannot tell apart what cannot be told apart from its day on, and leaves it so. -/
theorem scan_alike (answer : (call : Call) → σ → Option call.Reply × σ)
    (scanner : Scanner) (now : Instant) (state : σ) {other : HandledBirthdays}
    (alike : AlikeFrom now.date scanner.handled other) :
    ∃ handled others outcome after,
      (scanner.scan now).run answer state =
        (({ scanner with handled := handled }, outcome), after) ∧
      (({ scanner with handled := other } : Scanner).scan now).run answer state =
        (({ scanner with handled := others }, outcome), after) ∧
      AlikeFrom now.date handled others ∧
      (scanner.scan now).transcript answer state =
        (({ scanner with handled := other } : Scanner).scan now).transcript answer state := by
  obtain ⟨handled, others, report, failure, after, runs, othersRun, stillAlike, said⟩ :=
    scanBirthdays_alike answer scanner now
      ((scanner.scanReminders now).run answer state).2 alike
  simp only [scan_eq, scanReminders_remembering, Program.run_bind, Program.transcript_bind, runs,
    othersRun, said, Program.run_pure, Program.transcript_pure]
  exact ⟨_, _, _, _, rfl, rfl, stillAlike, trivial⟩

/-! ## Scans, one after the other -/

/-- What comes of a scan: what was said, how it ended, and the surroundings after it. -/
structure Course (σ : Type) where
  /-- What was said. -/
  said : List Answered
  /-- How the scan ended. -/
  outcome : Except IncompleteScan ScanReport
  /-- The surroundings after the scan. -/
  after : σ

/-- The scanner after scans at given times, each with the surroundings that it meets. -/
def through (answer : (call : Call) → σ → Option call.Reply × σ) :
    Scanner → List (Instant × σ) → Scanner
  | scanner, [] => scanner
  | scanner, (now, state) :: more =>
    through answer ((scanner.scan now).run answer state).1.1 more

/-- What comes of scans at given times, each with the surroundings that it meets. -/
def follow (answer : (call : Call) → σ → Option call.Reply × σ) :
    Scanner → List (Instant × σ) → List (Course σ)
  | _, [] => []
  | scanner, (now, state) :: more =>
    let ended := (scanner.scan now).run answer state
    ⟨(scanner.scan now).transcript answer state, ended.1.2, ended.2⟩ ::
      follow answer ended.1.1 more

/-- Scanners that cannot be told apart are not told apart by any scans whose days do not go
backwards. -/
theorem follow_alike {times : List (Instant × σ)} {other : HandledBirthdays}
    (alike : AlikeFrom day scanner.handled other)
    (ascending : (day :: times.map (·.1.date)).Pairwise (· ≤ ·)) :
    follow answer scanner times = follow answer { scanner with handled := other } times := by
  induction times generalizing scanner other day with
  | nil => rfl
  | cons time more ih =>
    obtain ⟨now, state⟩ := time
    obtain ⟨upcoming, laterAscending⟩ := List.pairwise_cons.1 ascending
    have fromNow := alike.mono (upcoming now.date List.mem_cons_self)
    obtain ⟨handled, others, outcome, after, runs, othersRun, stillAlike, said⟩ :=
      scan_alike answer scanner now state fromNow
    unfold follow
    rw [runs, othersRun, said]
    have others : follow answer { scanner with handled := handled } more =
        follow answer { scanner with handled := others } more := ih stillAlike laterAscending
    exact congrArg _ others

/-- A scanner remembers no day but those of its scans. -/
theorem through_notLater {times : List (Instant × σ)}
    (notLater : ∀ remembered, scanner.handled.day = some remembered → remembered ≤ today)
    (notOver : ∀ time ∈ times, time.1.date ≤ today) :
    ∀ remembered, (through answer scanner times).handled.day = some remembered →
      remembered ≤ today := by
  induction times generalizing scanner with
  | nil => exact notLater
  | cons time more ih =>
    obtain ⟨now, state⟩ := time
    obtain ⟨first, others⟩ := List.forall_mem_cons.1 notOver
    refine ih ?_ others
    obtain ⟨minutes, tell⟩ :=
      scan_minutes scanner.publishTimeout ((scanner.scan now).runs_answeredBy answer state)
    rcases tell.birthdays.day_cases with isToday | unchanged
    · intro remembered isDay
      exact Option.some.inj (isToday.symm.trans isDay) ▸ first
    · rw [unchanged]
      exact notLater

/-- A mended dialogue has the same publications. -/
theorem publications_mended (said : List Answered) :
    (said.map (·.mended)).filter (·.call.isPublication) = said.filter (·.call.isPublication) := by
  induction said with
  | nil => rfl
  | cons answered more ih =>
    have sameCall : answered.mended.call = answered.call := rfl
    rw [List.map_cons, List.filter_cons, List.filter_cons, sameCall, ih]
    split_ifs with isPublication
    · have same : answered.mended = answered := by
        obtain ⟨call, reply⟩ := answered
        cases call with
        | publish type body => rfl
        | _ => cases isPublication
      rw [same]
    · rfl

/-- The halves of a scan are independent of each other, in every scan of a scanner whose days do not
go backwards.

Whatever the queries come to, the scan comes to the same report, says the same and leaves its
surroundings the same as if each query that fails had told of nobody; it is incomplete for exactly
the queries that fail, first that for reminders and then that for birthdays. After this no later
scans can tell whether the queries failed or told of nobody. -/
theorem halves_independent {settings : ScannerSettings} {earlier : List (Instant × σ)}
    (isScanner : scanner = through answer (.new settings limit) earlier)
    (notOver : ∀ time ∈ earlier, time.1.date ≤ now.date) (state : σ) :
    ∃ next mended report after,
      (scanner.scan now).run answer state = ((next, conclude report (failedQueries
        scanner.settings.ioTimeout ((scanner.scan now).transcript answer state))), after) ∧
      (scanner.scan now).run (mend answer) state = ((mended, .ok report), after) ∧
      (scanner.scan now).transcript (mend answer) state =
        ((scanner.scan now).transcript answer state).map (·.mended) ∧
      ((scanner.scan now).transcript (mend answer) state).filter (·.call.isPublication) =
        ((scanner.scan now).transcript answer state).filter (·.call.isPublication) ∧
      ∀ later : List (Instant × σ), (now.date :: later.map (·.1.date)).Pairwise (· ≤ ·) →
        follow answer next later = follow answer mended later := by
  have empty : ∀ remembered, (new settings limit).handled.day = some remembered →
      remembered ≤ now.date := by
    intro remembered isDay
    cases isDay
  have notLater : ∀ remembered, scanner.handled.day = some remembered → remembered ≤ now.date :=
    isScanner ▸ through_notLater empty notOver
  obtain ⟨first, noReminders, middle, run, mendedRun, said, failed, others⟩ :=
    scanReminders_mend answer scanner now state
  obtain ⟨handled, mended, second, noBirthdays, after, goesOn, mendedGoesOn, days, saidThen,
    othersThen, failedThen⟩ := scanBirthdays_mend answer scanner now middle
  have alike : AlikeFrom now.date handled mended := by
    rcases days with rfl | ⟨rfl, rfl⟩
    · exact fun _ _ => rfl
    · exact alikeFrom_onDay notLater
  have transcript : (scanner.scan now).transcript (mend answer) state =
      ((scanner.scan now).transcript answer state).map (·.mended) := by
    simp only [scan_eq, Program.transcript_bind, run, mendedRun, goesOn, mendedGoesOn, said,
      saidThen, Program.transcript_pure, List.append_nil, List.map_append]
  have failures : failedQueries scanner.settings.ioTimeout
      ((scanner.scan now).transcript answer state) =
        noReminders.toList ++ noBirthdays.toList := by
    unfold failedQueries
    simp only [scan_eq, Program.transcript_bind, run, goesOn, Program.transcript_pure,
      List.append_nil, List.filterMap_append, failed, others, failedThen, othersThen,
      List.nil_append]
  refine ⟨{ scanner with handled := handled }, { scanner with handled := mended }, first + second,
    after, ?_, ?_, transcript, ?_, fun later ascending => ?_⟩
  · rw [failures]
    simp only [scan_eq, Program.run_bind, run, goesOn, Program.run_pure]
  · simp only [scan_eq, Program.run_bind, mendedRun, mendedGoesOn, Program.run_pure]
    rfl
  · rw [transcript, publications_mended]
  · have remembers : AlikeFrom now.date ({ scanner with handled := handled } : Scanner).handled
        mended := alike
    exact follow_alike remembers ascending

/-- Queries that fail while there is an outage, the one for birthdays without an answer. All other
calls succeed. -/
def outage : (call : Call) → Bool → Option call.Reply × Bool
  | .dueReminders _, down =>
    (some (if down then .error (.unavailable "down") else .ok [wish]), down)
  | .dueBirthdays _, down => (if down then none else some (.ok [ada, bob]), down)
  | .publish _ _, down => (some (.ok (.ofNat 1)), down)
  | .mark _, down => (some (.ok ()), down)
  | _, down => (none, down)

/-- The scanner after its first scan, in which no query failed. -/
def rested : Scanner := through outage watch [(.midnight .epoch, false)]

/-- In a scan during an outage, on the day after the first scan, both queries fail. The scanner does
not take up the new day, as it would do if they told of nobody, and in the next scan nobody can
tell. -/
theorem halves_independent_outage :
    ∃ next mended report,
      (rested.scan (.midnight nextDay)).run outage true =
        ((next, .error ⟨report, [.reminders (.unavailable "down"),
          .birthdays (.timeout (.ofSeconds 5))]⟩), true) ∧
      (rested.scan (.midnight nextDay)).run (mend outage) true = ((mended, .ok report), true) ∧
      next ≠ mended ∧
      follow outage next [(.midnight nextDay, false)] =
        follow outage mended [(.midnight nextDay, false)] := by
  have notOver : ∀ time ∈ [(Instant.midnight .epoch, false)],
      time.1.date ≤ (Instant.midnight nextDay).date := by decide
  have failures : failedQueries (.ofSeconds 5)
      ((rested.scan (.midnight nextDay)).transcript outage true) =
        [.reminders (.unavailable "down"), .birthdays (.timeout (.ofSeconds 5))] := by
    decide +kernel
  have days : ((rested.scan (.midnight nextDay)).run outage true).1.1.handled.day ≠
      ((rested.scan (.midnight nextDay)).run (mend outage) true).1.1.handled.day := by
    decide +kernel
  have down : ((rested.scan (.midnight nextDay)).run outage true).2 = true := by decide +kernel
  have limit : rested.settings.ioTimeout = .ofSeconds 5 := by decide +kernel
  have isRested : rested = through outage watch [(.midnight .epoch, false)] := rfl
  generalize rested = scanner at *
  obtain ⟨next, mended, report, after, run, mendedRun, -, -, same⟩ :=
    halves_independent isRested notOver true
  rw [limit, failures] at run
  rw [run] at days down
  rw [mendedRun] at days
  obtain rfl : after = true := down
  refine ⟨next, mended, report, run, mendedRun, fun alike => ?_, ?_⟩
  · exact days (congrArg (·.handled.day) alike)
  · exact same [(.midnight nextDay, false)] (by decide)

end Scanner

end ReminderDispatch
