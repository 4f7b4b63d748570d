import Mathlib.Tactic.Ring
import ReminderDispatch.Proofs.Deadlines
import ReminderDispatch.Proofs.Scan.Reports

/-!
# Scans and deadlines

Every call of a scan has a limit, and the scan goes on when it has passed. So a scan comes to its
end whatever stores and brokers do, after the limits of its calls at the latest: those of two
queries, of one mark for each reminder that is to be marked, and of two publications for each item
from which tasks can be made. Every call that is late counts as a failure, and no reminder is marked
of which a publication was late.
-/

namespace ReminderDispatch

/-- The call came to an answer, and this is a failure. -/
def Answered.isRefused (answered : Answered) : Bool :=
  match answered.reply with
  | some (.error _) => true
  | some (.ok _) | none => false

/-- The failure of a query that is late. -/
def Call.timedOut? (limit : Duration) : Call → Option FailedQuery
  | .dueReminders _ => some (.reminders (.timeout limit))
  | .dueBirthdays _ => some (.birthdays (.timeout limit))
  | _ => none

/-- The call publishes a task or marks a reminder. -/
def Call.isAction (call : Call) : Bool := call.isPublication || call.isMark

/-- A call that publishes a task marks no reminder. -/
theorem Call.isMark_of_isPublication {call : Call} (isPublication : call.isPublication = true) :
    call.isMark = false := by
  cases call with
  | publish type body => rfl
  | _ => cases isPublication

/-- A publication is an action. -/
theorem Call.isAction_of_isPublication {call : Call} (isPublication : call.isPublication = true) :
    call.isAction = true := by
  unfold isAction
  rw [isPublication]
  rfl

/-- Publications and marks are no queries. -/
theorem Call.timedOut?_of_isAction {call : Call} (limit : Duration)
    (isAction : call.isAction = true) : call.timedOut? limit = none := by
  cases call with
  | dueReminders now => cases isAction
  | dueBirthdays now => cases isAction
  | _ => rfl

namespace Scanner

variable {σ : Type} {scanner next : Scanner} {now : Instant} {limit : Duration}
  {said trace : List Answered} {outcome : Except IncompleteScan ScanReport} {minutes : Minutes}
  {reminder : Reminder} {turns front back : List Turn} {turn : Turn}

/-- How many publications and marks were late. -/
def lateIn (waits : List Wait) : Nat :=
  waits.countP fun wait => wait.said.call.isAction && wait.isLate

/-- How many publications and marks were answered with a failure. -/
def refusedInTime (waits : List Wait) : Nat :=
  waits.countP fun wait => wait.said.call.isAction && wait.said.isRefused

/-- The limit of a call. -/
def limitOf (scanner : Scanner) (call : Call) : Duration :=
  if call.isPublication then scanner.publishTimeout else scanner.settings.ioTimeout

/-- Every call of a scan has a limit. -/
theorem scan_limited (scanner : Scanner) (now : Instant) :
    (scanner.scan now).Asks fun call limit => limit = some (scanner.limitOf call) :=
  scanner.scan_asks (fun _ => rfl) (fun _ => rfl) rfl rfl

/-! ## What is said in a scan -/

/-- What is said about a reminder publishes tasks or marks it. -/
theorem Handled.actions (handled : Handled reminder said) :
    ∀ answered ∈ said, answered.call.isPublication = true ∨ answered.call = .mark reminder.id := by
  intro answered member
  cases handled with
  | dropped invalid isMark =>
    rw [List.mem_singleton.1 member]
    exact .inr isMark
  | kept valid calls refused => exact .inl (isPublication_of_calls calls answered member)
  | passedOn valid calls accepted isMark =>
    rcases List.mem_append.1 member with first | last
    · exact .inl (isPublication_of_calls calls answered first)
    · rw [List.mem_singleton.1 last]
      exact .inr isMark

/-- What is said about a reminder are publications and marks. -/
theorem Handled.isAction (handled : Handled reminder said) :
    ∀ answered ∈ said, answered.call.isAction = true := by
  intro answered member
  rcases handled.actions answered member with isPublication | isMark
  · exact Call.isAction_of_isPublication isPublication
  · rw [isMark]
    rfl

/-- If a publication for a reminder is late, nothing but publications is said about it. -/
theorem Handled.publications (handled : Handled reminder said)
    (late : ∃ answered ∈ said, answered.call.isPublication = true ∧ answered.reply = none) :
    ∀ answered ∈ said, answered.call.isPublication = true := by
  obtain ⟨publication, isSaid, isPublication, unanswered⟩ := late
  have notOk : publication.isOk = false := by
    unfold Answered.isOk
    rw [unanswered]
  cases handled with
  | dropped invalid isMark =>
    rw [List.mem_singleton.1 isSaid, isMark] at isPublication
    cases isPublication
  | kept valid calls refused => exact isPublication_of_calls calls
  | passedOn valid calls accepted isMark =>
    rcases List.mem_append.1 isSaid with first | last
    · have isOk := List.all_eq_true.1 accepted publication first
      rw [notOk] at isOk
      cases isOk
    · rw [List.mem_singleton.1 last, isMark] at isPublication
      cases isPublication

/-- What is said about birthdays publishes tasks. -/
theorem Treats.publications {day : Date} {handled last : HandledBirthdays}
    {celebrations : List Celebration} (treats : Treats limit day handled celebrations last) :
    ∀ answered ∈ celebrations.flatMap (·.said), answered.call.isPublication = true := by
  induction treats with
  | none handled => exact fun answered member => absurd member List.not_mem_nil
  | skipped known others ih => exact ih
  | celebrated isNew celebrates others ih =>
    intro answered member
    rw [List.flatMap_cons] at member
    rcases List.mem_append.1 member with first | later
    · cases celebrates with
      | dropped invalid => exact absurd first List.not_mem_nil
      | published valid calls => exact isPublication_of_calls calls answered first
    · exact ih answered later

/-- All turns are those of reminders that are handled. -/
theorem ReminderHalf.handled {failure : Option FailedQuery}
    (half : ReminderHalf limit now turns said failure) :
    ∀ turn ∈ turns, Handled turn.reminder turn.said := by
  cases half with
  | told handled => exact handled
  | failed failure => simp
  | silent => simp

/-- All that is said for reminders is one query and the turns. -/
theorem ReminderHalf.said_eq {failure : Option FailedQuery}
    (half : ReminderHalf limit now turns said failure) :
    ∃ query, said = query :: turns.flatMap (·.said) ∧ query.call = .dueReminders now := by
  cases half with
  | told handled => exact ⟨_, rfl, rfl⟩
  | failed failure => exact ⟨_, rfl, rfl⟩
  | silent => exact ⟨_, rfl, rfl⟩

/-- All that is said for birthdays is one query and publications. -/
theorem BirthdayHalf.said_eq {celebrations : List Celebration} {last : HandledBirthdays}
    {failure : Option FailedQuery}
    (half : BirthdayHalf limit scanner now celebrations said last failure) :
    ∃ query published, said = query :: published ∧ query.call = .dueBirthdays now ∧
      ∀ answered ∈ published, answered.call.isPublication = true := by
  cases half with
  | told treats => exact ⟨_, _, rfl, rfl, treats.publications⟩
  | failed failure => exact ⟨_, [], rfl, rfl, by simp⟩
  | silent => exact ⟨_, [], rfl, rfl, by simp⟩

/-- All that is said in a scan are two queries, the turns of the reminders, and publications for
birthdays. -/
theorem Minutes.Tell.queries (tell : minutes.Tell limit scanner now trace next outcome) :
    ∃ first second published,
      trace = first :: minutes.turns.flatMap (·.said) ++ second :: published ∧
      first.call = .dueReminders now ∧ second.call = .dueBirthdays now ∧
      ∀ answered ∈ published, answered.call.isPublication = true := by
  obtain ⟨first, front, isFirst⟩ := tell.reminders.said_eq
  obtain ⟨second, published, back, isSecond, publications⟩ := tell.birthdays.said_eq
  exact ⟨first, second, published, by rw [tell.trace_eq, front, back], isFirst, isSecond,
    publications⟩

/-! ## The time of a scan -/

/-- Publications and marks have as many limits as there are of each. -/
theorem allowance_actions (actions : ∀ answered ∈ said, answered.call.isAction = true) :
    allowance scanner.limitOf said =
      scanner.settings.ioTimeout.nanos * said.countP (·.call.isMark) +
        scanner.publishTimeout.nanos * said.countP (·.call.isPublication) := by
  induction said with
  | nil => rfl
  | cons answered more ih =>
    obtain ⟨isAction, others⟩ := List.forall_mem_cons.1 actions
    have first : allowance scanner.limitOf (answered :: more) =
        (scanner.limitOf answered.call).nanos + allowance scanner.limitOf more := rfl
    rw [first, ih others, List.countP_cons, List.countP_cons]
    unfold limitOf
    cases isPublication : answered.call.isPublication with
    | true =>
      rw [Call.isMark_of_isPublication isPublication]
      simp only [if_true, Bool.false_eq_true, if_false]
      ring
    | false =>
      have isMark : answered.call.isMark = true := by
        simpa [Call.isAction, isPublication] using isAction
      rw [isMark]
      simp only [if_true, Bool.false_eq_true, if_false]
      ring

/-- A scan has the limits of two queries, of its marks and of its publications. -/
theorem Minutes.Tell.allowance_eq (tell : minutes.Tell limit scanner now trace next outcome) :
    allowance scanner.limitOf trace =
      scanner.settings.ioTimeout.nanos * (2 + trace.countP (·.call.isMark)) +
        scanner.publishTimeout.nanos * trace.countP (·.call.isPublication) := by
  obtain ⟨first, second, published, rfl, isFirst, isSecond, publications⟩ := tell.queries
  have turns : ∀ answered ∈ minutes.turns.flatMap (·.said), answered.call.isAction = true := by
    intro answered member
    obtain ⟨turn, isTurn, isSaid⟩ := List.mem_flatMap.1 member
    exact (tell.reminders.handled turn isTurn).isAction answered isSaid
  have actions : ∀ answered ∈ published, answered.call.isAction = true :=
    fun answered member => Call.isAction_of_isPublication (publications answered member)
  have query : ∀ answered said, answered.call.isPublication = false →
      allowance scanner.limitOf (answered :: said) =
        scanner.settings.ioTimeout.nanos + allowance scanner.limitOf said := by
    intro answered said noPublication
    show (scanner.limitOf answered.call).nanos + allowance scanner.limitOf said = _
    unfold limitOf
    rw [noPublication]
    rfl
  have noMark : first.call.isMark = false ∧ second.call.isMark = false := by
    rw [isFirst, isSecond]
    exact ⟨rfl, rfl⟩
  have noPublication : first.call.isPublication = false ∧ second.call.isPublication = false := by
    rw [isFirst, isSecond]
    exact ⟨rfl, rfl⟩
  rw [allowance_append, query first _ noPublication.1, query second _ noPublication.2,
    allowance_actions turns, allowance_actions actions]
  simp only [List.countP_append, List.countP_cons, noMark, noPublication, Bool.false_eq_true,
    if_false, Nat.add_zero]
  ring

/-- Publications are accepted or not. -/
theorem countP_isPublication (said : List Answered) :
    said.countP (·.call.isPublication) = acceptedIn said + refusedIn said := by
  rw [List.countP_eq_countP_filter_add said _ (·.isOk), List.countP_filter, List.countP_filter]
  rfl

/-- A scan is over when the limits of its calls have passed: two queries, its marks, and two
publications for each item from which tasks can be made. -/
theorem Minutes.Tell.allowance_eq_convertible
    (tell : minutes.Tell scanner.publishTimeout scanner now trace next outcome) :
    allowance scanner.limitOf trace =
      scanner.settings.ioTimeout.nanos * (2 + trace.countP (·.call.isMark)) +
        scanner.publishTimeout.nanos *
          (2 * convertible minutes.turns minutes.celebrations) := by
  have published := tell.addsUp.published_eq
  rw [tell.addsUp.enqueued_eq] at published
  rw [tell.allowance_eq, countP_isPublication, published]

/-! ## Calls that are late -/

/-- Publications and marks that fail are those that are not accepted and those that mark nothing. -/
theorem countP_failed (said : List Answered) :
    (said.countP fun answered => answered.call.isAction && !answered.isOk) =
      refusedIn said + unmarkedIn said := by
  rw [List.countP_eq_countP_filter_add said _ (·.call.isPublication), List.countP_filter,
    List.countP_filter]
  unfold refusedIn unmarkedIn Call.isAction
  congr 1
  · refine List.countP_congr fun answered _ => ?_
    cases answered.call.isPublication <;> simp
  · refine List.countP_congr fun answered _ => ?_
    cases isPublication : answered.call.isPublication with
    | true => simp [Call.isMark_of_isPublication isPublication]
    | false => simp

/-- A call that fails is late, or is answered with a failure. -/
theorem countP_failed_waits {waits : List Wait}
    (late : ∀ wait ∈ waits, wait.isLate = true ↔ wait.said.reply = none) :
    (waits.countP fun wait => wait.said.call.isAction && !wait.said.isOk) =
      lateIn waits + refusedInTime waits := by
  rw [List.countP_eq_countP_filter_add waits _ (·.isLate), List.countP_filter, List.countP_filter]
  unfold lateIn refusedInTime
  congr 1
  · refine List.countP_congr fun wait member => ?_
    have isLate := late wait member
    obtain ⟨⟨call, reply⟩, limit, delay⟩ := wait
    rcases reply with _ | reply
    · simp [isLate.2 rfl, Answered.isOk]
    · have inTime := mt isLate.1 (by simp)
      simp [inTime]
  · refine List.countP_congr fun wait member => ?_
    have isLate := late wait member
    obtain ⟨⟨call, reply⟩, limit, delay⟩ := wait
    rcases reply with _ | reply
    · simp [isLate.2 rfl, Answered.isRefused]
    · have inTime := mt isLate.1 (by simp)
      cases reply <;> simp [inTime, Answered.isOk, Answered.isRefused]

/-- The report of a scan is that on both of its halves. -/
theorem Minutes.Tell.reportOf_eq (tell : minutes.Tell limit scanner now trace next outcome) :
    reportOf outcome = minutes.firstReport + minutes.secondReport := by
  rw [tell.outcome_eq, reportOf_conclude]

/-- A query for reminders that is late is a failure of its half. -/
theorem ReminderHalf.late {failed : Option FailedQuery} {answered : Answered}
    {failure : FailedQuery} (half : ReminderHalf limit now turns said failed)
    (member : answered ∈ said) (unanswered : answered.reply = none)
    (isQuery : answered.call.timedOut? limit = some failure) : failed = some failure := by
  cases half with
  | told handled =>
    rcases List.mem_cons.1 member with rfl | isSaid
    · cases unanswered
    · obtain ⟨turn, isTurn, isSaid⟩ := List.mem_flatMap.1 isSaid
      rw [Call.timedOut?_of_isAction limit ((handled turn isTurn).isAction answered isSaid)]
        at isQuery
      cases isQuery
  | failed failure =>
    obtain rfl := List.mem_singleton.1 member
    cases unanswered
  | silent =>
    obtain rfl := List.mem_singleton.1 member
    exact isQuery

/-- A query for birthdays that is late is a failure of its half. -/
theorem BirthdayHalf.late {celebrations : List Celebration} {last : HandledBirthdays}
    {failed : Option FailedQuery} {answered : Answered} {failure : FailedQuery}
    (half : BirthdayHalf limit scanner now celebrations said last failed)
    (member : answered ∈ said) (unanswered : answered.reply = none)
    (isQuery : answered.call.timedOut? scanner.settings.ioTimeout = some failure) :
    failed = some failure := by
  cases half with
  | told treats =>
    rcases List.mem_cons.1 member with rfl | isSaid
    · cases unanswered
    · rw [Call.timedOut?_of_isAction _ (Call.isAction_of_isPublication
        (treats.publications answered isSaid))] at isQuery
      cases isQuery
  | failed failure =>
    obtain rfl := List.mem_singleton.1 member
    cases unanswered
  | silent =>
    obtain rfl := List.mem_singleton.1 member
    exact isQuery

/-- A query that is late is among the failures of its scan. -/
theorem Minutes.Tell.late (tell : minutes.Tell limit scanner now trace next outcome)
    {answered : Answered} {failure : FailedQuery} (member : answered ∈ trace)
    (unanswered : answered.reply = none)
    (isQuery : answered.call.timedOut? scanner.settings.ioTimeout = some failure) :
    ∃ incomplete, outcome = .error incomplete ∧ failure ∈ incomplete.failures := by
  have isFailure : failure ∈ minutes.noReminders.toList ++ minutes.noBirthdays.toList := by
    rw [tell.trace_eq] at member
    rcases List.mem_append.1 member with first | second
    · rw [tell.reminders.late first unanswered isQuery]
      exact List.mem_cons_self
    · rw [tell.birthdays.late second unanswered isQuery]
      exact List.mem_append_right _ List.mem_cons_self
  have incomplete : (minutes.noReminders.toList ++ minutes.noBirthdays.toList).isEmpty = false :=
    List.isEmpty_eq_false_iff.2 (List.ne_nil_of_mem isFailure)
  refine ⟨⟨minutes.firstReport + minutes.secondReport, _⟩, ?_, isFailure⟩
  rw [tell.outcome_eq]
  unfold conclude
  rw [incomplete]
  rfl

/-- Every mark is said in a turn of a reminder with its key. -/
theorem Minutes.Tell.exists_turn_of_mark
    (tell : minutes.Tell limit scanner now trace next outcome) {answered : Answered}
    {id : ReminderId} (member : answered ∈ trace) (isMark : answered.call = .mark id) :
    ∃ turn ∈ minutes.turns, answered ∈ turn.said ∧ turn.reminder.id = id := by
  have noPublication : answered.call.isPublication ≠ true := by
    rw [isMark]
    exact Bool.false_ne_true
  obtain ⟨first, second, others, rfl, isFirst, isSecond, publications⟩ := tell.queries
  rcases List.mem_append.1 member with about | about
  · rcases List.mem_cons.1 about with rfl | isSaid
    · rw [isFirst] at isMark
      cases isMark
    · obtain ⟨turn, isTurn, isSaid⟩ := List.mem_flatMap.1 isSaid
      rcases (tell.reminders.handled turn isTurn).actions answered isSaid with
        isPublication | marks
      · exact absurd isPublication noPublication
      · exact ⟨turn, isTurn, isSaid, Call.mark.inj (marks.symm.trans isMark)⟩
  · rcases List.mem_cons.1 about with rfl | isSaid
    · rw [isSecond] at isMark
      cases isMark
    · exact absurd (publications answered isSaid) noPublication

/-- A reminder of which a publication is late is not marked in its turn, nor anywhere else unless
another reminder with the same key is due. -/
theorem Minutes.Tell.kept (tell : minutes.Tell limit scanner now trace next outcome)
    (split : minutes.turns = front ++ turn :: back)
    (late : ∃ answered ∈ turn.said, answered.call.isPublication = true ∧ answered.reply = none) :
    (∀ answered ∈ turn.said, answered.call.isPublication = true) ∧
      ((∀ other ∈ front ++ back, other.reminder.id ≠ turn.reminder.id) →
        ∀ answered ∈ trace, answered.call ≠ .mark turn.reminder.id) := by
  have isTurn : turn ∈ minutes.turns := by
    rw [split]
    exact List.mem_append_right _ List.mem_cons_self
  have published := (tell.reminders.handled turn isTurn).publications late
  refine ⟨published, fun distinct answered member isMark => ?_⟩
  obtain ⟨other, isOther, isSaid, sameKey⟩ := tell.exists_turn_of_mark member isMark
  rw [split] at isOther
  rcases List.mem_append.1 isOther with before | notBefore
  · exact distinct other (List.mem_append_left _ before) sameKey
  · rcases List.mem_cons.1 notBefore with rfl | after
    · have isPublication := published answered isSaid
      rw [isMark] at isPublication
      cases isPublication
    · exact distinct other (List.mem_append_right _ after) sameKey

/-- What a scan tells about calls that were late. -/
structure TellsLate (scanner : Scanner)
    (finish : Finish σ (Scanner × Except IncompleteScan ScanReport)) (minutes : Minutes) :
    Prop where
  /-- The calls that are not answered are those that are late. -/
  late_iff : ∀ wait ∈ finish.waits, wait.isLate = true ↔ wait.said.reply = none
  /-- A query that is late is a failure of the scan. -/
  queries : ∀ wait ∈ finish.waits, wait.isLate = true →
    ∀ failure, wait.said.call.timedOut? scanner.settings.ioTimeout = some failure →
      ∃ incomplete, finish.value.2 = .error incomplete ∧ failure ∈ incomplete.failures
  /-- Publications and marks that are late are counted as failed, together with those that are
  answered with a failure and the items from which no tasks can be made. -/
  failed_eq : (reportOf finish.value.2).failed = lateIn finish.waits + refusedInTime finish.waits +
    inconvertible minutes.turns minutes.celebrations
  /-- A reminder of which a publication is late is not marked. -/
  kept : ∀ front turn back, minutes.turns = front ++ turn :: back →
    (∃ answered ∈ turn.said, answered.call.isPublication = true ∧ answered.reply = none) →
      (∀ answered ∈ turn.said, answered.call.isPublication = true) ∧
      ((∀ other ∈ front ++ back, other.reminder.id ≠ turn.reminder.id) →
        ∀ answered ∈ finish.said, answered.call ≠ .mark turn.reminder.id)

/-- No scan waits forever, whatever surroundings do about its calls. It is over after the limits of
two queries, of its marks, and of two publications for each item that was handled and from which
tasks can be made. Every call that is late is told. -/
theorem scan_never_hangs (surroundings : Surroundings σ) (scanner : Scanner) (now : Instant)
    (start : Moment) (state : σ) :
    ∃ finish minutes, (scanner.scan now).finish surroundings start state = some finish ∧
      minutes.Tell scanner.publishTimeout scanner now finish.said finish.value.1 finish.value.2 ∧
      start ≤ finish.ended ∧
      finish.ended ≤ start +
        (scanner.settings.ioTimeout.nanos * (2 + finish.said.countP (·.call.isMark)) +
          scanner.publishTimeout.nanos *
            (2 * convertible minutes.turns minutes.celebrations)) ∧
      TellsLate scanner finish minutes := by
  obtain ⟨finish, finishes, keepsTo⟩ :=
    (scanner.scan_limited now).exists_finish surroundings start state
  obtain ⟨minutes, tell⟩ :=
    scan_minutes scanner.publishTimeout (Program.runs_of_finish finishes)
  have late_query : ∀ wait ∈ finish.waits, wait.isLate = true →
      ∀ failure, wait.said.call.timedOut? scanner.settings.ioTimeout = some failure →
        ∃ incomplete, finish.value.2 = .error incomplete ∧ failure ∈ incomplete.failures :=
    fun wait member isLate failure isQuery =>
      tell.late (List.mem_map_of_mem member) ((keepsTo.late_iff wait member).1 isLate) isQuery
  have failed : (reportOf finish.value.2).failed = lateIn finish.waits +
      refusedInTime finish.waits + inconvertible minutes.turns minutes.celebrations := by
    rw [tell.reportOf_eq, tell.addsUp.failed_eq, ← countP_failed,
      ← countP_failed_waits keepsTo.late_iff]
    congr 1
    exact List.countP_map
  refine ⟨finish, minutes, finishes, tell, keepsTo.began, ?_, keepsTo.late_iff, late_query, failed,
    fun front turn back split late => tell.kept split late⟩
  rw [← tell.allowance_eq_convertible]
  exact keepsTo.ended_le

/-- A store that tells of two reminders just in time, never answers the query for birthdays, and
takes too long for marks, and a broker that never answers the first publication. They count the
publications. -/
def sluggish : Surroundings Nat where
  delay call _ count :=
    match call with
    | .dueReminders _ => some (.ofSeconds 5)
    | .mark _ => some (.ofSeconds 9)
    | .publish _ _ => if count = 0 then none else some (.ofMillis 200)
    | _ => none
  answer call _ count :=
    match call with
    | .dueReminders _ => (.ok [wish, { wish with id := ⟨2⟩ }], count)
    | .dueBirthdays _ => (.ok [], count)
    | .createNotification request => (.error (.unavailable request.title), count)
    | .publish _ _ => (.ok (.ofNat count), count + 1)
    | .mark _ | .send _ | .handOver _ => (.ok (), count)
  giveUp call _ _ count := if call.isPublication then count + 1 else count

/-- A scanner that waits longer for a store than for a broker. -/
def patient : Scanner := { watch with publishTimeout := .ofSeconds 2 }

/-- With such collaborators a scan is over after 17.6 seconds, while its limits are 23 seconds
together. One publication and one mark are late, and so is the query for birthdays. -/
theorem scan_never_hangs_sluggish :
    ∃ finish minutes, (patient.scan (.midnight .epoch)).finish sluggish 0 0 = some finish ∧
      finish.ended = 17600000000 ∧ lateIn finish.waits = 2 ∧
      convertible minutes.turns minutes.celebrations = 2 ∧
      finish.value.2 = .error ⟨⟨2, 0, 3, 2, 0, 0⟩, [.birthdays (.timeout (.ofSeconds 5))]⟩ ∧
      TellsLate patient finish minutes ∧
      finish.ended ≤ 0 + ((Duration.ofSeconds 5).nanos * (2 + 1) +
        (Duration.ofSeconds 2).nanos * (2 * 2)) := by
  have ended : ((patient.scan (.midnight .epoch)).finish sluggish 0 0).map (·.ended) =
      some 17600000000 := by decide +kernel
  have late : ((patient.scan (.midnight .epoch)).finish sluggish 0 0).map (lateIn ·.waits) =
      some 2 := by decide +kernel
  have marks : ((patient.scan (.midnight .epoch)).finish sluggish 0 0).map
      (·.said.countP (·.call.isMark)) = some 1 := by decide +kernel
  have refused : ((patient.scan (.midnight .epoch)).finish sluggish 0 0).map (refusedIn ·.said) =
      some 1 := by decide +kernel
  have outcome : ((patient.scan (.midnight .epoch)).finish sluggish 0 0).map (·.value.2) =
      some (.error ⟨⟨2, 0, 3, 2, 0, 0⟩, [.birthdays (.timeout (.ofSeconds 5))]⟩) := by
    decide +kernel
  obtain ⟨finish, minutes, finishes, tell, -, inTime, tells⟩ :=
    scan_never_hangs sluggish patient (.midnight .epoch) 0 0
  rw [finishes] at ended late marks refused outcome
  have isOutcome : finish.value.2 =
      .error ⟨⟨2, 0, 3, 2, 0, 0⟩, [.birthdays (.timeout (.ofSeconds 5))]⟩ :=
    Option.some.inj outcome
  have oneMark : finish.said.countP (·.call.isMark) = 1 := Option.some.inj marks
  have oneRefused : refusedIn finish.said = 1 := Option.some.inj refused
  have two : convertible minutes.turns minutes.celebrations = 2 := by
    have published := tell.addsUp.published_eq
    rw [← tell.reportOf_eq, isOutcome, oneRefused] at published
    have four : 3 + 1 = 2 * convertible minutes.turns minutes.celebrations := published
    omega
  rw [oneMark, two] at inTime
  exact ⟨finish, minutes, finishes, Option.some.inj ended, Option.some.inj late, two, isOutcome,
    tells, inTime⟩

end Scanner

end ReminderDispatch
