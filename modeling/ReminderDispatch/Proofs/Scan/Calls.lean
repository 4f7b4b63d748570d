import Mathlib.Data.List.Forall2
import ReminderDispatch.Proofs.Scan.Tallies

/-!
# Calls of a scan

What a scan says in a dialogue that comes to its end. For every due reminder there is one section:
both tasks are published, and the reminder is marked at once when both were accepted; a reminder
from which no tasks can be made is marked only. The half that handles birthdays marks nothing.
-/

namespace ReminderDispatch

/-- A value is a success. -/
@[simp] theorem isOk_ok {ε α : Type} (value : α) : (Except.ok value : Except ε α).isOk = true := rfl

/-- An error is no success. -/
@[simp] theorem isOk_error {ε α : Type} (failure : ε) :
    (Except.error failure : Except ε α).isOk = false := rfl

/-- The call that publishes a payload. -/
def TaskPayload.publication (payload : TaskPayload) : Call :=
  .publish payload.type (Wire.encode payload)

/-- The call is one of those that a scan makes. -/
def Call.IsOfScan : Call → Prop
  | .dueReminders _ | .dueBirthdays _ | .mark _ | .publish _ _ => True
  | .createNotification _ | .send _ | .handOver _ => False

/-- What the producer makes of the answer to a publication. -/
def heard (limit : Duration) {type : TaskType} {body : List UInt8} :
    Option (Call.publish type body).Reply → Except EnqueueError TaskId
  | none => .error (.timeout limit)
  | some (.error failure) => .error (.brokerUnavailable failure)
  | some (.ok id) => .ok id

/-- Where payloads are published, every call publishes one of them. -/
theorem exists_publication {said : List Answered} {payloads : List TaskPayload}
    {answered : Answered} (calls : said.map (·.call) = payloads.map (·.publication))
    (member : answered ∈ said) :
    ∃ payload ∈ payloads, answered.call = payload.publication := by
  have among : answered.call ∈ payloads.map (·.publication) := calls ▸ List.mem_map_of_mem member
  obtain ⟨payload, isPayload, same⟩ := List.mem_map.1 among
  exact ⟨payload, isPayload, same.symm⟩

/-- Where payloads are published, every call is a publication. -/
theorem isPublication_of_calls {said : List Answered} {payloads : List TaskPayload}
    (calls : said.map (·.call) = payloads.map (·.publication)) :
    ∀ answered ∈ said, answered.call.isPublication = true := by
  intro answered member
  obtain ⟨payload, -, isCall⟩ := exists_publication calls member
  rw [isCall]
  rfl

/-- The producer makes one call. -/
theorem enqueue_eq (limit : Duration) (payload : TaskPayload) :
    enqueue limit payload =
      .ask payload.publication (some limit) fun reply => .done (heard limit reply) := by
  change Program.ask payload.publication (some limit) _ = _
  congr 1
  funext reply
  rcases reply with _ | reply
  · rfl
  · cases reply <;> rfl

namespace Scanner

variable {σ : Type} {responds : (call : Call) → Option call.Reply → σ → σ → Prop} {state after : σ}
  {trace : List Answered} {scanner : Scanner} {now : Instant} {limit : Duration}

/-- One publication more comes first in the report. -/
theorem report_publication (limit : Duration) (payload : TaskPayload)
    (reply : Option payload.publication.Reply) (rest : Publication) :
    (match heard limit reply with
      | .ok _ => { rest with accepted := rest.accepted + 1 }
      | .error failure =>
        ⟨rest.accepted, rest.refused + 1, failure.kind.allowsRetry || rest.retry⟩ :
          Publication).report = .counting 0 0 [⟨payload.publication, reply⟩] + rest.report := by
  have notAccepted : ScanReport.mk 0 0 rest.accepted (rest.refused + 1) 0 0 =
      ScanReport.mk 0 0 (0 + rest.accepted) (1 + rest.refused) 0 0 := by
    rw [Nat.zero_add, Nat.add_comm]
  have accepted : ScanReport.mk 0 0 (rest.accepted + 1) rest.refused 0 0 =
      ScanReport.mk 0 0 (1 + rest.accepted) (0 + rest.refused) 0 0 := by
    rw [Nat.zero_add, Nat.add_comm]
  rcases reply with _ | reply
  · exact notAccepted
  · cases reply with
    | error failure => exact notAccepted
    | ok id => exact accepted

/-- Payloads are published in order, a task should be published again exactly when one was not
accepted, and the report counts what was said. -/
theorem publishAll_runs {payloads : List TaskPayload} {publication : Publication}
    (runs : (publishAll limit payloads).Runs responds state trace after (some publication)) :
    trace.map (·.call) = payloads.map (·.publication) ∧
      publication.retry = !trace.all (·.isOk) ∧ publication.report = .counting 0 0 trace := by
  induction payloads generalizing state after trace publication with
  | nil =>
    obtain ⟨rfl, -, rfl⟩ := runs.pure_cases
    exact ⟨rfl, rfl, rfl⟩
  | cons payload more ih =>
    obtain ⟨outcome, first, middle, second, rfl, begins, goesOn⟩ := runs.bind_cases
    rw [enqueue_eq] at begins
    obtain ⟨reply, last, later, rfl, -, ends⟩ := begins.ask_cases
    obtain ⟨rfl, -, rfl⟩ := ends.pure_cases
    obtain ⟨rest, third, final, fourth, rfl, others, result⟩ := goesOn.bind_cases
    obtain ⟨calls, retry, report⟩ := ih others
    have counted := report_publication limit payload reply rest
    have told : fourth = [] ∧ publication.retry = !(Answered.isOk ⟨payload.publication, reply⟩ &&
        third.all (·.isOk)) ∧
          publication.report = .counting 0 0 [⟨payload.publication, reply⟩] + rest.report := by
      rcases reply with _ | reply
      · obtain ⟨rfl, -, rfl⟩ := result.pure_cases
        exact ⟨rfl, rfl, counted⟩
      · cases reply with
        | error failure =>
          obtain ⟨rfl, -, rfl⟩ := result.pure_cases
          exact ⟨rfl, rfl, counted⟩
        | ok id =>
          obtain ⟨rfl, -, rfl⟩ := result.pure_cases
          exact ⟨rfl, retry, counted⟩
    obtain ⟨rfl, again, counted⟩ := told
    refine ⟨?_, ?_, ?_⟩
    · simp [calls]
    · rw [again]
      simp
    · rw [counted, report, ScanReport.counting_add]
      simp

/-- What is heard of a store: its answer, or a timeout if there was none within the limit. -/
def heardOf (limit : Duration) {call : Call} (isStore : call.Failure = StoreError) :
    Option call.Reply → Except StoreError call.Result
  | none => .error (.timeout limit)
  | some (.error failure) => .error (isStore ▸ failure)
  | some (.ok result) => .ok result

/-- A store is asked by one call. -/
theorem ask_eq (scanner : Scanner) (call : Call) (isStore : call.Failure = StoreError) :
    scanner.ask call isStore = .ask call (some scanner.settings.ioTimeout) fun reply =>
      .done (heardOf scanner.settings.ioTimeout isStore reply) := by
  change Program.ask call (some scanner.settings.ioTimeout) _ = _
  congr 1
  funext reply
  rcases reply with _ | reply
  · rfl
  · cases reply <;> rfl

/-- The dialogue with a store that is asked is this call with its answer. -/
theorem ask_heard {call : Call} {isStore : call.Failure = StoreError}
    {outcome : Except StoreError call.Result}
    (runs : (scanner.ask call isStore).Runs responds state trace after (some outcome)) :
    ∃ reply, trace = [⟨call, reply⟩] ∧ responds call reply state after ∧
      outcome = heardOf scanner.settings.ioTimeout isStore reply := by
  rw [ask_eq] at runs
  obtain ⟨reply, middle, more, rfl, answered, goesOn⟩ := runs.ask_cases
  obtain ⟨rfl, rfl, rfl⟩ := goesOn.pure_cases
  exact ⟨reply, rfl, answered, rfl⟩

/-- The result of a call to a store is that of the call if this succeeds. -/
theorem ask_runs {call : Call} {isStore : call.Failure = StoreError}
    {outcome : Except StoreError call.Result}
    (runs : (scanner.ask call isStore).Runs responds state trace after (some outcome)) :
    ∃ answered : Answered, trace = [answered] ∧ answered.call = call ∧
      ((answered.isOk = false ∧ ∃ failure, outcome = .error failure) ∨
        ∃ result, answered = ⟨call, some (.ok result)⟩ ∧ outcome = .ok result) := by
  obtain ⟨reply, rfl, -, rfl⟩ := ask_heard runs
  refine ⟨⟨call, reply⟩, rfl, rfl, ?_⟩
  rcases reply with _ | reply
  · exact .inl ⟨rfl, _, rfl⟩
  · cases reply with
    | error failure => exact .inl ⟨rfl, _, rfl⟩
    | ok result => exact .inr ⟨result, rfl, rfl⟩

/-- A reminder is marked by one call, and the report counts it. -/
theorem mark_runs {reminder : Reminder} {report : ScanReport}
    (runs : (scanner.mark reminder).Runs responds state trace after (some report)) :
    ∃ answered, trace = [answered] ∧ answered.call = .mark reminder.id ∧
      report = .counting 0 0 trace := by
  obtain ⟨outcome, first, middle, second, rfl, begins, goesOn⟩ := runs.bind_cases
  obtain ⟨⟨call, reply⟩, rfl, isMark, ⟨failed, failure, rfl⟩ | ⟨result, same, rfl⟩⟩ :=
    ask_runs begins
  · obtain rfl : call = .mark reminder.id := isMark
    obtain ⟨rfl, -, rfl⟩ := goesOn.pure_cases
    refine ⟨_, rfl, rfl, ?_⟩
    rcases reply with _ | _ | result
    · rfl
    · rfl
    · contradiction
  · cases same
    obtain ⟨rfl, -, rfl⟩ := goesOn.pure_cases
    exact ⟨_, rfl, rfl, rfl⟩

/-- What a scan says about a reminder. -/
inductive Handled (reminder : Reminder) : List Answered → Prop where
  /-- No tasks can be made from the reminder: it is marked. -/
  | dropped {failure : ValidationError} {answered : Answered}
      (invalid : reminder.fanOut = .error failure) (isMark : answered.call = .mark reminder.id) :
      Handled reminder [answered]
  /-- A task was not accepted: the reminder is kept. -/
  | kept {tasks : FanOut} {published : List Answered} (valid : reminder.fanOut = .ok tasks)
      (calls : published.map (·.call) = tasks.payloads.map (·.publication))
      (refused : published.all (·.isOk) = false) : Handled reminder published
  /-- Both tasks were accepted: the reminder is marked. -/
  | passedOn {tasks : FanOut} {published : List Answered} {answered : Answered}
      (valid : reminder.fanOut = .ok tasks)
      (calls : published.map (·.call) = tasks.payloads.map (·.publication))
      (accepted : published.all (·.isOk) = true) (isMark : answered.call = .mark reminder.id) :
      Handled reminder (published ++ [answered])

/-- A reminder is kept, or its tasks are passed on, or it is dropped, and the report counts what was
said and whether it was dropped. -/
theorem handleReminder_runs {reminder : Reminder} {report : ScanReport}
    (runs : (scanner.handleReminder reminder).Runs responds state trace after (some report)) :
    Handled reminder trace ∧
      report = .counting 0 ([reminder].countP (!·.fanOut.isOk)) trace := by
  unfold handleReminder at runs
  cases fanOut : reminder.fanOut with
  | error failure =>
    rw [fanOut] at runs
    obtain ⟨marked, first, middle, second, rfl, begins, ends⟩ := runs.bind_cases
    obtain ⟨answered, rfl, isMark, rfl⟩ := mark_runs begins
    obtain ⟨rfl, -, rfl⟩ := ends.pure_cases
    refine ⟨.dropped fanOut isMark, ?_⟩
    rw [ScanReport.oneFailed_eq_counting, ScanReport.counting_add]
    simp [fanOut]
  | ok tasks =>
    have kept : [reminder].countP (!·.fanOut.isOk) = 0 := by
      simp [fanOut]
    rw [fanOut] at runs
    obtain ⟨publication, published, middle, second, rfl, begins, ends⟩ := runs.bind_cases
    obtain ⟨calls, retry, report⟩ := publishAll_runs begins
    cases again : publication.retry with
    | true =>
      simp only [again, if_true] at ends
      obtain ⟨rfl, -, rfl⟩ := ends.pure_cases
      rw [List.append_nil, kept]
      exact ⟨.kept fanOut calls (by simpa [retry] using again), report⟩
    | false =>
      simp only [again, Bool.false_eq_true, if_false] at ends
      obtain ⟨marked, first, last, third, rfl, marks, ended⟩ := Program.Runs.bind_cases ends
      obtain ⟨answered, rfl, isMark, rfl⟩ := mark_runs marks
      obtain ⟨rfl, -, rfl⟩ := ended.pure_cases
      refine ⟨.passedOn fanOut calls (by simpa [retry] using again) isMark, ?_⟩
      rw [report, ScanReport.counting_add, kept]
      rfl

/-- The turn of a reminder in a scan. -/
structure Turn where
  /-- The reminder. -/
  reminder : Reminder
  /-- What was said about it. -/
  said : List Answered

/-- Reminders are handled in order, each in a turn of its own. -/
theorem handleReminders_runs {reminders : List Reminder} {report : ScanReport}
    (runs : (scanner.handleReminders reminders).Runs responds state trace after (some report)) :
    ∃ turns : List Turn, reminders = turns.map (·.reminder) ∧ trace = turns.flatMap (·.said) ∧
      (∀ turn ∈ turns, Handled turn.reminder turn.said) ∧
      report = .counting 0 (reminders.countP (!·.fanOut.isOk)) trace := by
  induction reminders generalizing state after trace report with
  | nil =>
    obtain ⟨rfl, -, rfl⟩ := runs.pure_cases
    exact ⟨[], rfl, rfl, by simp, rfl⟩
  | cons reminder more ih =>
    obtain ⟨first, begin, middle, second, rfl, handles, goesOn⟩ := runs.bind_cases
    obtain ⟨rest, third, final, fourth, rfl, others, ends⟩ := goesOn.bind_cases
    obtain ⟨handled, rfl⟩ := handleReminder_runs handles
    obtain ⟨turns, rfl, rfl, allHandled, rfl⟩ := ih others
    obtain ⟨rfl, -, rfl⟩ := ends.pure_cases
    refine ⟨⟨reminder, begin⟩ :: turns, rfl, by simp, ?_, ?_⟩
    · exact List.forall_mem_cons.2 ⟨handled, allHandled⟩
    · rw [ScanReport.counting_add, ← List.countP_append, List.append_nil]
      rfl

/-- What was said in the half of a scan that handles reminders, and its failure. -/
inductive ReminderHalf (limit : Duration) (now : Instant) :
    List Turn → List Answered → Option FailedQuery → Prop where
  /-- The query succeeds: every reminder of which it tells has a turn. -/
  | told {turns : List Turn} (handled : ∀ turn ∈ turns, Handled turn.reminder turn.said) :
      ReminderHalf limit now turns
        (⟨.dueReminders now, some (.ok (turns.map (·.reminder)))⟩ :: turns.flatMap (·.said)) none
  /-- The query fails. -/
  | failed (failure : StoreError) :
      ReminderHalf limit now [] [⟨.dueReminders now, some (.error failure)⟩]
        (some (.reminders failure))
  /-- The query stays without an answer. -/
  | silent :
      ReminderHalf limit now [] [⟨.dueReminders now, none⟩] (some (.reminders (.timeout limit)))

/-- If the query tells of some reminders, each of these has its turn. -/
theorem ReminderHalf.of_told {due : List Reminder} {turns : List Turn} {said : List Answered}
    {failure : Option FailedQuery} (half : ReminderHalf limit now turns said failure)
    (told : ∀ reply rest, said = ⟨.dueReminders now, reply⟩ :: rest → reply = some (.ok due)) :
    failure = none ∧ turns.map (·.reminder) = due ∧
      (∀ turn ∈ turns, Handled turn.reminder turn.said) ∧
      said = ⟨.dueReminders now, some (.ok due)⟩ :: turns.flatMap (·.said) := by
  cases half with
  | told handled =>
    have same := told _ _ rfl
    obtain rfl : turns.map (·.reminder) = due := Except.ok.inj (Option.some.inj same)
    exact ⟨rfl, rfl, handled, rfl⟩
  | failed failure => cases told _ _ rfl
  | silent => cases told _ _ rfl

/-- The report on the half of a scan in which reminders had their turns. -/
def turnsReport (turns : List Turn) (said : List Answered) : ScanReport :=
  { ScanReport.counting 0 (turns.countP (!·.reminder.fanOut.isOk)) said with
    dueReminders := turns.length }

/-- The half of a scan that handles reminders asks once, and its report counts what was said. -/
theorem scanReminders_runs {report : ScanReport} {failure : Option FailedQuery}
    (runs : (scanner.scanReminders now).Runs responds state trace after (some (report, failure))) :
    ∃ turns, ReminderHalf scanner.settings.ioTimeout now turns trace failure ∧
      report = turnsReport turns trace := by
  obtain ⟨found, asked, middle, said, rfl, query, handles⟩ := runs.bind_cases
  obtain ⟨reply, rfl, -, rfl⟩ := ask_heard query
  rcases reply with _ | reply
  · obtain ⟨rfl, -, same⟩ := handles.pure_cases
    obtain ⟨rfl, rfl⟩ := Prod.mk.inj same
    exact ⟨[], .silent, rfl⟩
  · cases reply with
    | error failure =>
      obtain ⟨rfl, -, same⟩ := handles.pure_cases
      obtain ⟨rfl, rfl⟩ := Prod.mk.inj same
      exact ⟨[], .failed failure, rfl⟩
    | ok reminders =>
      obtain ⟨handled, calls, stop, nothing, rfl, handling, done⟩ :=
        Program.Runs.bind_cases handles
      obtain ⟨turns, rfl, rfl, allHandled, rfl⟩ := handleReminders_runs handling
      obtain ⟨rfl, -, same⟩ := done.pure_cases
      obtain ⟨rfl, rfl⟩ := Prod.mk.inj same
      rw [List.append_nil]
      refine ⟨turns, .told allHandled, ?_⟩
      unfold turnsReport
      rw [ScanReport.dueReminders_add, List.countP_map, List.length_map, List.singleton_append,
        ScanReport.counting_query _ _ _ rfl rfl]
      rfl

/-! ## Allowed calls -/

section Asks

variable {allowed : Call → Option Duration → Prop} (scanner : Scanner)
  (publications : ∀ payload : TaskPayload,
    allowed payload.publication (some scanner.publishTimeout))
  (marks : ∀ id, allowed (.mark id) (some scanner.settings.ioTimeout))

/-- A call to a store is the only one that is made for it. -/
theorem ask_asks {call : Call} (isAllowed : allowed call (some scanner.settings.ioTimeout))
    (isStore : call.Failure = StoreError) : (scanner.ask call isStore).Asks allowed := by
  refine .bind ⟨isAllowed, fun reply => trivial⟩ fun answer => ?_
  rcases answer with _ | reply
  · trivial
  · cases reply <;> trivial

include publications in
/-- Publishing makes no other calls than publications. -/
theorem publishAll_asks (payloads : List TaskPayload) :
    (publishAll scanner.publishTimeout payloads).Asks allowed := by
  induction payloads with
  | nil => trivial
  | cons payload more ih =>
    refine .bind ?_ fun outcome => .bind ih fun rest => ?_
    · rw [enqueue_eq]
      exact ⟨publications payload, fun reply => trivial⟩
    · cases outcome <;> trivial

include publications marks in
/-- A reminder is handled by publications and a mark. -/
theorem handleReminder_asks (reminder : Reminder) :
    (scanner.handleReminder reminder).Asks allowed := by
  have isMarked : (scanner.mark reminder).Asks allowed := by
    refine .bind (scanner.ask_asks (marks reminder.id) rfl) fun outcome => ?_
    cases outcome <;> trivial
  unfold handleReminder
  cases reminder.fanOut with
  | error failure => exact .bind isMarked fun marked => trivial
  | ok tasks =>
    refine .bind (scanner.publishAll_asks publications _) fun publication => ?_
    split
    · trivial
    · exact .bind isMarked fun marked => trivial

include publications marks in
/-- Reminders are handled by publications and marks. -/
theorem handleReminders_asks (reminders : List Reminder) :
    (scanner.handleReminders reminders).Asks allowed := by
  induction reminders with
  | nil => trivial
  | cons reminder more ih =>
    exact .bind (scanner.handleReminder_asks publications marks reminder) fun first =>
      .bind ih fun rest => trivial

include publications marks in
/-- The half of a scan that handles reminders makes one query, and publishes and marks. -/
theorem scanReminders_asks {now : Instant}
    (query : allowed (.dueReminders now) (some scanner.settings.ioTimeout)) :
    (scanner.scanReminders now).Asks allowed := by
  refine .bind (scanner.ask_asks query rfl) fun outcome => ?_
  cases outcome with
  | error failure => trivial
  | ok reminders =>
    exact .bind (scanner.handleReminders_asks publications marks reminders) fun report => trivial

include publications in
/-- A birthday is handled by publications. -/
theorem handleBirthday_asks (birthday : Birthday) :
    (scanner.handleBirthday birthday).Asks allowed := by
  unfold handleBirthday
  cases birthday.fanOut with
  | error failure => trivial
  | ok tasks => exact .bind (scanner.publishAll_asks publications _) fun publication => trivial

include publications in
/-- Birthdays are handled by publications. -/
theorem handleBirthdays_asks (handled : HandledBirthdays) (birthdays : List Birthday) :
    (scanner.handleBirthdays handled birthdays).Asks allowed := by
  induction birthdays generalizing handled with
  | nil => trivial
  | cons birthday more ih =>
    unfold handleBirthdays
    split
    · exact .bind (ih handled) fun rest => trivial
    · exact .bind (scanner.handleBirthday_asks publications birthday) fun first =>
        .bind (ih _) fun rest => trivial

include publications in
/-- The half of a scan that handles birthdays makes one query, and publishes. -/
theorem scanBirthdays_asks {now : Instant}
    (query : allowed (.dueBirthdays now) (some scanner.settings.ioTimeout)) :
    (scanner.scanBirthdays now).Asks allowed := by
  refine .bind (scanner.ask_asks query rfl) fun outcome => ?_
  cases outcome with
  | error failure => trivial
  | ok birthdays =>
    exact .bind (scanner.handleBirthdays_asks publications _ _) fun rest => trivial

include publications marks in
/-- A scan makes two queries, and publishes and marks. -/
theorem scan_asks {now : Instant}
    (reminders : allowed (.dueReminders now) (some scanner.settings.ioTimeout))
    (birthdays : allowed (.dueBirthdays now) (some scanner.settings.ioTimeout)) :
    (scanner.scan now).Asks allowed :=
  .bind (scanner.scanReminders_asks publications marks reminders) fun _ =>
    .bind (scanner.scanBirthdays_asks publications birthdays) fun _ => trivial

end Asks

/-- A scan makes the calls of scans. -/
theorem scan_uses (scanner : Scanner) (now : Instant) :
    (scanner.scan now).Uses Call.IsOfScan :=
  (scanner.scan_asks (fun _ => trivial) (fun _ => trivial) trivial trivial).uses

/-- The half of a scan that handles birthdays marks nothing. -/
theorem scanBirthdays_quiet (scanner : Scanner) (now : Instant) :
    (scanner.scanBirthdays now).Uses (·.isMark = false) :=
  (scanner.scanBirthdays_asks (fun _ => rfl) rfl).uses

/-! ## Scans -/

/-- What a scan says: the query for reminders, a section for each one that is due if the query
succeeds, and the calls for birthdays. -/
inductive Outline (now : Instant) (due : List Reminder) : List Answered → Prop where
  /-- The query for reminders succeeds. -/
  | told {sections : List (List Answered)} {birthdays : List Answered}
      (handled : List.Forall₂ Handled due sections)
      (quiet : ∀ answered ∈ birthdays, answered.call.isMark = false) :
      Outline now due (⟨.dueReminders now, some (.ok due)⟩ :: (sections.flatten ++ birthdays))
  /-- The query for reminders fails. -/
  | untold {query : Answered} {birthdays : List Answered} (isQuery : query.call = .dueReminders now)
      (failed : query.isOk = false) (quiet : ∀ answered ∈ birthdays, answered.call.isMark = false) :
      Outline now due (query :: birthdays)

/-- Every scan that comes to its end follows the outline. -/
theorem scan_runs {outcome : Scanner × Except IncompleteScan ScanReport}
    (runs : (scanner.scan now).Runs responds state trace after (some outcome)) :
    ∃ due, Outline now due trace := by
  obtain ⟨⟨report, failure⟩, said, middle, rest, rfl, first, goesOn⟩ := runs.bind_cases
  obtain ⟨birthdays, other, final, nothing, rfl, second, ends⟩ := goesOn.bind_cases
  have quiet := second.uses (scanBirthdays_quiet scanner now)
  obtain ⟨rfl, -, -⟩ := ends.pure_cases
  rw [List.append_nil]
  obtain ⟨turns, half, -⟩ := scanReminders_runs first
  cases half with
  | told handled =>
    have sections : List.Forall₂ Handled (turns.map (·.reminder)) (turns.map (·.said)) := by
      rw [List.forall₂_map_left_iff, List.forall₂_map_right_iff, List.forall₂_same]
      exact handled
    rw [List.flatMap_def]
    exact ⟨_, .told sections quiet⟩
  | failed failure => exact ⟨[], .untold rfl rfl quiet⟩
  | silent => exact ⟨[], .untold rfl rfl quiet⟩

end Scanner

end ReminderDispatch
