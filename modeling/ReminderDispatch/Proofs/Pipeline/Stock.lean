import ReminderDispatch.Proofs.Broker.Operations
import ReminderDispatch.Proofs.Pipeline.Dispatch
import ReminderDispatch.Proofs.Scan.Calls
import ReminderDispatch.Proofs.Store.Reminders

/-!
# Scans without faults

How the collaborators answer the calls of a program when nothing goes wrong: every call is answered
in time, from what the collaborators hold. The clocks may show anything, and a new task gets any
identifier that is not in use. A scan then leaves in the broker the tasks of all due items that can
be delivered, in order and all of them in line.
-/

namespace ReminderDispatch

/-- What the clocks show at the time of a call, and the identifier that a new task would get. -/
structure Reading where
  /-- The monotonic clock. -/
  now : Moment
  /-- The wall clock of the store of notifications. -/
  wall : Instant
  /-- The wall clock of the broker. -/
  brokerWall : Instant
  /-- The identifier. -/
  id : TaskId
  deriving DecidableEq, Repr

namespace Collaborators

/-- What the collaborators answer to a call, and what has become of them. There is no answer to a
call that breaks off. -/
def answer (collaborators : Collaborators) (reading : Reading) :
    (call : Call) → Option call.Reply × Collaborators
  | .dueReminders now => (some (.ok (collaborators.reminders.dueReminders now)), collaborators)
  | .dueBirthdays now => (some (.ok (collaborators.reminders.dueBirthdays now)), collaborators)
  | .mark id =>
    let (outcome, reminders) := collaborators.reminders.mark id
    (some outcome, { collaborators with reminders := reminders })
  | .publish type body =>
    let (outcome, exchange) := collaborators.exchange.publish reading.now
      ⟨reading.id, type, body, reading.brokerWall⟩
    (some (outcome.map fun _ => reading.id), { collaborators with exchange := exchange })
  | .createNotification request =>
    let (record, notifications) := collaborators.notifications.create reading.wall request
    (record.map .ok, { collaborators with notifications := notifications })
  | .send mail =>
    let (outcome, outbox) := collaborators.outbox.send mail
    (some outcome, { collaborators with outbox := outbox })
  | .handOver _ => (some (.ok ()), collaborators)

/-- A call is answered in time under the reading. -/
def AnswersAt (reading : Reading) (call : Call) (reply : Option call.Reply)
    (before after : Collaborators) : Prop :=
  reply.isSome ∧ before.answer reading call = (reply, after)

/-- A call is answered in time, under some reading with an identifier that is not in use. -/
def Answers (call : Call) (reply : Option call.Reply) (before after : Collaborators) : Prop :=
  ∃ reading : Reading, reading.id ∉ before.exchange.broker.taskIds ∧
    AnswersAt reading call reply before after

/-- Every call is answered in time, under one and the same reading. -/
def atOnce (reading : Reading) (call : Call) (collaborators : Collaborators) :
    Option call.Reply × Collaborators := collaborators.answer reading call

/-- No call of a scan breaks off. -/
theorem exists_answer (collaborators : Collaborators) (reading : Reading) {call : Call}
    (isOfScan : call.IsOfScan) :
    ∃ told after, collaborators.answer reading call = (some told, after) := by
  cases call with
  | dueReminders | dueBirthdays | mark | publish => exact ⟨_, _, rfl⟩
  | createNotification | send | handOver => exact isOfScan.elim

/-- A call that breaks off has changed nothing. -/
theorem answer_none {call : Call} {reading : Reading} {before after : Collaborators}
    (brokeOff : before.answer reading call = (none, after)) : after = before := by
  cases call with
  | dueReminders | dueBirthdays | mark | publish | send | handOver =>
    cases (Prod.mk.inj brokeOff).1
  | createNotification request =>
    cases counts : nextNumber? before.notifications.lastId with
    | none =>
      simp only [answer, NotificationStore.create, counts] at brokeOff
      exact (Prod.mk.inj brokeOff).2.symm
    | some number =>
      simp only [answer, NotificationStore.create, counts] at brokeOff
      cases (Prod.mk.inj brokeOff).1

/-- There is an answer in time. -/
theorem AnswersAt.exists_reply {reading : Reading} {call : Call} {reply : Option call.Reply}
    {before after : Collaborators} (answers : AnswersAt reading call reply before after) :
    ∃ told, reply = some told ∧ before.answer reading call = (some told, after) := by
  obtain ⟨isAnswer, answered⟩ := answers
  obtain ⟨told, rfl⟩ := Option.isSome_iff_exists.1 isAnswer
  exact ⟨told, rfl, answered⟩

/-- The value of a program and the collaborators after it, when each call is answered in time under
the next of some readings. There is no value when the readings do not suffice or when an identifier
is in use. -/
def promptly {α : Type} : Program α → List Reading → Collaborators → Option (α × Collaborators)
  | .done value, _, collaborators => some (value, collaborators)
  | .ask _ _ _, [], _ => none
  | .ask call _ next, reading :: more, collaborators =>
    if reading.id ∈ collaborators.exchange.broker.taskIds then none
    else
      match collaborators.answer reading call with
      | (some reply, after) => promptly (next (some reply)) more after
      | (none, _) => none

/-- A program that is answered promptly comes to its end in a dialogue. -/
theorem runs_promptly {α : Type} {program : Program α} {readings : List Reading} {value : α}
    {before after : Collaborators}
    (prompt : promptly program readings before = some (value, after)) :
    ∃ trace, program.Runs Answers before trace after (some value) := by
  induction program generalizing readings before with
  | done result =>
    obtain ⟨rfl, rfl⟩ := Prod.mk.inj (Option.some.inj prompt)
    exact ⟨[], .done result before⟩
  | ask call limit next ih =>
    cases readings with
    | nil => contradiction
    | cons reading more =>
      unfold promptly at prompt
      obtain ⟨isNew, goesOn⟩ := Option.ite_none_left_eq_some.1 prompt
      rcases answered : before.answer reading call with ⟨_ | reply, middle⟩
      · rw [answered] at goesOn
        contradiction
      · rw [answered] at goesOn
        obtain ⟨trace, rest⟩ := ih _ goesOn
        exact ⟨_, .ask ⟨reading, isNew, rfl, answered⟩ rest⟩

/-- Some work was published since the start, in order, and nothing else was done with the broker,
the notifications and the mails. -/
structure Stocked (start : Collaborators) (works : List TaskPayload) (now : Collaborators) :
    Prop where
  /-- The broker is consistent. -/
  consistent : now.exchange.broker.Consistent
  /-- The broker is open. -/
  isOpen : now.exchange.broker.closed = false
  /-- No task failed. -/
  unscheduled : now.exchange.broker.scheduled = []
  /-- No task was given up. -/
  undead : now.exchange.broker.deadLetters = []
  /-- No task was acknowledged. -/
  unacked : now.exchange.broker.succeeded = 0
  /-- All tasks are in line. -/
  queued : ∀ id record, now.exchange.broker.find? id = some record → record.state = .queued
  /-- The tasks carry the work. -/
  carries : now.exchange.broker.envelopes.map (·.work?) = works.map some
  /-- The users are those from the start. -/
  users_eq : now.reminders.users = start.reminders.users
  /-- The notifications are those from the start. -/
  notifications_eq : now.notifications = start.notifications
  /-- The mails are those from the start. -/
  outbox_eq : now.outbox = start.outbox
  /-- The dispatcher is that from the start. -/
  dispatcher_eq : now.dispatcher = start.dispatcher

variable {start before after : Collaborators} {works : List TaskPayload} {work : TaskPayload}
  {trace : List Answered} {now : Instant} {limit : Duration} {scanner : Scanner}

/-- Nothing is in stock at first. -/
theorem fresh_stocked (policy : RetryPolicy) (limit : Duration) (store : ReminderStore) :
    Stocked { fresh policy limit with reminders := store } []
      { fresh policy limit with reminders := store } where
  consistent := Broker.new_consistent policy
  isOpen := rfl
  unscheduled := rfl
  undead := rfl
  unacked := rfl
  queued := by simp [fresh, Exchange.new, Broker.new, Broker.find?]
  carries := rfl
  users_eq := rfl
  notifications_eq := rfl
  outbox_eq := rfl
  dispatcher_eq := rfl

/-- An open broker accepts a task, whoever wakes. -/
theorem publish_open {exchange : Exchange} (isOpen : exchange.broker.closed = false)
    (now : Moment) (envelope : Envelope) :
    ∃ woken after, exchange.publish now envelope = (.ok woken, after) ∧
      exchange.broker.publish now envelope = (.ok (), after.broker) := by
  have accepted := Broker.publish_of_open isOpen now envelope
  unfold Exchange.publish
  rw [accepted]
  exact ⟨_, _, rfl, rfl⟩

/-- Published work is accepted and in stock. -/
theorem Stocked.publish (stocked : Stocked start works before)
    {reply : Option work.publication.Reply}
    (answers : Answers work.publication reply before after) :
    (∃ id, reply = some (.ok id)) ∧ Stocked start (works ++ [work]) after := by
  obtain ⟨reading, fresh, -, answered⟩ := answers
  obtain ⟨woken, exchange, published, accepted⟩ := publish_open stocked.isOpen reading.now
    ⟨reading.id, work.type, Wire.encode work, reading.brokerWall⟩
  have told : before.answer reading work.publication =
      (some (.ok reading.id), { before with exchange := exchange }) := by
    simp only [TaskPayload.publication, answer, published]
    rfl
  obtain ⟨rfl, rfl⟩ := Prod.mk.inj (told.symm.trans answered)
  obtain ⟨-, stored⟩ := Broker.publish_eq_ok accepted
  refine ⟨⟨reading.id, rfl⟩, {
    consistent := stocked.consistent.publish fresh accepted
    isOpen := (congrArg (·.closed) stored).trans stocked.isOpen
    unscheduled := (congrArg (·.scheduled) stored).trans stocked.unscheduled
    undead := (congrArg (·.deadLetters) stored).trans stocked.undead
    unacked := (congrArg (·.succeeded) stored).trans stocked.unacked
    queued := fun id record found => ?_
    carries := ?_
    users_eq := stocked.users_eq
    notifications_eq := stocked.notifications_eq
    outbox_eq := stocked.outbox_eq
    dispatcher_eq := stocked.dispatcher_eq }⟩
  · rw [Broker.find?_publish accepted] at found
    by_cases isNew : id = reading.id
    · rw [isNew, Function.update_self] at found
      rw [← Option.some.inj found]
      rfl
    · rw [Function.update_of_ne isNew] at found
      exact stocked.queued id record found
  · have carried : (Envelope.mk reading.id work.type (Wire.encode work) reading.brokerWall).work? =
        some work := Envelope.work?_published rfl rfl
    rw [Broker.envelopes_publish fresh accepted, List.map_append, List.map_append, stocked.carries,
      List.map_singleton, List.map_singleton, carried]

/-- A mark concerns the reminders only. -/
theorem Stocked.mark (stocked : Stocked start works before) {id : ReminderId}
    {reply : Option (Call.mark id).Reply} (answers : Answers (.mark id) reply before after) :
    Stocked start works after := by
  obtain ⟨reading, -, -, answered⟩ := answers
  obtain ⟨-, rfl⟩ := Prod.mk.inj answered
  have users := ReminderStore.users_mark before.reminders id
  exact { stocked with users_eq := users.trans stocked.users_eq }

/-! ## Programs -/

/-- Published work is in stock in its order, and nothing was refused. -/
theorem Stocked.publishAll {more : List TaskPayload} {publication : Scanner.Publication}
    (stocked : Stocked start works before)
    (runs : (Scanner.publishAll limit more).Runs Answers before trace after (some publication)) :
    Stocked start (works ++ more) after ∧ publication.retry = false := by
  induction more generalizing works before after trace publication with
  | nil =>
    obtain ⟨-, rfl, rfl⟩ := runs.pure_cases
    exact ⟨(List.append_nil works).symm ▸ stocked, rfl⟩
  | cons work more ih =>
    obtain ⟨outcome, first, middle, second, rfl, begins, goesOn⟩ := runs.bind_cases
    rw [enqueue_eq] at begins
    obtain ⟨reply, last, later, rfl, answered, ends⟩ := begins.ask_cases
    obtain ⟨-, rfl, rfl⟩ := ends.pure_cases
    obtain ⟨⟨id, rfl⟩, stockedNext⟩ := stocked.publish answered
    obtain ⟨rest, third, final, fourth, rfl, others, result⟩ := goesOn.bind_cases
    obtain ⟨stockedLast, quiet⟩ := ih stockedNext others
    obtain ⟨-, rfl, rfl⟩ := result.pure_cases
    rw [List.append_assoc] at stockedLast
    exact ⟨stockedLast, quiet⟩

/-- A call to a store is answered, and its result is heard. -/
theorem ask_answered {call : Call} {isStore : call.Failure = StoreError}
    {outcome : Except StoreError call.Result}
    (runs : (scanner.ask call isStore).Runs Answers before trace after (some outcome)) :
    ∃ reply : call.Reply, Answers call (some reply) before after ∧
      ∀ result, reply = .ok result → outcome = .ok result := by
  obtain ⟨reply, middle, more, rfl, answered, ends⟩ := Program.Runs.ask_cases runs
  obtain ⟨reading, fresh, answersAt⟩ := answered
  obtain ⟨told, rfl, -⟩ := answersAt.exists_reply
  cases told with
  | error failure =>
    obtain ⟨-, rfl, -⟩ := Program.Runs.pure_cases ends
    exact ⟨.error failure, ⟨reading, fresh, answersAt⟩, by simp⟩
  | ok found =>
    obtain ⟨-, rfl, rfl⟩ := Program.Runs.pure_cases ends
    refine ⟨.ok found, ⟨reading, fresh, answersAt⟩, fun result same => ?_⟩
    rw [Except.ok.inj same]

/-- A reminder is marked without a task. -/
theorem Stocked.markReminder (stocked : Stocked start works before) {reminder : Reminder}
    {report : ScanReport}
    (runs : (scanner.mark reminder).Runs Answers before trace after (some report)) :
    Stocked start works after := by
  obtain ⟨outcome, first, middle, second, rfl, begins, goesOn⟩ := runs.bind_cases
  obtain ⟨reply, answered, -⟩ := ask_answered begins
  have stockedNext := stocked.mark answered
  cases outcome with
  | error failure =>
    obtain ⟨-, rfl, -⟩ := goesOn.pure_cases
    exact stockedNext
  | ok result =>
    obtain ⟨-, rfl, -⟩ := goesOn.pure_cases
    exact stockedNext

/-- The tasks of an item: none when one of them would not be valid. -/
def tasksOf (outcome : Except ValidationError FanOut) : List TaskPayload :=
  (outcome.toOption.map (·.payloads)).getD []

/-- The tasks of a reminder are in stock after it was handled. -/
theorem Stocked.handleReminder (stocked : Stocked start works before) {reminder : Reminder}
    {report : ScanReport}
    (runs : (scanner.handleReminder reminder).Runs Answers before trace after (some report)) :
    Stocked start (works ++ tasksOf reminder.fanOut) after := by
  unfold Scanner.handleReminder at runs
  cases fanOut : reminder.fanOut with
  | error failure =>
    rw [fanOut] at runs
    obtain ⟨marked, first, middle, second, rfl, begins, ends⟩ := runs.bind_cases
    obtain ⟨-, rfl, -⟩ := ends.pure_cases
    exact (List.append_nil works).symm ▸ stocked.markReminder begins
  | ok tasks =>
    rw [fanOut] at runs
    obtain ⟨publication, published, middle, second, rfl, begins, ends⟩ := runs.bind_cases
    obtain ⟨stockedNext, quiet⟩ := stocked.publishAll begins
    simp only [quiet, Bool.false_eq_true, if_false] at ends
    obtain ⟨marked, first, last, third, rfl, marks, ended⟩ := Program.Runs.bind_cases ends
    obtain ⟨-, rfl, -⟩ := ended.pure_cases
    exact stockedNext.markReminder marks

/-- The tasks of all reminders are in stock in order after they were handled. -/
theorem Stocked.handleReminders {reminders : List Reminder} {report : ScanReport}
    (stocked : Stocked start works before)
    (runs : (scanner.handleReminders reminders).Runs Answers before trace after (some report)) :
    Stocked start (works ++ reminders.flatMap fun reminder => tasksOf reminder.fanOut) after := by
  induction reminders generalizing works before after trace report with
  | nil =>
    obtain ⟨-, rfl, -⟩ := runs.pure_cases
    exact (List.append_nil works).symm ▸ stocked
  | cons reminder more ih =>
    obtain ⟨first, begin, middle, second, rfl, handles, goesOn⟩ := runs.bind_cases
    obtain ⟨rest, third, final, fourth, rfl, others, ends⟩ := goesOn.bind_cases
    have stockedLast := ih (stocked.handleReminder handles) others
    obtain ⟨-, rfl, -⟩ := ends.pure_cases
    rw [List.append_assoc] at stockedLast
    exact stockedLast

/-- The tasks of a birthday are in stock after it was handled. -/
theorem Stocked.handleBirthday (stocked : Stocked start works before) {birthday : Birthday}
    {outcome : Bool × ScanReport}
    (runs : (scanner.handleBirthday birthday).Runs Answers before trace after (some outcome)) :
    Stocked start (works ++ tasksOf birthday.fanOut) after := by
  unfold Scanner.handleBirthday at runs
  cases fanOut : birthday.fanOut with
  | error failure =>
    rw [fanOut] at runs
    obtain ⟨-, rfl, -⟩ := runs.pure_cases
    exact (List.append_nil works).symm ▸ stocked
  | ok tasks =>
    rw [fanOut] at runs
    obtain ⟨publication, published, middle, second, rfl, begins, ends⟩ := runs.bind_cases
    obtain ⟨-, rfl, -⟩ := ends.pure_cases
    exact (stocked.publishAll begins).1

/-- The tasks of the birthdays of different users are in stock in order after they were handled. -/
theorem Stocked.handleBirthdays {birthdays : List Birthday} {handled : HandledBirthdays}
    {outcome : HandledBirthdays × ScanReport} (stocked : Stocked start works before)
    (distinct : (birthdays.map (·.userId)).Nodup)
    (isNew : ∀ birthday ∈ birthdays, handled.contains birthday.userId = false)
    (runs : (scanner.handleBirthdays handled birthdays).Runs Answers before trace after
      (some outcome)) :
    Stocked start (works ++ birthdays.flatMap fun birthday => tasksOf birthday.fanOut) after := by
  induction birthdays generalizing works handled before after trace outcome with
  | nil =>
    obtain ⟨-, rfl, -⟩ := runs.pure_cases
    exact (List.append_nil works).symm ▸ stocked
  | cons birthday more ih =>
    unfold Scanner.handleBirthdays at runs
    rw [isNew birthday List.mem_cons_self, if_neg Bool.false_ne_true] at runs
    obtain ⟨fresh, distinct⟩ := List.nodup_cons.1 distinct
    obtain ⟨⟨done, first⟩, begin, middle, second, rfl, handles, goesOn⟩ := runs.bind_cases
    obtain ⟨⟨last, rest⟩, third, final, fourth, rfl, others, ends⟩ := goesOn.bind_cases
    have stockedNext := stocked.handleBirthday handles
    have stillNew : ∀ other ∈ more, (if done then handled.insert birthday.userId
        else handled).contains other.userId = false := fun other isMore =>
      have different := ne_of_mem_of_not_mem (List.mem_map_of_mem isMore) fresh
      (handled.contains_insert_other different done).trans
        (isNew other (List.mem_cons_of_mem _ isMore))
    have stockedLast := ih stockedNext distinct stillNew others
    obtain ⟨-, rfl, -⟩ := ends.pure_cases
    rw [List.append_assoc] at stockedLast
    exact stockedLast

/-- The tasks of all due items of a store: those of its reminders, and those of its users who have
birthday. -/
def tasksDue (store : ReminderStore) (now : Instant) : List TaskPayload :=
  ((store.dueReminders now).flatMap fun reminder => tasksOf reminder.fanOut) ++
    (store.dueBirthdays now).flatMap fun birthday => tasksOf birthday.fanOut

/-- The tasks of the due reminders are in stock after the first half of a scan. -/
theorem Stocked.scanReminders (stocked : Stocked start works before)
    {outcome : ScanReport × Option FailedQuery}
    (runs : (scanner.scanReminders now).Runs Answers before trace after (some outcome)) :
    Stocked start (works ++ (before.reminders.dueReminders now).flatMap fun reminder =>
      tasksOf reminder.fanOut) after := by
  obtain ⟨found, first, middle, second, rfl, query, goesOn⟩ := runs.bind_cases
  obtain ⟨reply, ⟨reading, -, -, answered⟩, heard⟩ := ask_answered query
  obtain ⟨told, unchanged⟩ := Prod.mk.inj answered
  rw [heard _ (Option.some.inj told).symm, ← unchanged] at goesOn
  obtain ⟨report, third, last, fourth, rfl, handles, ends⟩ := Program.Runs.bind_cases goesOn
  obtain ⟨-, rfl, -⟩ := ends.pure_cases
  exact stocked.handleReminders handles

/-- The tasks of the birthdays are in stock after the second half of the first scan on a day. -/
theorem Stocked.scanBirthdays (stocked : Stocked start works before)
    (distinct : (before.reminders.users.map (·.userId)).Nodup)
    (isNew : (scanner.handled.onDay now.date).users = [])
    {outcome : HandledBirthdays × ScanReport × Option FailedQuery}
    (runs : (scanner.scanBirthdays now).Runs Answers before trace after (some outcome)) :
    Stocked start (works ++ (before.reminders.dueBirthdays now).flatMap fun birthday =>
      tasksOf birthday.fanOut) after := by
  obtain ⟨found, first, middle, second, rfl, query, goesOn⟩ := runs.bind_cases
  obtain ⟨reply, ⟨reading, -, -, answered⟩, heard⟩ := ask_answered query
  obtain ⟨told, unchanged⟩ := Prod.mk.inj answered
  rw [heard _ (Option.some.inj told).symm, ← unchanged] at goesOn
  obtain ⟨⟨last, report⟩, third, final, fourth, rfl, handles, ends⟩ :=
    Program.Runs.bind_cases goesOn
  obtain ⟨-, rfl, -⟩ := ends.pure_cases
  have celebrating : ((before.reminders.dueBirthdays now).map (·.userId)).Nodup := by
    unfold ReminderStore.dueBirthdays
    rw [List.map_map]
    exact distinct.sublist (List.filter_sublist.map _)
  refine stocked.handleBirthdays celebrating (fun birthday _ => ?_) handles
  unfold HandledBirthdays.contains
  rw [isNew]
  rfl

/-- After the first scan by a new scanner the tasks of all due items are in stock. -/
theorem Stocked.scan {settings : ScannerSettings} {timeout : Duration}
    {outcome : Scanner × Except IncompleteScan ScanReport} (stocked : Stocked start [] before)
    (distinct : (before.reminders.users.map (·.userId)).Nodup)
    (runs : ((Scanner.new settings timeout).scan now).Runs Answers before trace after
      (some outcome)) :
    Stocked start (tasksDue before.reminders now) after := by
  obtain ⟨⟨report, failure⟩, first, middle, second, rfl, reminders, goesOn⟩ := runs.bind_cases
  obtain ⟨⟨handled, more, other⟩, third, last, fourth, rfl, birthdays, ends⟩ :=
    Program.Runs.bind_cases goesOn
  obtain ⟨-, rfl, -⟩ := ends.pure_cases
  have half := stocked.scanReminders reminders
  have users : middle.reminders.users = before.reminders.users :=
    half.users_eq.trans stocked.users_eq.symm
  have whole := half.scanBirthdays (users ▸ distinct) rfl birthdays
  unfold ReminderStore.dueBirthdays at whole
  rw [users] at whole
  exact whole

end Collaborators

end ReminderDispatch
