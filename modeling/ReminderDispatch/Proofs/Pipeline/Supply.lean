import ReminderDispatch.Proofs.Pipeline.Stock
import ReminderDispatch.Proofs.Scan.Birthdays
import ReminderDispatch.Proofs.Scan.Reports

/-!
# What a scan supplies

A scan without faults, as a function of what it finds: the tasks of the due reminders and then those
of the birthdays that nobody has seen to, in order, behind all tasks that the broker has already;
and every due reminder is dispatched. This is all that has changed, whatever else the broker holds.
-/

namespace ReminderDispatch

/-- The key of the reminder that a call marks. -/
def Answered.marked? (answered : Answered) : Option ReminderId :=
  match answered.call with
  | .mark id => some id
  | _ => none

namespace Collaborators

open Scanner ReminderStore

variable {before middle after : Collaborators} {said front back : List Answered}
  {news others : List TaskRecord} {scanner next : Scanner} {now : Instant}

/-- A program with calls of scans that is answered in time goes on to its end, unless all
identifiers are in use. -/
theorem ends_or_exhausts {α : Type} {program : Program α} (uses : program.Uses Call.IsOfScan)
    (before : Collaborators) :
    (∃ said after value, program.Runs Answers before said after (some value)) ∨
      ∃ said after, program.Runs Answers before said after none ∧
        ∀ id, id ∈ after.exchange.broker.taskIds := by
  induction program generalizing before with
  | done value => exact .inl ⟨[], before, value, .done value before⟩
  | ask call limit rest ih =>
    by_cases isFree : ∃ id, id ∉ before.exchange.broker.taskIds
    · obtain ⟨id, fresh⟩ := isFree
      obtain ⟨told, middle, answer⟩ :=
        before.exists_answer ⟨0, default, default, id⟩ uses.1
      have answered : Answers call (some told) before middle := ⟨_, fresh, rfl, answer⟩
      rcases ih _ (uses.2 (some told)) middle with
        ⟨said, after, value, goesOn⟩ | ⟨said, after, goesOn, used⟩
      · exact .inl ⟨_, after, value, .ask answered goesOn⟩
      · exact .inr ⟨_, after, .ask answered goesOn, used⟩
    · simp only [not_exists, not_not] at isFree
      exact .inr ⟨[], before, .cut _ before, isFree⟩

/-! ## What a dialogue leaves -/

/-- What a dialogue has left: the published tasks, behind all others on record and in line, and the
marked reminders, which are dispatched. Nothing else has changed but the bell of the broker. -/
structure Supplied (before : Collaborators) (said : List Answered) (news : List TaskRecord)
    (after : Collaborators) : Prop where
  /-- The broker has the published tasks in addition. -/
  broker_eq : after.exchange.broker = { before.exchange.broker with
    records := before.exchange.broker.records ++ news
    ready := before.exchange.broker.ready ++ news.map (·.id) }
  /-- The marked reminders are dispatched. -/
  reminders_eq : after.reminders = { before.reminders with
    reminders := dispatching (said.filterMap (·.marked?)) before.reminders.reminders }
  /-- The notifications, the mails and the dispatcher are as before. -/
  others_eq : after.notifications = before.notifications ∧ after.outbox = before.outbox ∧
    after.dispatcher = before.dispatcher
  /-- The tasks are those that were published, in order. -/
  calls_eq : (said.map (·.call)).filter (·.isPublication) =
    news.map fun record => .publish record.envelope.type record.envelope.body
  /-- The records of the tasks are new. -/
  isNew : ∀ record ∈ news, ∃ moment,
    record = .new record.envelope before.exchange.broker.policy.maxAttempts moment
  /-- Every publication was accepted. -/
  accepted : ∀ answered ∈ said, answered.call.isPublication = true → answered.isOk = true
  /-- The query for birthdays told of those of the store. -/
  birthdays : ∀ now reply, ⟨.dueBirthdays now, reply⟩ ∈ said →
    reply = some (.ok (before.reminders.dueBirthdays now))

/-- Nothing said leaves everything as it is. -/
theorem Supplied.nil (before : Collaborators) : Supplied before [] [] before where
  broker_eq := by simp
  reminders_eq := by simp [dispatching_nil]
  others_eq := ⟨rfl, rfl, rfl⟩
  calls_eq := rfl
  isNew := by simp
  accepted := by simp
  birthdays := by simp

/-- What is left by two dialogues, one after the other. -/
theorem Supplied.append (first : Supplied before front news middle)
    (second : Supplied middle back others after) :
    Supplied before (front ++ back) (news ++ others) after where
  broker_eq := by
    rw [second.broker_eq, first.broker_eq]
    simp
  reminders_eq := by
    rw [second.reminders_eq, first.reminders_eq, List.filterMap_append, dispatching_append]
  others_eq := by
    obtain ⟨notifications, outbox, dispatcher⟩ := first.others_eq
    rw [← notifications, ← outbox, ← dispatcher]
    exact second.others_eq
  calls_eq := by
    rw [List.map_append, List.filter_append, first.calls_eq, second.calls_eq, List.map_append]
  isNew record member := by
    rcases List.mem_append.1 member with earlier | later
    · exact first.isNew record earlier
    · have isNew := second.isNew record later
      rw [first.broker_eq] at isNew
      exact isNew
  accepted answered member := by
    rcases List.mem_append.1 member with earlier | later
    · exact first.accepted answered earlier
    · exact second.accepted answered later
  birthdays now reply member := by
    rcases List.mem_append.1 member with earlier | later
    · exact first.birthdays now reply earlier
    · rw [second.birthdays now reply later]
      unfold ReminderStore.dueBirthdays
      rw [first.reminders_eq]

/-- The keys of the reminders are the same. -/
theorem Supplied.keys_eq (supplied : Supplied before said news after) :
    after.reminders.keys = before.reminders.keys := by
  rw [supplied.reminders_eq]
  exact keys_dispatching _ _

/-- A call that leaves everything as it is. -/
theorem supplied_idle {answered : Answered} (noMark : answered.marked? = none)
    (noPublication : answered.call.isPublication = false)
    (birthdays : ∀ now reply, answered = ⟨.dueBirthdays now, reply⟩ →
      reply = some (.ok (before.reminders.dueBirthdays now))) :
    Supplied before [answered] [] before where
  broker_eq := by simp
  reminders_eq := by simp [noMark, dispatching_nil]
  others_eq := ⟨rfl, rfl, rfl⟩
  calls_eq := by simp [noPublication]
  isNew := by simp
  accepted := by simp [noPublication]
  birthdays now reply member := birthdays now reply (List.mem_singleton.1 member).symm

/-- A publication is accepted by an open broker. -/
theorem supplied_publish {type : TaskType} {body : List UInt8}
    {reply : Option (Call.publish type body).Reply} (isOpen : before.exchange.broker.closed = false)
    (answers : Answers (.publish type body) reply before after) :
    ∃ record, Supplied before [⟨.publish type body, reply⟩] [record] after := by
  obtain ⟨reading, fresh, -, answered⟩ := answers
  obtain ⟨woken, exchange, published, accepted⟩ := publish_open isOpen reading.now
    ⟨reading.id, type, body, reading.brokerWall⟩
  have told : before.answer reading (.publish type body) =
      (some (.ok reading.id), { before with exchange := exchange }) := by
    simp only [answer, published]
    rfl
  obtain ⟨rfl, rfl⟩ := Prod.mk.inj (told.symm.trans answered)
  refine ⟨.new ⟨reading.id, type, body, reading.brokerWall⟩
    before.exchange.broker.policy.maxAttempts reading.now, {
      broker_eq := Broker.publish_eq_append fresh accepted
      reminders_eq := by simp [Answered.marked?, dispatching_nil]
      others_eq := ⟨rfl, rfl, rfl⟩
      calls_eq := rfl
      isNew := fun record member => ⟨reading.now, ?_⟩
      accepted := by simp [Answered.isOk]
      birthdays := by simp }⟩
  rw [List.mem_singleton.1 member]
  rfl

/-- A mark dispatches the reminder with the key, if there is one. -/
theorem supplied_mark {id : ReminderId} {reply : Option (Call.mark id).Reply}
    (distinct : before.reminders.keys.Nodup) (answers : Answers (.mark id) reply before after) :
    Supplied before [⟨.mark id, reply⟩] [] after := by
  obtain ⟨reading, -, -, answered⟩ := answers
  obtain ⟨-, rfl⟩ := Prod.mk.inj answered
  exact {
    broker_eq := by simp
    reminders_eq := mark_snd distinct id
    others_eq := ⟨rfl, rfl, rfl⟩
    calls_eq := rfl
    isNew := by simp
    accepted := by simp [Call.isPublication]
    birthdays := by simp }

/-- What is left by the calls of a scan that are answered in time by stores with distinct keys and
by an open broker. -/
theorem exists_supplied {α : Type} {program : Program α} {out : Option α}
    (distinct : before.reminders.keys.Nodup) (isOpen : before.exchange.broker.closed = false)
    (uses : program.Uses Call.IsOfScan)
    (runs : program.Runs Answers before said after out) :
    ∃ news, Supplied before said news after := by
  induction runs with
  | done value state => exact ⟨[], .nil state⟩
  | cut program state => exact ⟨[], .nil state⟩
  | @ask call limit next reply before middle after said out answered goesOn ih =>
    have first : ∃ news, Supplied before [⟨call, reply⟩] news middle := by
      cases call with
      | dueReminders now =>
        obtain ⟨reading, -, -, told⟩ := answered
        obtain ⟨-, rfl⟩ := Prod.mk.inj told
        exact ⟨[], supplied_idle rfl rfl (by simp)⟩
      | dueBirthdays now =>
        obtain ⟨reading, -, -, told⟩ := answered
        obtain ⟨rfl, rfl⟩ := Prod.mk.inj told
        refine ⟨[], supplied_idle rfl rfl fun time reply same => ?_⟩
        cases same
        rfl
      | mark id => exact ⟨[], supplied_mark distinct answered⟩
      | publish type body =>
        obtain ⟨record, supplied⟩ := supplied_publish isOpen answered
        exact ⟨[record], supplied⟩
      | createNotification | send | handOver => exact uses.1.elim
    obtain ⟨news, supplied⟩ := first
    have stillDistinct : middle.reminders.keys.Nodup := supplied.keys_eq ▸ distinct
    have stillOpen : middle.exchange.broker.closed = false := by
      rw [supplied.broker_eq]
      exact isOpen
    obtain ⟨others, later⟩ := ih stillDistinct stillOpen (uses.2 reply)
    exact ⟨news ++ others, supplied.append later⟩

/-! ## What a scan publishes -/

variable {payloads : List TaskPayload} {reminder : Reminder} {turns : List Scanner.Turn}
  {limit : Duration} {day : Date} {handled last : HandledBirthdays}
  {celebrations : List Celebration} {known : List UserId}

/-- Where payloads are published, nothing else is, and nothing is marked. -/
theorem publications_of_calls (calls : said.map (·.call) = payloads.map (·.publication)) :
    (said.map (·.call)).filter (·.isPublication) = payloads.map (·.publication) ∧
      said.filterMap (·.marked?) = [] := by
  constructor
  · rw [calls]
    refine List.filter_eq_self.2 fun call member => ?_
    obtain ⟨payload, -, rfl⟩ := List.mem_map.1 member
    rfl
  · refine List.filterMap_eq_nil_iff.2 fun answered member => ?_
    obtain ⟨payload, -, isCall⟩ := exists_publication calls member
    unfold Answered.marked?
    rw [isCall]
    rfl

/-- Where payloads are published and all publications are accepted, all calls succeed. -/
theorem all_accepted (calls : said.map (·.call) = payloads.map (·.publication))
    (accepted : ∀ answered ∈ said, answered.call.isPublication = true → answered.isOk = true) :
    said.all (·.isOk) = true := by
  refine List.all_eq_true.2 fun answered member => accepted answered member ?_
  obtain ⟨payload, -, isCall⟩ := exists_publication calls member
  rw [isCall]
  rfl

/-- When all publications are accepted, the tasks of a reminder are published and it is marked. -/
theorem publications_of_handled (handled : Handled reminder said)
    (accepted : ∀ answered ∈ said, answered.call.isPublication = true → answered.isOk = true) :
    (said.map (·.call)).filter (·.isPublication) =
        (tasksOf reminder.fanOut).map (·.publication) ∧
      said.filterMap (·.marked?) = [reminder.id] := by
  cases handled with
  | @dropped failure mark invalid isMark =>
    simp [Answered.marked?, isMark, invalid, tasksOf, Except.toOption, Call.isPublication]
  | @kept tasks published valid calls refused =>
    have all : said.all (·.isOk) = true := all_accepted calls accepted
    rw [refused] at all
    contradiction
  | @passedOn tasks published mark valid calls allAccepted isMark =>
    obtain ⟨publications, noMark⟩ := publications_of_calls calls
    have own : tasksOf reminder.fanOut = tasks.payloads := by
      rw [valid]
      rfl
    rw [List.map_append, List.filter_append, List.filterMap_append, publications, noMark, own]
    simp [Answered.marked?, isMark, Call.isPublication]

/-- When all publications are accepted, the tasks of all reminders are published in order, and all
reminders are marked. -/
theorem publications_of_turns (handled : ∀ turn ∈ turns, Handled turn.reminder turn.said)
    (accepted : ∀ answered ∈ turns.flatMap (·.said), answered.call.isPublication = true →
      answered.isOk = true) :
    ((turns.flatMap (·.said)).map (·.call)).filter (·.isPublication) =
        ((turns.map (·.reminder)).flatMap fun reminder => tasksOf reminder.fanOut).map
          (·.publication) ∧
      (turns.flatMap (·.said)).filterMap (·.marked?) = turns.map (·.reminder.id) := by
  induction turns with
  | nil => exact ⟨rfl, rfl⟩
  | cons turn more ih =>
    obtain ⟨first, others⟩ := List.forall_mem_cons.1 handled
    rw [List.flatMap_cons] at accepted ⊢
    obtain ⟨acceptedFirst, acceptedLater⟩ := List.forall_mem_append.1 accepted
    obtain ⟨published, marked⟩ := publications_of_handled first acceptedFirst
    obtain ⟨publishedLater, markedLater⟩ := ih others acceptedLater
    rw [List.map_append, List.filter_append, List.filterMap_append, published, publishedLater,
      marked, markedLater]
    simp

/-- The birthdays of those who are not known, each user once. -/
def newcomers : List UserId → List Birthday → List Birthday
  | _, [] => []
  | known, birthday :: more =>
    if birthday.userId ∈ known then newcomers known more
    else birthday :: newcomers (birthday.userId :: known) more

/-- When all publications are accepted, the tasks of a birthday are published, the user is done, and
nothing is marked. -/
theorem publications_of_celebrates {birthday : Birthday} {treatment : Treatment} {done : Bool}
    (day : Date) (celebrates : Celebrates limit birthday treatment done)
    (accepted : ∀ answered ∈ (⟨birthday, day, treatment⟩ : Celebration).said,
      answered.call.isPublication = true → answered.isOk = true) :
    ((Celebration.said ⟨birthday, day, treatment⟩).map (·.call)).filter (·.isPublication) =
        (tasksOf birthday.fanOut).map (·.publication) ∧
      (Celebration.said ⟨birthday, day, treatment⟩).filterMap (·.marked?) = [] ∧ done = true := by
  cases celebrates with
  | dropped invalid => simp [Celebration.said, invalid, tasksOf, Except.toOption]
  | @published tasks said valid calls =>
    obtain ⟨publications, noMark⟩ := publications_of_calls calls
    have all : said.all (·.isOk) = true := all_accepted calls accepted
    have own : tasksOf birthday.fanOut = tasks.payloads := by
      rw [valid]
      rfl
    rw [own]
    refine ⟨publications, noMark, ?_⟩
    rw [any_failsForNow limit calls, all]
    rfl

/-- When all publications are accepted, the tasks of the birthdays of all newcomers are published in
order, and nothing is marked. -/
theorem publications_of_treats (treats : Treats limit day handled celebrations last)
    (recalls : ∀ user, handled.contains user = true ↔ user ∈ known)
    (accepted : ∀ answered ∈ celebrations.flatMap (·.said), answered.call.isPublication = true →
      answered.isOk = true) :
    ((celebrations.flatMap (·.said)).map (·.call)).filter (·.isPublication) =
        ((newcomers known (celebrations.map (·.birthday))).flatMap fun birthday =>
          tasksOf birthday.fanOut).map (·.publication) ∧
      (celebrations.flatMap (·.said)).filterMap (·.marked?) = [] := by
  induction treats generalizing known with
  | none handled => exact ⟨rfl, rfl⟩
  | @skipped birthday handled last more isKnown others ih =>
    have passed : newcomers known (birthday :: more.map (·.birthday)) =
        newcomers known (more.map (·.birthday)) := if_pos ((recalls _).1 isKnown)
    rw [List.map_cons, passed]
    exact ih recalls accepted
  | @celebrated birthday treatment done handled last more isNew celebrates others ih =>
    have comes : newcomers known (birthday :: more.map (·.birthday)) =
        birthday :: newcomers (birthday.userId :: known) (more.map (·.birthday)) :=
      if_neg fun isKnown => isNew ((recalls _).2 isKnown)
    rw [List.flatMap_cons] at accepted ⊢
    obtain ⟨acceptedFirst, acceptedLater⟩ := List.forall_mem_append.1 accepted
    obtain ⟨published, marked, rfl⟩ := publications_of_celebrates day celebrates acceptedFirst
    have recallsNext : ∀ user, (handled.insert birthday.userId).contains user = true ↔
        user ∈ birthday.userId :: known := by
      intro user
      rw [HandledBirthdays.contains_insert, recalls user, List.mem_cons]
    obtain ⟨publishedLater, markedLater⟩ := ih recallsNext acceptedLater
    rw [List.map_append, List.filter_append, List.filterMap_append, published, publishedLater,
      marked, markedLater, List.map_cons, comes, List.flatMap_cons, List.map_append]
    exact ⟨rfl, rfl⟩

/-- What a scan without faults supplies: for each pending reminder whose time has come its tasks, in
the order of the store, and then the tasks of the birthdays of this day, in the order of the users,
for those who are not known yet. An item from which no tasks can be made has none. -/
def supply (handled : HandledBirthdays) (store : ReminderStore) (now : Instant) :
    List TaskPayload :=
  ((store.reminders.filter fun reminder =>
    reminder.status = .pending ∧ reminder.executeAt ≤ now).flatMap fun reminder =>
      tasksOf reminder.fanOut) ++
  (newcomers (handled.onDay now.date).users
    ((store.users.filter (·.celebratesOn now.date)).map (·.birthday))).flatMap fun birthday =>
      tasksOf birthday.fanOut

/-- The record is about some work: its type and its body are those of the work, and the body is read
as this work under its type. -/
structure Carries (record : TaskRecord) (work : TaskPayload) : Prop where
  /-- The type of the work. -/
  type_eq : record.envelope.type = work.type
  /-- The work, encoded. -/
  body_eq : record.envelope.body = Wire.encode work
  /-- The work is read back. -/
  work_eq : record.envelope.work? = some work

/-- Records carry the work that was published. -/
theorem carries_of_calls {works : List TaskPayload}
    (same : (news.map fun record => Call.publish record.envelope.type record.envelope.body) =
      works.map (·.publication)) : List.Forall₂ Carries news works := by
  have each : List.Forall₂ (· = ·)
      (news.map fun record => Call.publish record.envelope.type record.envelope.body)
      (works.map (·.publication)) := same ▸ List.forall₂_refl _
  rw [List.forall₂_map_left_iff, List.forall₂_map_right_iff] at each
  refine each.imp fun record work published => ?_
  obtain ⟨type, body⟩ := Call.publish.inj published
  exact ⟨type, body, Envelope.work?_published type body⟩

/-- What was published and what was marked in a scan without faults. -/
theorem supplied_scan {outcome : Except IncompleteScan ScanReport}
    (distinct : before.reminders.keys.Nodup) (isOpen : before.exchange.broker.closed = false)
    (runs : (scanner.scan now).Runs Answers before said after (some (next, outcome))) :
    (∃ report, outcome = .ok report) ∧ ∃ news, Supplied before said news after ∧
      List.Forall₂ Carries news (supply scanner.handled before.reminders now) ∧
      said.filterMap (·.marked?) = (before.reminders.dueReminders now).map (·.id) := by
  obtain ⟨news, supplied⟩ := exists_supplied distinct isOpen (scanner.scan_uses now) runs
  obtain ⟨minutes, tell⟩ := scan_minutes scanner.publishTimeout runs
  -- the first query is answered before anything has changed
  have dueReminders : ∀ reply rest, minutes.front = ⟨.dueReminders now, reply⟩ :: rest →
      reply = some (.ok (before.reminders.dueReminders now)) := by
    intro reply rest begins
    rw [tell.trace_eq, begins, List.cons_append] at runs
    obtain ⟨middle, reading, -, -, answered⟩ := runs.first_answered
    exact (Prod.mk.inj answered).1.symm
  have dueBirthdays : ∀ reply rest, minutes.back = ⟨.dueBirthdays now, reply⟩ :: rest →
      reply = some (.ok (before.reminders.dueBirthdays now)) := by
    intro reply rest begins
    exact supplied.birthdays now reply (by simp [tell.trace_eq, begins])
  obtain ⟨isTurn, handled, isCelebration, treats, trace_eq, complete⟩ :=
    tell.told dueReminders dueBirthdays
  have accepted := supplied.accepted
  rw [trace_eq] at accepted
  obtain ⟨acceptedTurns, acceptedCelebrations⟩ := List.forall_mem_append.1 accepted
  obtain ⟨published, marked⟩ :=
    publications_of_turns handled (List.forall_mem_cons.1 acceptedTurns).2
  have recalls : ∀ user, (scanner.handled.onDay now.date).contains user = true ↔
      user ∈ (scanner.handled.onDay now.date).users := fun user => List.contains_iff_mem
  obtain ⟨publishedThen, markedThen⟩ := publications_of_treats treats recalls
    (List.forall_mem_cons.1 acceptedCelebrations).2
  refine ⟨⟨_, complete⟩, news, supplied, carries_of_calls ?_, ?_⟩
  · have queries : (said.map (·.call)).filter (·.isPublication) =
        ((minutes.turns.flatMap (·.said)).map (·.call)).filter (·.isPublication) ++
          ((minutes.celebrations.flatMap (·.said)).map (·.call)).filter (·.isPublication) := by
      simp [trace_eq, Call.isPublication]
    rw [← supplied.calls_eq, queries, published, publishedThen, isTurn, isCelebration,
      ReminderStore.dueReminders_eq, ← List.map_append]
    rfl
  · have queries : said.filterMap (·.marked?) =
        (minutes.turns.flatMap (·.said)).filterMap (·.marked?) ++
          (minutes.celebrations.flatMap (·.said)).filterMap (·.marked?) := by
      rw [trace_eq, List.filterMap_append]
      rfl
    rw [queries, marked, markedThen, List.append_nil, ← isTurn, List.map_map]
    rfl

/-- A scan without faults is a function of what it finds, whatever the stores and the broker hold.

It comes to its end, unless all identifiers are in use, and it is complete. What it supplies stands
behind all other tasks, on record and in line, in order; every reminder that was due is dispatched;
and nothing else has changed but the bell of the broker. -/
theorem scan_supplies (distinct : before.reminders.keys.Nodup)
    (isOpen : before.exchange.broker.closed = false) :
    ((∃ said after result, (scanner.scan now).Runs Answers before said after (some result)) ∨
      ∃ said after, (scanner.scan now).Runs Answers before said after none ∧
        ∀ id, id ∈ after.exchange.broker.taskIds) ∧
    ∀ said after next outcome,
      (scanner.scan now).Runs Answers before said after (some (next, outcome)) →
        (∃ report, outcome = .ok report) ∧
        ∃ (news : List TaskRecord) (bell : Bell),
          after = { before with
            exchange := ⟨{ before.exchange.broker with
              records := before.exchange.broker.records ++ news
              ready := before.exchange.broker.ready ++ news.map (·.id) }, bell⟩
            reminders := { before.reminders with
              reminders := before.reminders.reminders.map fun reminder =>
                if reminder.status = .pending ∧ reminder.executeAt ≤ now then reminder.dispatched
                else reminder } } ∧
          List.Forall₂ Carries news (supply scanner.handled before.reminders now) ∧
          ∀ record ∈ news, ∃ moment,
            record = .new record.envelope before.exchange.broker.policy.maxAttempts moment := by
  refine ⟨ends_or_exhausts (scanner.scan_uses now) before, fun said after next outcome runs => ?_⟩
  obtain ⟨complete, news, supplied, carries, marked⟩ := supplied_scan distinct isOpen runs
  refine ⟨complete, news, after.exchange.bell, ?_, carries, supplied.isNew⟩
  obtain ⟨notifications, outbox, dispatcher⟩ := supplied.others_eq
  rw [← dispatching_due distinct, ← marked, ← supplied.reminders_eq, ← supplied.broker_eq]
  obtain ⟨exchange, reminders, _, _, _⟩ := after
  obtain rfl := notifications
  obtain rfl := outbox
  obtain rfl := dispatcher
  rfl

/-- A task that waits in line, three reminders of which the second has no title and the third has
time until the next day, and two users who have birthday. -/
def lateMorning : Collaborators :=
  { fresh .default (.ofSeconds 5) with
    exchange := ⟨{ Broker.new .default with
      records := [.new ⟨.ofNat 99, ⟨"other"⟩, [], .midnight .epoch⟩ 3 0]
      ready := [.ofNat 99] }, .silent⟩
    reminders := {
      reminders := [wish, { wish with id := ⟨2⟩, title := "" },
        { wish with id := ⟨3⟩, executeAt := .midnight nextDay }]
      users := [⟨⟨7⟩, "ada@example.com", "Ada", .epoch⟩, ⟨⟨8⟩, "bob@example.com", "Bob", .epoch⟩]
      lastId := 3 } }

/-- A scanner that has celebrated the first of the two users supplies two tasks for the first
reminder and two for the other user; the first two reminders are dispatched. -/
theorem scan_supplies_lateMorning :
    lateMorning.reminders.keys.Nodup ∧ lateMorning.exchange.broker.closed = false ∧
      ∃ said after next report, (({ watch with handled := ⟨some .epoch, [⟨7⟩]⟩ } : Scanner).scan
          (.midnight .epoch)).Runs Answers lateMorning said after (some (next, .ok report)) ∧
        after.exchange.broker.records.length = 5 ∧
        after.reminders.reminders.map (·.status) = [.dispatched, .dispatched, .pending] := by
  have distinct : lateMorning.reminders.keys.Nodup := by decide +kernel
  have ends : (promptly (({ watch with handled := ⟨some .epoch, [⟨7⟩]⟩ } : Scanner).scan
      (.midnight .epoch)) ((List.range 8).map fun number =>
        ⟨0, .midnight .epoch, .midnight .epoch, .ofNat number⟩) lateMorning).isSome = true := by
    decide +kernel
  obtain ⟨⟨⟨next, outcome⟩, after⟩, prompt⟩ := Option.isSome_iff_exists.1 ends
  obtain ⟨said, runs⟩ := runs_promptly prompt
  obtain ⟨⟨report, rfl⟩, news, bell, after_eq, carries, -⟩ :=
    (scan_supplies distinct rfl).2 said after next outcome runs
  have four : (supply ⟨some .epoch, [⟨7⟩]⟩ lateMorning.reminders
      (.midnight .epoch)).length = 4 := by
    decide +kernel
  have length : news.length = 4 := carries.length_eq.trans four
  refine ⟨distinct, rfl, said, after, next, report, runs, ?_, ?_⟩
  · rw [after_eq]
    show (_ ++ news).length = 5
    rw [List.length_append, length]
    rfl
  · have statuses : (lateMorning.reminders.reminders.map fun reminder =>
        if reminder.status = .pending ∧ reminder.executeAt ≤ .midnight .epoch then
          reminder.dispatched
        else reminder).map (·.status) = [.dispatched, .dispatched, .pending] := by
      decide +kernel
    rw [after_eq]
    exact statuses

end Collaborators

end ReminderDispatch
