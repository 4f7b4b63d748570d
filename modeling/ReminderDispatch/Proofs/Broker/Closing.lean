import ReminderDispatch.Proofs.Broker.Commutation
import ReminderDispatch.Proofs.Broker.Conservation

/-!
# Closing

Closing a broker is final and loses nothing. After it no task is accepted and none is handed out,
however many are ready or due, so that the line and the schedule keep what they have; all consumers
wake and come back without a task. The deliveries in hand can still be given back, as if the broker
were open.
-/

namespace ReminderDispatch

/-! ## Closed sessions -/

namespace Event

/-- A delivery was given back, and the broker has settled it. -/
def IsSettlement : Event → Prop
  | acked _ | failed _ _ _ _ => True
  | accepted _ | leased _ => False

end Event

namespace Session

variable {session before middle after : Session} {id : TaskId}

/-- What has happened in a session whose broker is closed. -/
structure WindsDown (before after : Session) : Prop where
  /-- The broker stays closed. -/
  closed : after.broker.closed = true
  /-- The line stays as it was. -/
  ready_eq : after.broker.ready = before.broker.ready
  /-- No delivery was handed out. -/
  held : after.held.Sublist before.held
  /-- No task is running that was not. -/
  running : ∀ id, after.broker.state? id = some .running → before.broker.state? id = some .running
  /-- A task that waits for another attempt goes on waiting. -/
  waits : ∀ id, before.broker.state? id = some .retryScheduled →
    after.broker.state? id = some .retryScheduled
  /-- Nothing has happened but settlements. -/
  history : ∃ events, after.history = before.history ++ events ∧
    ∀ event ∈ events, event.IsSettlement

/-- When nothing has changed, the broker is closed as before. -/
theorem WindsDown.refl (closed : session.broker.closed = true) : session.WindsDown session where
  closed := closed
  ready_eq := rfl
  held := .refl _
  running _ isRunning := isRunning
  waits _ waits := waits
  history := ⟨[], (List.append_nil _).symm, by simp⟩

/-- What happens one after the other has happened at a closed broker. -/
theorem WindsDown.trans (first : before.WindsDown middle) (second : middle.WindsDown after) :
    before.WindsDown after where
  closed := second.closed
  ready_eq := second.ready_eq.trans first.ready_eq
  held := second.held.trans first.held
  running id isRunning := first.running id (second.running id isRunning)
  waits id isWaiting := second.waits id (first.waits id isWaiting)
  history := by
    obtain ⟨earlier, firstHistory, firstSettles⟩ := first.history
    obtain ⟨later, secondHistory, secondSettles⟩ := second.history
    refine ⟨earlier ++ later, ?_, fun event member => ?_⟩
    · rw [secondHistory, firstHistory, List.append_assoc]
    · exact (List.mem_append.1 member).elim (firstSettles event) (secondSettles event)

/-- No task was accepted at a closed broker. -/
theorem WindsDown.accepted_eq (windsDown : before.WindsDown after) :
    after.accepted = before.accepted := by
  obtain ⟨events, history, settles⟩ := windsDown.history
  have none : events.filterMap (·.accepted?) = [] := by
    rw [List.filterMap_eq_nil_iff]
    intro event member
    have isSettlement := settles event member
    cases event with
    | accepted envelope | leased delivery => exact isSettlement.elim
    | acked delivery | failed delivery error kind verdict => rfl
  unfold accepted
  rw [history, List.filterMap_append, none, List.append_nil]

/-- A running task was settled at a closed broker, and all others are as before. -/
theorem WindsDown.settle {entry : Option TaskRecord} {event : Event}
    (closed : after.broker.closed = true) (ready : after.broker.ready = before.broker.ready)
    (held : after.held.Sublist before.held)
    (lookup : after.broker.find? = Function.update before.broker.find? id entry)
    (was : before.broker.state? id = some .running) (stops : entry.map (·.state) ≠ some .running)
    (history : after.history = before.history ++ [event]) (settles : event.IsSettlement) :
    before.WindsDown after where
  closed := closed
  ready_eq := ready
  held := held
  running other isRunning := by
    unfold Broker.state? at isRunning ⊢
    rw [lookup] at isRunning
    by_cases same : other = id
    · rw [same, Function.update_self] at isRunning
      exact absurd isRunning stops
    · rw [Function.update_of_ne same] at isRunning
      exact isRunning
  waits other isWaiting := by
    have different : other ≠ id := by
      rintro rfl
      rw [was] at isWaiting
      contradiction
    unfold Broker.state? at isWaiting ⊢
    rw [lookup, Function.update_of_ne different]
    exact isWaiting
  history := ⟨[event], history, fun other member => List.mem_singleton.1 member ▸ settles⟩

/-- The task of a delivery in hand is running. -/
theorem Sound.state?_of_held (sound : session.Sound) {delivery : Delivery}
    (inHand : delivery ∈ session.held) :
    session.broker.state? delivery.id = some .running := by
  obtain ⟨record, found, running, -⟩ := sound.serving.running delivery inHand
  unfold Broker.state?
  rw [found, Option.map_some, running]

/-- Every change at a closed broker is a settlement, or none of the tasks. -/
theorem Change.windsDown (change : before.Change after) (sound : before.Sound)
    (closed : before.broker.closed = true) : before.WindsDown after := by
  cases change with
  | nothing => exact .refl closed
  | accept fresh published =>
    have isOpen := (Broker.publish_eq_ok published).1
    exact absurd (isOpen.symm.trans closed) Bool.false_ne_true
  | promote isOpen empty => exact absurd (isOpen.symm.trans closed) Bool.false_ne_true
  | handOut isOpen first found => exact absurd (isOpen.symm.trans closed) Bool.false_ne_true
  | @acknowledge delivery inHand =>
    exact .settle closed rfl List.erase_sublist (Broker.find?_drop before.broker delivery.id)
      (sound.state?_of_held inHand) nofun rfl trivial
  | @giveUp delivery record error kind inHand found last =>
    exact .settle closed rfl List.erase_sublist (Broker.find?_drop before.broker delivery.id)
      (sound.state?_of_held inHand) nofun rfl trivial
  | @retry delivery record error kind inHand found goesOn =>
    have owner : record.id = delivery.id := Broker.find?_id found
    have owned : before.broker.find? record.id = some record := by rw [owner, found]
    have lookup : (before.broker.postponed before.now
          (before.broker.nextAttempt before.now record) error).find? =
        Function.update before.broker.find? record.id
          (some (record.scheduleRetry before.now _ error)) :=
      Broker.find?_update_of_found (Broker.scheduleRetry_envelope before.now _ error) owned
    exact .settle closed rfl List.erase_sublist lookup (owner ▸ sound.state?_of_held inHand)
      (by simp [TaskRecord.scheduleRetry]) rfl trivial
  | abandon inHand => exact { WindsDown.refl closed with held := List.erase_sublist }
  | close => exact { WindsDown.refl closed with closed := rfl }
  | advance span => exact { WindsDown.refl closed with closed := closed }

/-- What happens at a closed broker, however long. -/
theorem Sound.windsDown (sound : before.Sound) (closed : before.broker.closed = true)
    (run : before.Leads after) : before.WindsDown after ∧ after.Sound := by
  induction run with
  | refl => exact ⟨.refl closed, sound⟩
  | tail earlier step ih =>
    obtain ⟨windsDown, stillSound⟩ := ih
    have change := stillSound.change step
    exact ⟨windsDown.trans (change.windsDown stillSound windsDown.closed),
      stillSound.of_change change⟩

end Session

/-! ## Consumers of a closed broker -/

namespace Consumers

variable {consumers : Consumers} {now : Moment} {number : Nat}

/-- A look at a closed broker comes back without a task. -/
theorem lease_closed {broker : Broker} (closed : broker.closed = true) (now : Moment) :
    broker.lease now = (.closed, broker) := if_pos closed

/-- The first consumer that is awake looks at a closed broker: it comes back without a task. -/
theorem step_closed (closed : consumers.broker.closed = true) {later : List Nat}
    (awake : consumers.awake = number :: later) (now : Moment) :
    ∃ next : Consumers, consumers.step now = (some (number, none), next) ∧
      next.broker = consumers.broker ∧ next.awake = later ∧
      next.numbers = consumers.numbers.filter (· ≠ number) := by
  have looked : consumers.exchange.broker.lease now = (.closed, consumers.broker) :=
    lease_closed closed now
  unfold step
  simp only [awake, Exchange.look, looked]
  exact ⟨_, rfl, rfl, rfl, numbers_leave consumers number⟩

/-- All consumers that are awake look at a closed broker: each comes back without a task. -/
theorem settle_closed (closed : consumers.broker.closed = true) (now : Moment) :
    (consumers.settle now).1 = consumers.awake.map (·, none) ∧
      (consumers.settle now).2.broker = consumers.broker ∧
      (consumers.settle now).2.awake = [] ∧
      (consumers.settle now).2.numbers = consumers.numbers.filter (· ∉ consumers.awake) := by
  unfold settle
  generalize awake : consumers.awake = line
  induction line generalizing consumers with
  | nil => simp [steps, awake]
  | cons number later ih =>
    obtain ⟨next, stepped, broker, nextAwake, numbers⟩ := step_closed closed awake now
    obtain ⟨found, sameBroker, nobody, rest⟩ := ih (broker ▸ closed) nextAwake
    rw [List.length_cons]
    unfold steps
    simp only [stepped, Option.toList_some, List.map_cons]
    refine ⟨?_, ?_, nobody, ?_⟩
    · rw [found]
      rfl
    · rw [sameBroker, broker]
    · rw [rest, numbers, List.filter_filter]
      apply List.filter_congr
      intro other _
      by_cases same : other = number <;> simp [same]

/-- Who is awake stays so when a consumer departs, unless it is this one. -/
theorem mem_awake_cancel {other : Nat} (isAwake : other ∈ consumers.awake)
    (stays : other ≠ number) : other ∈ (consumers.cancel number).awake := by
  have kept : other ∈ consumers.awake.filter (· ≠ number) :=
    List.mem_filter.2 ⟨isAwake, decide_eq_true stays⟩
  unfold cancel
  split
  · exact mem_after.2 (.inl kept)
  · exact kept

end Consumers

/-- The delivery that a request gives back. -/
def Request.returned? : Request → Option Delivery
  | .ack delivery | .fail delivery _ _ | .abandon delivery => some delivery
  | .publish _ | .lease | .close | .advance _ => none

/-- A delivery stays in hand until it is given back. -/
theorem Session.mem_held_perform (session : Session) {delivery : Delivery}
    (inHand : delivery ∈ session.held) (request : Request) :
    delivery ∈ (session.perform request).held ∨ request.returned? = some delivery := by
  have giveBack : ∀ other : Delivery,
      delivery ∈ session.held.erase other ∨ some other = some delivery := by
    intro other
    by_cases same : delivery = other
    · exact .inr (congrArg some same.symm)
    · exact .inl ((List.mem_erase_of_ne same).2 inHand)
  cases request with
  | publish envelope =>
    simp only [perform]
    rcases session.broker.publish session.now envelope with ⟨failure | ⟨⟩, broker⟩ <;>
      exact .inl inHand
  | lease =>
    simp only [perform]
    rcases session.broker.lease session.now with ⟨found, broker⟩
    cases found with
    | leased other => exact .inl (List.mem_append_left _ inHand)
    | nothing nextDue | closed => exact .inl inHand
  | ack other =>
    simp only [perform]
    cases session.broker.ack other <;> exact giveBack other
  | fail other error kind =>
    simp only [perform]
    cases session.broker.fail session.now other error kind <;> exact giveBack other
  | abandon other => exact giveBack other
  | close | advance span => exact .inl inHand

namespace Hall

variable {hall closing after : Hall} {number : Nat} {turns : List Turn}

/-! ## Who stays awake -/

/-- No request puts a consumer to sleep. -/
theorem mem_awake_ask (isAwake : number ∈ hall.consumers.awake) (request : Request) :
    number ∈ (hall.ask request).consumers.awake := by
  have ring : ∀ broker, number ∈ (hall.consumers.serve broker).ring.awake := fun broker =>
    (Consumers.ring_frame (hall.consumers.serve broker)).2.2 number (.inl isAwake)
  cases request with
  | publish envelope =>
    rcases hall.consumers.broker.publish_cases hall.now envelope with
      ⟨broker, published⟩ | refused
    · simp only [ask, Consumers.publish_eq published]
      exact ring broker
    · simp only [ask, Consumers.publish_error refused]
      exact isAwake
  | lease =>
    simp only [ask, Consumers.glance_eq]
    cases (hall.consumers.broker.lease hall.now).1 <;> exact isAwake
  | ack delivery =>
    simp only [ask, Consumers.ack_eq]
    cases hall.consumers.broker.ack delivery <;> exact isAwake
  | fail delivery error kind =>
    cases failed : hall.consumers.broker.fail hall.now delivery error kind with
    | ok outcome =>
      obtain ⟨verdict, broker⟩ := outcome
      cases verdict with
      | retryScheduled delay =>
        simp only [ask, Consumers.fail_eq_retry failed]
        exact ring broker
      | deadLettered =>
        simp only [ask, Consumers.fail_eq_dead failed]
        exact isAwake
    | error failure =>
      simp only [ask, Consumers.fail_error failed]
      exact isAwake
  | close => exact ((Consumers.close_frame hall.consumers).2.2 number).2 (.inl isAwake)
  | abandon delivery | advance span => exact isAwake

/-- A consumer that is awake stays so until it looks or is cancelled. -/
theorem mem_awake_turn (isAwake : number ∈ hall.consumers.awake) (turn : Turn) :
    number ∈ (hall.turn turn).consumers.awake ∨ turn = .move (.look number) ∨
      turn = .depart number := by
  cases turn with
  | depart other =>
    by_cases same : number = other
    · exact .inr (.inr (congrArg Turn.depart same.symm))
    · exact .inl (Consumers.mem_awake_cancel isAwake same)
  | move move =>
    cases move with
    | ask request => exact .inl (mem_awake_ask isAwake request)
    | join other | alarm other => exact .inl (Consumers.mem_wake.2 (.inl isAwake))
    | ring => exact .inl ((Consumers.ring_frame hall.consumers).2.2 number (.inl isAwake))
    | look other =>
      by_cases same : number = other
      · exact .inr (.inl (congrArg (fun number => Turn.move (.look number)) same.symm))
      · left
        have kept : number ∈ (hall.consumers.leave other).awake :=
          (List.mem_erase_of_ne same).2 isAwake
        change number ∈ (hall.look other).consumers.awake
        simp only [look, Consumers.step_call]
        rcases hall.consumers.broker.lease hall.now with ⟨found, broker⟩
        cases found <;> exact kept

/-- A consumer that is awake stays so, or it has looked or was cancelled. -/
theorem mem_awake_run (isAwake : number ∈ hall.consumers.awake) (turns : List Turn) :
    number ∈ (turning.run hall turns).consumers.awake ∨ .move (.look number) ∈ turns ∨
      .depart number ∈ turns := by
  induction turns generalizing hall with
  | nil => exact .inl isAwake
  | cons turn more ih =>
    rcases mem_awake_turn isAwake turn with stillAwake | rfl | rfl
    · exact (ih stillAwake).imp_right (.imp (List.mem_cons_of_mem turn) (List.mem_cons_of_mem turn))
    · exact .inr (.inl List.mem_cons_self)
    · exact .inr (.inr List.mem_cons_self)

/-- A delivery in hand stays there, or it was given back. -/
theorem mem_held_run {delivery : Delivery} (inHand : delivery ∈ hall.held) (turns : List Turn) :
    delivery ∈ (turning.run hall turns).held ∨
      ∃ request, .move (.ask request) ∈ turns ∧ request.returned? = some delivery := by
  induction turns generalizing hall with
  | nil => exact .inl inHand
  | cons turn more ih =>
    have kept : delivery ∈ (hall.turn turn).held ∨
        ∃ request, turn = .move (.ask request) ∧ request.returned? = some delivery := by
      cases turn with
      | depart other => exact .inl inHand
      | move move =>
        cases move with
        | ask request =>
          have kept := Session.mem_held_perform hall.session inHand request
          rw [← session_ask] at kept
          exact kept.imp_right fun returned => ⟨request, rfl, returned⟩
        | join other | alarm other | ring => exact .inl inHand
        | look other =>
          have kept := Session.mem_held_perform hall.session inHand .lease
          rw [← session_look hall other] at kept
          exact .inl (kept.resolve_right nofun)
    rcases kept with stillInHand | ⟨request, rfl, returned⟩
    · rcases ih stillInHand with inHand | ⟨request, asked, returned⟩
      · exact .inl inHand
      · exact .inr ⟨request, List.mem_cons_of_mem turn asked, returned⟩
    · exact .inr ⟨request, List.mem_cons_self, returned⟩

/-! ## Closed halls -/

/-- The hall with an open broker. -/
def reopen (hall : Hall) : Hall :=
  { hall with consumers := hall.consumers.serve { hall.consumers.broker with closed := false } }

/-- The hall with a closed broker. -/
def shut (hall : Hall) : Hall :=
  { hall with consumers := hall.consumers.serve hall.consumers.broker.close }

/-- What a hall is like in which the broker was closed some turns ago. -/
structure Final (closing : Hall) (turns : List Turn) (after : Hall) : Prop where
  /-- A publication is refused and changes nothing. -/
  refuses : ∀ envelope, after.reply (.publish envelope) = .published (.error .closed) ∧
    after.ask (.publish envelope) = after
  /-- A look for work by somebody who does not wait finds the broker closed, and at most uses up a
  left-over ring. -/
  finds_nothing : after.reply .lease = .found .closed ∧
    after.ask .lease = { after with consumers := after.consumers.hush }
  /-- A consumer that looks for work comes back without a task, and that is all. -/
  comes_back : ∀ number ∈ after.consumers.awake,
    after.answer (.move (.look number)) = .looked (some (number, none)) ∧
      (after.look number).session = after.session ∧
      number ∉ (after.look number).consumers.numbers
  /-- Nobody listens, and all who wait are awake. -/
  all_awake : after.consumers.row = [] ∧
    ∀ number ∈ after.consumers.numbers, number ∈ after.consumers.awake
  /-- When those who are awake look, all come back without a task and nobody waits any more. -/
  all_back : (after.consumers.settle after.now).1 = after.consumers.awake.map (·, none) ∧
    (after.consumers.settle after.now).2.broker = after.consumers.broker ∧
    (after.consumers.settle after.now).2.waiting = [] ∧
    (after.consumers.settle after.now).2.awake = []
  /-- A consumer that waited is awake, unless it has looked since or was cancelled. -/
  woken : ∀ number ∈ closing.consumers.numbers, number ∈ after.consumers.awake ∨
    .move (.look number) ∈ turns ∨ .depart number ∈ turns
  /-- A delivery that was in hand still is, unless it was given back since. -/
  held : ∀ delivery ∈ closing.held, delivery ∈ after.held ∨
    ∃ request, .move (.ask request) ∈ turns ∧ request.returned? = some delivery
  /-- Every delivery in hand was so before, and can be settled with the same answer and the same
  effect as if the broker were open. -/
  settles : ∀ delivery ∈ after.held, delivery ∈ closing.held ∧
    after.reply (.ack delivery) = .acked (.ok ()) ∧
    (∀ error kind, ∃ verdict, after.reply (.fail delivery error kind) = .failed (.ok verdict)) ∧
    ∀ report : Report,
      after.reply (report.request delivery) = after.reopen.reply (report.request delivery) ∧
        after.ask (report.request delivery) = (after.reopen.ask (report.request delivery)).shut
  /-- The queued tasks stay queued, in their order. -/
  queued : after.consumers.broker.ready = closing.consumers.broker.ready ∧
    ∀ id, after.consumers.broker.state? id = some .queued ↔ id ∈ closing.consumers.broker.ready
  /-- No task runs again that was not running at any time since. -/
  running : ∀ front back, turns = front ++ back → ∀ id,
    after.consumers.broker.state? id = some .running →
      (turning.run (closing.ask .close) front).consumers.broker.state? id = some .running
  /-- A task that was scheduled for another attempt at any time since stays scheduled. -/
  scheduled : ∀ front back, turns = front ++ back → ∀ id,
    (turning.run (closing.ask .close) front).consumers.broker.state? id = some .retryScheduled →
      after.consumers.broker.state? id = some .retryScheduled
  /-- Nothing has happened to the tasks but settlements. -/
  history : ∃ events, after.history = closing.history ++ events ∧
    ∀ event ∈ events, event.IsSettlement
  /-- Every task that was ever accepted is in one state. -/
  counts : after.consumers.broker.counts.queued + after.consumers.broker.counts.running +
    after.consumers.broker.counts.retryScheduled + after.consumers.broker.counts.succeeded +
    after.consumers.broker.counts.dead = closing.session.accepted.length

/-- Turns in a hall are requests in its session. -/
theorem session_turns (run : closing.Turns after) : closing.session.Leads after.session := by
  induction run with
  | refl => exact .refl
  | tail _ step earlier => exact earlier.trans (session_turn step)

/-- A closed broker refuses every task. -/
theorem reply_publish_closed (closed : hall.consumers.broker.closed = true) (envelope : Envelope) :
    hall.reply (.publish envelope) = .published (.error .closed) ∧
      hall.ask (.publish envelope) = hall := by
  have both := ask_refused hall (Broker.publish_of_closed closed hall.now envelope)
  exact ⟨both.2, both.1⟩

/-- A closed broker hands out no task to somebody who does not wait. -/
theorem reply_lease_closed (closed : hall.consumers.broker.closed = true) :
    hall.reply .lease = .found .closed ∧
      hall.ask .lease = { hall with consumers := hall.consumers.hush } := by
  have looked := Consumers.lease_closed closed hall.now
  constructor
  · simp only [reply, Consumers.glance_eq, looked]
  · simp only [ask, Consumers.glance_eq, looked]
    rfl

/-- A consumer that looks at a closed broker comes back without a task. -/
theorem look_closed (closed : hall.consumers.broker.closed = true) (number : Nat) :
    hall.answer (.move (.look number)) = .looked (some (number, none)) ∧
      (hall.look number).session = hall.session ∧
      number ∉ (hall.look number).consumers.numbers := by
  have looked := Consumers.lease_closed closed hall.now
  have left := Consumers.numbers_leave hall.consumers number
  refine ⟨?_, ?_, ?_⟩
  · simp only [answer, Consumers.step_call, looked]
  · simp only [look, Consumers.step_call, looked]
    rfl
  · simp only [look, Consumers.step_call, looked]
    change number ∉ (hall.consumers.leave number).numbers
    simp [left]

/-- The report on a running task is answered at a closed broker as at an open one, and has the same
effect. -/
theorem report_closed (closed : hall.consumers.broker.closed = true)
    (alone : hall.consumers.row = []) {delivery : Delivery}
    (running : hall.consumers.broker.Running delivery) (report : Report) :
    hall.reply (report.request delivery) = hall.reopen.reply (report.request delivery) ∧
      hall.ask (report.request delivery) = (hall.reopen.ask (report.request delivery)).shut := by
  have opened : hall.reopen.consumers.broker.Running delivery := running
  have silent : hall.reopen.consumers.row = [] := alone
  have bears := bears_report alone running report
  have openBears := bears_report silent opened report
  have same : hall.reopen.effectOf delivery report = hall.effectOf delivery report := rfl
  rw [bears.reply_eq, openBears.reply_eq, bears.ask_eq, openBears.ask_eq, same]
  refine ⟨rfl, ?_⟩
  have flag : (hall.consumers.broker.bear hall.now (hall.effectOf delivery report)).close =
      hall.consumers.broker.bear hall.now (hall.effectOf delivery report) := by
    unfold Broker.close Broker.bear
    rw [closed]
  have shut : (hall.reopen.bear (hall.effectOf delivery report)).shut =
      { hall.bear (hall.effectOf delivery report) with
        consumers := (hall.consumers.serve (hall.consumers.broker.bear hall.now
          (hall.effectOf delivery report)).close).rungAlone
            (hall.effectOf delivery report).rings } := rfl
  rw [shut, flag]
  rfl

/-- A delivery in hand can be settled: it is acknowledged, or the broker decides what becomes of the
task. -/
theorem reply_settles (alone : hall.consumers.row = []) {delivery : Delivery}
    (running : hall.consumers.broker.Running delivery) :
    hall.reply (.ack delivery) = .acked (.ok ()) ∧
      ∀ error kind, ∃ verdict, hall.reply (.fail delivery error kind) = .failed (.ok verdict) := by
  refine ⟨(bears_report alone running .done).reply_eq, fun error kind => ?_⟩
  have reply := (bears_report alone running (.failed error kind)).reply_eq
  change hall.reply (.fail delivery error kind) = _ at reply
  rw [reply]
  simp only [effectOf, RetryPolicy.effect]
  split_ifs
  · exact ⟨.deadLettered, rfl⟩
  · exact ⟨.retryScheduled _, rfl⟩

/-- All consumers that are awake come back from a closed broker, and nobody waits any more. -/
theorem settle_closed (closed : hall.consumers.broker.closed = true)
    (allAwake : ∀ number ∈ hall.consumers.numbers, number ∈ hall.consumers.awake) :
    (hall.consumers.settle hall.now).1 = hall.consumers.awake.map (·, none) ∧
      (hall.consumers.settle hall.now).2.broker = hall.consumers.broker ∧
      (hall.consumers.settle hall.now).2.waiting = [] ∧
      (hall.consumers.settle hall.now).2.awake = [] := by
  obtain ⟨found, broker, nobody, rest⟩ := Consumers.settle_closed closed hall.now
  refine ⟨found, broker, ?_, nobody⟩
  have none : hall.consumers.numbers.filter (· ∉ hall.consumers.awake) = [] := by
    rw [List.filter_eq_nil_iff]
    intro number waits
    simpa using allAwake number waits
  rw [none] at rest
  exact List.map_eq_nil_iff.1 rest

/-- Closing is final and loses nothing: whatever is asked after it and whoever comes, waits or
departs, no task is accepted or handed out, everyone comes back without a task, and what was in hand
can be settled as before. -/
theorem closing_final {policy : RetryPolicy} {begin : Moment}
    (run : (start policy begin).Turns hall) {turns : List Turn}
    (allowed : turning.AllowsAll (hall.ask .close) turns) :
    hall.Final turns (turning.run (hall.ask .close) turns) := by
  have closes : turning.Step hall (hall.ask .close) := ⟨.move (.ask .close), trivial, rfl⟩
  have closedRun := run.tail closes
  have later := turning.leads_run (hall.ask .close) turns allowed
  have sound := turns_sound closedRun
  have session : (hall.ask .close).session =
    { hall.session with broker := hall.session.broker.close } := session_ask hall .close
  have isClosed : (hall.ask .close).session.broker.closed = true := by rw [session]; rfl
  have present := turns_present (closedRun.trans later)
  obtain ⟨windsDown, stillSound⟩ := sound.windsDown isClosed (session_turns later)
  have closed : (turning.run (hall.ask .close) turns).consumers.broker.closed = true :=
    windsDown.closed
  have silent := present.deserted closed
  have allAwake : ∀ number ∈ (turning.run (hall.ask .close) turns).consumers.numbers,
      number ∈ (turning.run (hall.ask .close) turns).consumers.awake := by
    intro number waits
    refine (present.attends number waits).resolve_left fun inRow => ?_
    rw [silent] at inRow
    exact List.not_mem_nil inRow
  have running : ∀ delivery ∈ (turning.run (hall.ask .close) turns).held,
      (turning.run (hall.ask .close) turns).consumers.broker.Running delivery :=
    stillSound.serving.running
  have ready : (turning.run (hall.ask .close) turns).consumers.broker.ready =
      hall.consumers.broker.ready := windsDown.ready_eq.trans (congrArg (·.broker.ready) session)
  have accepted : (turning.run (hall.ask .close) turns).session.accepted =
      hall.session.accepted := windsDown.accepted_eq.trans (congrArg (·.accepted) session)
  -- What happens after some of the turns happens at a closed broker, too.
  have middle : ∀ front back, turns = front ++ back →
      (turning.run (hall.ask .close) front).session.WindsDown
        (turning.run (hall.ask .close) turns).session := by
    rintro front back rfl
    obtain ⟨first, second⟩ := (turning.allowsAll_append _ front back).1 allowed
    have toMiddle := turning.leads_run (hall.ask .close) front first
    have onward := turning.leads_run _ back second
    obtain ⟨wound, middleSound⟩ := sound.windsDown isClosed (session_turns toMiddle)
    rw [turning.run_append]
    exact (middleSound.windsDown wound.closed (session_turns onward)).1
  exact {
    refuses := reply_publish_closed closed
    finds_nothing := reply_lease_closed closed
    comes_back := fun number _ => look_closed closed number
    all_awake := ⟨silent, allAwake⟩
    all_back := settle_closed closed allAwake
    woken := fun number waits => by
      have frame := (Consumers.close_frame hall.consumers).2.2 number
      have isAwake := frame.2 ((turns_present run).attends number waits).symm
      exact mem_awake_run isAwake turns
    held := fun delivery inHand =>
      have inHand : delivery ∈ (hall.ask .close).held := inHand
      mem_held_run inHand turns
    settles := fun delivery inHand => ⟨windsDown.held.subset inHand,
      (reply_settles silent (running delivery inHand)).1,
      (reply_settles silent (running delivery inHand)).2,
      report_closed closed silent (running delivery inHand)⟩
    queued := ⟨ready, fun id => ready ▸ (stillSound.serving.agree.mem_ready id).symm⟩
    running := fun front back split id isRunning => (middle front back split).running id isRunning
    scheduled := fun front back split id waits => (middle front back split).waits id waits
    history := windsDown.history
    counts := by
      have accounted := Session.leads_accounted (session_turns (closedRun.trans later))
      exact accounted.counts_eq.trans (congrArg List.length accepted) }

/-- Two consumers wait, one task is worked on, one is scheduled for its second attempt, and one is
in the line. -/
def threeAtClosing : List Turn :=
  [.move (.ask (.publish (Session.mail 1))), .move (.ask .lease), .move (.join 1),
    .move (.look 1), .move (.join 2), .move (.look 2),
    .move (.ask (.fail ⟨Session.mail 1, 1⟩ "refused" .transient)), .move (.look 1),
    .move (.ask (.publish (Session.mail 2))), .move (.ask .lease), .move (.look 2),
    .move (.ask (.publish (Session.mail 3)))]

/-- The second attempt is due after the closing. A task is refused, somebody looks for work, one of
the consumers is cancelled, the other one comes back, and the task that is worked on is done. -/
def afterClosing : List Turn :=
  [.move (.ask (.advance (.ofSeconds 2))), .move (.ask (.publish (Session.mail 4))),
    .move (.ask .lease), .depart 1, .move (.look 2), .move (.ask (.ack ⟨Session.mail 2, 1⟩))]

/-- A task that is queued and one that is due are not handed out after the closing. -/
theorem closing_final_afterClosing :
    (start .default 0).Turns (turning.run (start .default 0) threeAtClosing) ∧
      (turning.run (start .default 0) threeAtClosing).consumers.numbers = [1, 2] ∧
      turning.AllowsAll ((turning.run (start .default 0) threeAtClosing).ask .close) afterClosing ∧
      (turning.run (start .default 0) threeAtClosing).Final afterClosing (turning.run
        ((turning.run (start .default 0) threeAtClosing).ask .close) afterClosing) := by
  have run := turning.leads_run (start .default 0) threeAtClosing (by decide +kernel)
  have allowed : turning.AllowsAll ((turning.run (start .default 0) threeAtClosing).ask .close)
      afterClosing := by decide +kernel
  exact ⟨run, by decide +kernel, allowed, closing_final run allowed⟩

end Hall

end ReminderDispatch
