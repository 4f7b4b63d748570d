import ReminderDispatch.Proofs.Broker.Departures

/-!
# What the past does not decide

No answer of a broker depends on the tasks that it has given up, nor on what has happened before.
Two halls that differ in nothing else cannot be told apart by anything that is asked later: each
answer is the same, and so is all that can be seen of the tasks.
-/

namespace ReminderDispatch

/-! ## Earlier dead letters -/

namespace Broker

variable {letters : List DeadLetter}

/-- The broker with letters of tasks that were given up before all others. -/
def behind (broker : Broker) (letters : List DeadLetter) : Broker :=
  { broker with deadLetters := letters ++ broker.deadLetters }

/-- The broker without its dead letters. -/
def bare (broker : Broker) : Broker := { broker with deadLetters := [] }

/-- A broker consists of its dead letters and the rest. -/
theorem bare_behind (broker : Broker) : broker.bare.behind broker.deadLetters = broker := by
  unfold behind bare
  rw [List.append_nil]

/-- Dead letters have no records. -/
@[simp] theorem find?_behind (broker : Broker) (letters : List DeadLetter) :
    (broker.behind letters).find? = broker.find? := rfl

/-- A broker is closed regardless of its dead letters. -/
@[simp] theorem closed_behind (broker : Broker) (letters : List DeadLetter) :
    (broker.behind letters).closed = broker.closed := rfl

/-- Dead letters are not in the line. -/
@[simp] theorem ready_behind (broker : Broker) (letters : List DeadLetter) :
    (broker.behind letters).ready = broker.ready := rfl

/-- Publication does not depend on dead letters. -/
theorem publish_behind (broker : Broker) (now : Moment) (envelope : Envelope) :
    (broker.behind letters).publish now envelope =
      ((broker.publish now envelope).1, (broker.publish now envelope).2.behind letters) := by
  unfold publish
  rw [closed_behind]
  split <;> rfl

/-- The admission of a task does not depend on dead letters. -/
theorem admitTask_behind (now : Moment) (broker : Broker) (task : PendingRetry) :
    admitTask now (broker.behind letters) task = (admitTask now broker task).behind letters := by
  unfold admitTask
  rw [find?_behind]
  split
  · split <;> rfl
  · rfl

/-- Which tasks join the line does not depend on dead letters. -/
theorem promote_behind (broker : Broker) (now : Moment) :
    (broker.behind letters).promote now = (broker.promote now).behind letters := by
  change (broker.dueTasks now).foldl (admitTask now)
    (behind { broker with scheduled := broker.laterTasks now } letters) = _
  exact List.foldl_hom (·.behind letters) fun earlier task => admitTask_behind now earlier task

/-- A look for work does not depend on dead letters. -/
theorem lease_behind (broker : Broker) (now : Moment) :
    (broker.behind letters).lease now =
      ((broker.lease now).1, (broker.lease now).2.behind letters) := by
  unfold lease
  rw [closed_behind, promote_behind]
  split
  · rfl
  · simp only [ready_behind]
    cases (broker.promote now).ready with
    | nil => rfl
    | cons id line =>
      have same : { (broker.promote now).behind letters with ready := line }.find? id =
          { broker.promote now with ready := line }.find? id := rfl
      simp only [same]
      cases { broker.promote now with ready := line }.find? id <;> rfl

/-- An acknowledgement does not depend on dead letters. -/
theorem ack_behind (broker : Broker) (delivery : Delivery) :
    (broker.behind letters).ack delivery = (broker.ack delivery).map (·.behind letters) := by
  unfold ack
  rw [find?_behind]
  split <;> rfl

/-- The letter of a task that is given up comes behind all earlier ones. -/
theorem givenUp_behind (broker : Broker) (letter : DeadLetter) :
    (broker.behind letters).givenUp letter = (broker.givenUp letter).behind letters := by
  unfold givenUp behind
  rw [← List.append_assoc]
  rfl

/-- What becomes of a failed task does not depend on dead letters; a further one comes after
them. -/
theorem fail_behind (broker : Broker) (now : Moment) (delivery : Delivery) (error : String)
    (kind : FailureKind) :
    (broker.behind letters).fail now delivery error kind =
      (broker.fail now delivery error kind).map (Prod.map id (·.behind letters)) := by
  cases found : broker.find? delivery.id with
  | none =>
    unfold fail
    rw [find?_behind, found]
    rfl
  | some record =>
    have foundBehind : (broker.behind letters).find? delivery.id = some record := found
    by_cases last : broker.IsLast record kind
    · have lastBehind : (broker.behind letters).IsLast record kind := last
      rw [fail_eq_dead found last, fail_eq_dead foundBehind lastBehind, givenUp_behind]
      rfl
    · have goesOn : ¬ (broker.behind letters).IsLast record kind := last
      rw [fail_eq_retry found last, fail_eq_retry foundBehind goesOn]
      rfl

end Broker

namespace Exchange

/-- The exchange whose broker has letters of tasks that were given up before all others. -/
def behind (exchange : Exchange) (letters : List DeadLetter) : Exchange :=
  { exchange with broker := exchange.broker.behind letters }

/-- Who hears of a departure does not depend on dead letters. -/
theorem cancel_behind (exchange : Exchange) (letters : List DeadLetter) (number : Nat) :
    (exchange.behind letters).cancel number =
      ((exchange.cancel number).1, (exchange.cancel number).2.behind letters) := by
  unfold cancel
  change (if number ∈ exchange.bell.listeners then _ else _) = _
  split <;> rfl

end Exchange

namespace Consumers

variable {letters : List DeadLetter}

/-- The consumers of a broker with letters of tasks that were given up before all others. -/
def behind (consumers : Consumers) (letters : List DeadLetter) : Consumers :=
  { consumers with exchange := consumers.exchange.behind letters }

/-- Who wakes does not depend on the broker. -/
theorem wake_behind (consumers : Consumers) (number : Nat) :
    (consumers.behind letters).wake number = (consumers.wake number).behind letters := by
  unfold wake
  change (if number ∈ consumers.awake then _ else _) = _
  split <;> rfl

/-- Who wakes at a change of the exchange does not depend on dead letters. -/
theorem after_behind (consumers : Consumers) (exchange : Exchange) (woken : List Nat) :
    consumers.after (exchange.behind letters) woken =
      (consumers.after exchange woken).behind letters := by
  change woken.foldl wake (behind { consumers with exchange := exchange } letters) = _
  exact List.foldl_hom (·.behind letters) fun earlier number => wake_behind earlier number

/-- A ring does not depend on dead letters. -/
theorem ring_behind (consumers : Consumers) :
    (consumers.behind letters).ring = consumers.ring.behind letters :=
  after_behind consumers consumers.exchange.ring.2 consumers.exchange.ring.1.toList

/-- Publication to consumers does not depend on dead letters. -/
theorem publish_behind (consumers : Consumers) (now : Moment) (envelope : Envelope) :
    (consumers.behind letters).publish now envelope =
      ((consumers.publish now envelope).1, (consumers.publish now envelope).2.behind letters) := by
  have asked : (consumers.behind letters).broker.publish now envelope = _ :=
    Broker.publish_behind consumers.broker now envelope
  rcases consumers.broker.publish_cases now envelope with ⟨broker, published⟩ | refused
  · rw [published] at asked
    rw [publish_eq published, publish_eq asked]
    exact congrArg (Prod.mk _) (ring_behind (consumers.serve broker))
  · rw [refused] at asked
    rw [publish_error refused, publish_error asked]

/-- What somebody finds who does not wait does not depend on dead letters. -/
theorem glance_behind (consumers : Consumers) (now : Moment) :
    (consumers.behind letters).glance now =
      ((consumers.glance now).1, (consumers.glance now).2.behind letters) := by
  have looked : (consumers.behind letters).broker.lease now = _ :=
    Broker.lease_behind consumers.broker now
  rw [glance_eq, glance_eq, looked]
  rfl

/-- An acknowledgement does not depend on dead letters. -/
theorem ack_behind (consumers : Consumers) (delivery : Delivery) :
    (consumers.behind letters).ack delivery =
      (consumers.ack delivery).map (·.behind letters) := by
  have asked : (consumers.behind letters).broker.ack delivery = _ :=
    Broker.ack_behind consumers.broker delivery
  rw [ack_eq, ack_eq, asked]
  cases consumers.broker.ack delivery <;> rfl

/-- What becomes of a failed task does not depend on dead letters. -/
theorem fail_behind (consumers : Consumers) (now : Moment) (delivery : Delivery) (error : String)
    (kind : FailureKind) :
    (consumers.behind letters).fail now delivery error kind =
      (consumers.fail now delivery error kind).map (Prod.map id (·.behind letters)) := by
  have asked : (consumers.behind letters).broker.fail now delivery error kind = _ :=
    Broker.fail_behind consumers.broker now delivery error kind
  cases failed : consumers.broker.fail now delivery error kind with
  | ok outcome =>
    obtain ⟨verdict, broker⟩ := outcome
    rw [failed] at asked
    cases verdict with
    | retryScheduled delay =>
      rw [fail_eq_retry failed, fail_eq_retry asked]
      exact congrArg Except.ok (congrArg (Prod.mk _) (ring_behind (consumers.serve broker)))
    | deadLettered =>
      rw [fail_eq_dead failed, fail_eq_dead asked]
      rfl
  | error failure =>
    rw [failed] at asked
    rw [fail_error failed, fail_error asked]
    rfl

/-- Closing does not depend on dead letters. -/
theorem close_behind (consumers : Consumers) :
    (consumers.behind letters).close = consumers.close.behind letters :=
  after_behind consumers consumers.exchange.close.2 consumers.exchange.close.1

/-- A departure does not depend on dead letters. -/
theorem cancel_behind (consumers : Consumers) (number : Nat) :
    (consumers.behind letters).cancel number = (consumers.cancel number).behind letters := by
  unfold cancel
  change (if consumers.waiting.any (·.number == number) then _ else _) = _
  split
  · have cancelled : (consumers.behind letters).exchange.cancel number = _ :=
      Exchange.cancel_behind consumers.exchange letters number
    rw [cancelled]
    exact after_behind _ _ _
  · rfl

/-- What a consumer finds does not depend on dead letters. -/
theorem step_call_behind (consumers : Consumers) (now : Moment) (number : Nat) :
    ((consumers.behind letters).call number).step now =
      (((consumers.call number).step now).1,
        ((consumers.call number).step now).2.behind letters) := by
  have looked : (consumers.behind letters).broker.lease now = _ :=
    Broker.lease_behind consumers.broker now
  rw [step_call, step_call, looked]
  rcases consumers.broker.lease now with ⟨found, broker⟩
  cases found <;> rfl

end Consumers

/-! ## Earlier events -/

namespace Hall

variable {letters others : List DeadLetter} {events earlier : List Event}

/-- The letters of the tasks that were given up. -/
def deadLetters (hall : Hall) : List DeadLetter := hall.consumers.broker.deadLetters

/-- The hall in which tasks were given up and things have happened before all else. -/
def behind (hall : Hall) (letters : List DeadLetter) (events : List Event) : Hall :=
  { hall with consumers := hall.consumers.behind letters, history := events ++ hall.history }

/-- The hall without its dead letters and its history. -/
def bare (hall : Hall) : Hall :=
  { hall with consumers := hall.consumers.serve hall.consumers.broker.bare, history := [] }

/-- A hall consists of its dead letters, its history and the rest. -/
theorem bare_behind (hall : Hall) : hall.bare.behind hall.deadLetters hall.history = hall := by
  have broker := Broker.bare_behind hall.consumers.broker
  have history := List.append_nil hall.history
  change { hall with
    consumers := hall.consumers.serve
      (hall.consumers.broker.bare.behind hall.consumers.broker.deadLetters)
    history := hall.history ++ [] } = hall
  rw [broker, history]
  rfl

/-- An event is recorded behind all earlier ones. -/
theorem record_behind (hall : Hall) (event : Event) :
    (hall.behind letters events).record event = (hall.record event).behind letters events := by
  unfold record behind
  simp only [List.append_assoc]

/-- A delivery is handed out behind all earlier events. -/
theorem handOut_behind (hall : Hall) (delivery : Delivery) :
    (hall.behind letters events).handOut delivery =
      (hall.handOut delivery).behind letters events :=
  record_behind { hall with held := hall.held ++ [delivery] } (.leased delivery)

/-- A request does not depend on what was before. -/
theorem ask_behind (hall : Hall) (request : Request) :
    (hall.behind letters events).ask request = (hall.ask request).behind letters events := by
  have now : (hall.behind letters events).now = hall.now := rfl
  have consumers : (hall.behind letters events).consumers = hall.consumers.behind letters := rfl
  cases request with
  | publish envelope =>
    simp only [ask, now, consumers, Consumers.publish_behind]
    rcases hall.consumers.publish hall.now envelope with ⟨failure | ⟨⟩, consumers⟩
    · rfl
    · exact record_behind { hall with consumers := consumers } (.accepted envelope)
  | lease =>
    simp only [ask, now, consumers, Consumers.glance_behind]
    rcases hall.consumers.glance hall.now with ⟨found, consumers⟩
    cases found with
    | leased delivery => exact handOut_behind { hall with consumers := consumers } delivery
    | nothing | closed => rfl
  | ack delivery =>
    simp only [ask, now, consumers, Consumers.ack_behind]
    cases hall.consumers.ack delivery with
    | ok consumers =>
      exact record_behind ({ hall with consumers := consumers }.giveBack delivery) (.acked delivery)
    | error failure => rfl
  | fail delivery error kind =>
    simp only [ask, now, consumers, Consumers.fail_behind]
    cases hall.consumers.fail hall.now delivery error kind with
    | ok outcome =>
      exact record_behind ({ hall with consumers := outcome.2 }.giveBack delivery)
        (.failed delivery error kind outcome.1)
    | error failure => rfl
  | abandon delivery => rfl
  | close =>
    simp only [ask, consumers, Consumers.close_behind]
    rfl
  | advance span => rfl

/-- A consumer's look does not depend on what was before. -/
theorem look_behind (hall : Hall) (number : Nat) :
    (hall.behind letters events).look number = (hall.look number).behind letters events := by
  have now : (hall.behind letters events).now = hall.now := rfl
  have consumers : (hall.behind letters events).consumers = hall.consumers.behind letters := rfl
  simp only [look, now, consumers, Consumers.step_call_behind]
  rcases (hall.consumers.call number).step hall.now with ⟨found, consumers⟩
  rcases found with _ | ⟨caller, _ | delivery⟩
  · rfl
  · rfl
  · exact handOut_behind { hall with consumers := consumers } delivery

/-- A turn does not depend on what was before. -/
theorem turn_behind (hall : Hall) (turn : Turn) :
    (hall.behind letters events).turn turn = (hall.turn turn).behind letters events := by
  cases turn with
  | depart number =>
    exact congrArg (Hall.mk · hall.now hall.held (events ++ hall.history))
      (Consumers.cancel_behind hall.consumers number)
  | move move =>
    cases move with
    | ask request => exact ask_behind hall request
    | join number | alarm number =>
      exact congrArg (Hall.mk · hall.now hall.held (events ++ hall.history))
        (Consumers.wake_behind hall.consumers number)
    | ring =>
      exact congrArg (Hall.mk · hall.now hall.held (events ++ hall.history))
        (Consumers.ring_behind hall.consumers)
    | look number => exact look_behind hall number

/-- A run does not depend on what was before. -/
theorem run_behind (hall : Hall) (turns : List Turn) :
    turning.run (hall.behind letters events) turns =
      (turning.run hall turns).behind letters events := by
  exact List.foldl_hom (·.behind letters events) fun earlier turn => turn_behind earlier turn

end Hall

/-! ## Answers -/

/-- What is answered in a hall. -/
inductive Answer where
  /-- A task was accepted or refused. -/
  | published (outcome : Except BrokerError Unit)
  /-- Somebody who does not wait has looked for work. -/
  | found (outcome : LeaseOutcome)
  /-- A task was acknowledged or unknown. -/
  | acked (outcome : Except BrokerError Unit)
  /-- What becomes of a failed task. -/
  | failed (outcome : Except BrokerError Verdict)
  /-- A consumer has looked for work, and comes back or waits. -/
  | looked (outcome : Option (Nat × Option Delivery))
  /-- There is no answer. -/
  | nothing

/-- What can be seen of a hall, but for the dead letters themselves. -/
structure View where
  /-- What is going on with each task. -/
  state? : TaskId → Option TaskState
  /-- The attempts of each task. -/
  attempts? : TaskId → Option Nat
  /-- The tasks that are not settled. -/
  envelopes : List Envelope
  /-- How many tasks are in each state. -/
  counts : Broker.Counts
  /-- The deliveries in hand. -/
  held : List Delivery
  /-- The consumers that wait. -/
  waiting : List Consumer
  /-- The consumers that are awake. -/
  awake : List Nat

namespace Hall

variable {hall left right : Hall} {letters others : List DeadLetter} {events earlier : List Event}

/-- The answer to a request. -/
def reply (hall : Hall) : Request → Answer
  | .publish envelope => .published (hall.consumers.publish hall.now envelope).1
  | .lease => .found (hall.consumers.glance hall.now).1
  | .ack delivery => .acked ((hall.consumers.ack delivery).map fun _ => ())
  | .fail delivery error kind =>
    .failed ((hall.consumers.fail hall.now delivery error kind).map (·.1))
  | .abandon _ | .close | .advance _ => .nothing

/-- The answer to a turn. -/
def answer (hall : Hall) : Turn → Answer
  | .move (.ask request) => hall.reply request
  | .move (.look number) => .looked ((hall.consumers.call number).step hall.now).1
  | .move (.join _) | .move (.alarm _) | .move .ring | .depart _ => .nothing

/-- What can be seen of the hall. -/
def view (hall : Hall) : View where
  state? := hall.consumers.broker.state?
  attempts? := hall.consumers.broker.attempts?
  envelopes := hall.consumers.broker.envelopes
  counts := hall.consumers.broker.counts
  held := hall.held
  waiting := hall.consumers.waiting
  awake := hall.consumers.awake

/-- What is answered to a list of turns, and what can be seen after each of them. -/
def watch (hall : Hall) : List Turn → List (Answer × View)
  | [] => []
  | turn :: more => (hall.answer turn, (hall.turn turn).view) :: (hall.turn turn).watch more

/-- No list of turns can tell two halls apart. The letters of the tasks that are given up later come
behind those that each hall has. -/
structure Alike (left right : Hall) : Prop where
  /-- The same can be seen at first. -/
  view_eq : left.view = right.view
  /-- The answers are the same, and so is what can be seen after each of them. -/
  watch_eq : ∀ turns, left.watch turns = right.watch turns
  /-- The same turns may be taken. -/
  allows_iff : ∀ turns, turning.AllowsAll left turns ↔ turning.AllowsAll right turns
  /-- The same letters are added. -/
  letters : ∀ turns, ∃ more,
    (turning.run left turns).deadLetters = left.deadLetters ++ more ∧
      (turning.run right turns).deadLetters = right.deadLetters ++ more

/-- No answer to a request depends on what was before. -/
theorem reply_behind (hall : Hall) (request : Request) :
    (hall.behind letters events).reply request = hall.reply request := by
  have now : (hall.behind letters events).now = hall.now := rfl
  have consumers : (hall.behind letters events).consumers = hall.consumers.behind letters := rfl
  cases request with
  | publish envelope => simp only [reply, now, consumers, Consumers.publish_behind]
  | lease => simp only [reply, now, consumers, Consumers.glance_behind]
  | ack delivery =>
    simp only [reply, consumers, Consumers.ack_behind]
    cases hall.consumers.ack delivery <;> rfl
  | fail delivery error kind =>
    simp only [reply, now, consumers, Consumers.fail_behind]
    cases hall.consumers.fail hall.now delivery error kind <;> rfl
  | abandon delivery => rfl
  | close => rfl
  | advance span => rfl

/-- No answer depends on what was before. -/
theorem answer_behind (hall : Hall) (turn : Turn) :
    (hall.behind letters events).answer turn = hall.answer turn := by
  have now : (hall.behind letters events).now = hall.now := rfl
  have consumers : (hall.behind letters events).consumers = hall.consumers.behind letters := rfl
  cases turn with
  | depart number => rfl
  | move move =>
    cases move with
    | ask request => exact reply_behind hall request
    | look number => simp only [answer, now, consumers, Consumers.step_call_behind]
    | join number | alarm number | ring => rfl

/-- Of what was before, only the number of dead letters can be seen. -/
theorem view_behind (hall : Hall) (length : letters.length = others.length) :
    (hall.behind letters events).view = (hall.behind others earlier).view := by
  have dead : (letters ++ hall.deadLetters).length = (others ++ hall.deadLetters).length := by
    rw [List.length_append, List.length_append, length]
  have counts : (hall.behind letters events).consumers.broker.counts =
      (hall.behind others earlier).consumers.broker.counts := by
    change Broker.Counts.mk _ _ _ _ _ = Broker.Counts.mk _ _ _ _ _
    exact congrArg (Broker.Counts.mk _ _ _ _) dead
  change View.mk _ _ _ _ _ _ _ = View.mk _ _ _ _ _ _ _
  rw [counts]
  rfl

/-- Nobody who watches can tell what was before. -/
theorem watch_behind (hall : Hall) (length : letters.length = others.length) (turns : List Turn) :
    (hall.behind letters events).watch turns = (hall.behind others earlier).watch turns := by
  induction turns generalizing hall with
  | nil => rfl
  | cons turn more ih =>
    simp only [watch, turn_behind, answer_behind]
    rw [view_behind (hall.turn turn) length, ih (hall.turn turn)]

/-- Which turn may be taken depends on the tasks that were accepted before, and on nothing else. -/
theorem allowsTurn_behind (hall : Hall)
    (accepted : events.filterMap (·.accepted?) = earlier.filterMap (·.accepted?)) (turn : Turn) :
    turning.Allows (hall.behind letters events) turn ↔
      turning.Allows (hall.behind others earlier) turn := by
  have same : (hall.behind letters events).session.accepted =
      (hall.behind others earlier).session.accepted := by
    change (events ++ hall.history).filterMap _ = (earlier ++ hall.history).filterMap _
    rw [List.filterMap_append, List.filterMap_append, accepted]
  cases turn with
  | depart number => exact .rfl
  | move move =>
    cases move with
    | ask request =>
      cases request with
      | publish envelope =>
        change envelope.id ∉ (hall.behind letters events).session.accepted.map (·.id) ↔ _
        rw [same]
        rfl
      | lease | ack delivery | fail delivery error kind | abandon delivery | close
      | advance span => exact .rfl
    | join number | alarm number | ring | look number => exact .rfl

/-- Which turns may be taken depends on the tasks that were accepted before, and on nothing else. -/
theorem allowsAll_behind (hall : Hall)
    (accepted : events.filterMap (·.accepted?) = earlier.filterMap (·.accepted?))
    (turns : List Turn) :
    turning.AllowsAll (hall.behind letters events) turns ↔
      turning.AllowsAll (hall.behind others earlier) turns := by
  induction turns generalizing hall with
  | nil => exact .rfl
  | cons turn more ih =>
    have later := ih (hall.turn turn)
    rw [← turn_behind, ← turn_behind] at later
    exact and_congr (allowsTurn_behind hall accepted turn) later

/-- Halls that differ in their history and their dead letters only are alike, if the same tasks were
accepted and as many were given up. -/
theorem alike_of_bare (same : left.bare = right.bare)
    (accepted : left.session.accepted = right.session.accepted)
    (length : left.deadLetters.length = right.deadLetters.length) : left.Alike right := by
  have isLeft := bare_behind left
  have isRight := bare_behind right
  rw [← same] at isRight
  refine ⟨?_, fun turns => ?_, fun turns => ?_, fun turns =>
    ⟨(turning.run left.bare turns).deadLetters, ?_, ?_⟩⟩
  · rw [← isLeft, ← isRight]
    exact view_behind left.bare length
  · rw [← isLeft, ← isRight]
    exact watch_behind left.bare length turns
  · rw [← isLeft, ← isRight]
    exact allowsAll_behind left.bare accepted turns
  · have run : turning.run (left.bare.behind left.deadLetters left.history) turns = _ :=
      run_behind left.bare turns
    rw [isLeft] at run
    rw [run]
    rfl
  · have run : turning.run (left.bare.behind right.deadLetters right.history) turns = _ :=
      run_behind left.bare turns
    rw [isRight] at run
    rw [run]
    rfl

end Hall

end ReminderDispatch
