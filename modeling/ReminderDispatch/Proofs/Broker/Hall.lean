import Mathlib.Data.List.Induction
import ReminderDispatch.Broker.Consumers
import ReminderDispatch.Proofs.Broker.Soundness

/-!
# Consumers that wait

A hall is a broker in use together with the consumers that wait for its tasks. Consumers that are
awake look for work in any order, each at any time after it woke; in between anything may be asked
of the broker. Seen without its consumers a hall is a session, in which a look of a consumer is a
request like any other.
-/

namespace ReminderDispatch

/-- A broker in use, with the consumers that wait for its tasks. -/
structure Hall where
  /-- The broker and the waiting consumers. -/
  consumers : Consumers
  /-- The time. -/
  now : Moment
  /-- The deliveries in the hands of consumers. -/
  held : List Delivery
  /-- What has happened, in order. -/
  history : List Event
  deriving DecidableEq, Repr

/-- What can happen in a hall. -/
inductive Move where
  /-- Something is asked of the broker by somebody who does not wait. -/
  | ask (request : Request)
  /-- A consumer comes to wait for a task. -/
  | join (number : Nat)
  /-- The alarm of a consumer goes off. -/
  | alarm (number : Nat)
  /-- The bell rings without a new task: a ring passes on whose consumer its alarm woke as well. -/
  | ring
  /-- A consumer that is awake looks for work. -/
  | look (number : Nat)
  deriving DecidableEq, Repr

namespace Consumers

/-- The numbers of the consumers that wait. -/
def numbers (consumers : Consumers) : List Nat := consumers.waiting.map (·.number)

/-- The consumers that listen for the bell, the longest first. -/
def row (consumers : Consumers) : List Nat := consumers.exchange.bell.listeners

/-- The broker for whose tasks the consumers wait. -/
def broker (consumers : Consumers) : Broker := consumers.exchange.broker

/-- One of the consumers that are awake is the next one to look. -/
def call (consumers : Consumers) (number : Nat) : Consumers :=
  { consumers with awake := number :: consumers.awake.erase number }

/-- The bell rings once. -/
def ring (consumers : Consumers) : Consumers :=
  consumers.after consumers.exchange.ring.2 consumers.exchange.ring.1.toList

/-- The broker has changed, and nobody noticed yet. -/
def serve (consumers : Consumers) (broker : Broker) : Consumers :=
  { consumers with exchange := { consumers.exchange with broker := broker } }

/-- A left-over ring is used up. -/
def hush (consumers : Consumers) : Consumers :=
  { consumers with exchange := { consumers.exchange with bell := consumers.exchange.bell.hush } }

/-- A consumer is neither waiting nor awake any more, and does not listen. -/
def leave (consumers : Consumers) (number : Nat) : Consumers where
  exchange := consumers.exchange.leave number
  waiting := consumers.waiting.filter fun consumer => consumer.number ≠ number
  awake := consumers.awake.erase number

/-- A consumer waits at the end of the row. -/
def wait (consumers : Consumers) (consumer : Consumer) : Consumers where
  exchange := { consumers.exchange with bell := consumers.exchange.bell.listen consumer.number }
  waiting := consumers.waiting ++ [consumer]
  awake := consumers.awake

end Consumers

namespace Hall

/-- A hall without tasks and consumers. -/
def start (policy : RetryPolicy) (now : Moment) : Hall := ⟨.new policy, now, [], []⟩

/-- A hall without its consumers. -/
def session (hall : Hall) : Session :=
  ⟨hall.consumers.broker, hall.now, hall.held, hall.history⟩

/-- Something happened. -/
def record (hall : Hall) (event : Event) : Hall :=
  { hall with history := hall.history ++ [event] }

/-- A delivery is no longer in hand. -/
def giveBack (hall : Hall) (delivery : Delivery) : Hall :=
  { hall with held := hall.held.erase delivery }

/-- A delivery was handed out. -/
def handOut (hall : Hall) (delivery : Delivery) : Hall :=
  { hall with held := hall.held ++ [delivery] }.record (.leased delivery)

/-- The hall after a request. -/
def ask (hall : Hall) : Request → Hall
  | .publish envelope =>
    match hall.consumers.publish hall.now envelope with
    | (.ok (), consumers) => { hall with consumers := consumers }.record (.accepted envelope)
    | (.error _, consumers) => { hall with consumers := consumers }
  | .lease =>
    match hall.consumers.glance hall.now with
    | (.leased delivery, consumers) => { hall with consumers := consumers }.handOut delivery
    | (.nothing _, consumers) | (.closed, consumers) => { hall with consumers := consumers }
  | .ack delivery =>
    match hall.consumers.ack delivery with
    | .ok consumers =>
      ({ hall with consumers := consumers }.giveBack delivery).record (.acked delivery)
    | .error _ => hall.giveBack delivery
  | .fail delivery error kind =>
    match hall.consumers.fail hall.now delivery error kind with
    | .ok (verdict, consumers) =>
      ({ hall with consumers := consumers }.giveBack delivery).record
        (.failed delivery error kind verdict)
    | .error _ => hall.giveBack delivery
  | .abandon delivery => hall.giveBack delivery
  | .close => { hall with consumers := hall.consumers.close }
  | .advance span => { hall with now := hall.now + span.nanos }

/-- The hall after a consumer has looked for work. -/
def look (hall : Hall) (number : Nat) : Hall :=
  match (hall.consumers.call number).step hall.now with
  | (some (_, some delivery), consumers) => { hall with consumers := consumers }.handOut delivery
  | (some (_, none), consumers) | (none, consumers) => { hall with consumers := consumers }

/-- The hall after a move. -/
def perform (hall : Hall) : Move → Hall
  | .ask request => hall.ask request
  | .join number => { hall with consumers := hall.consumers.join number }
  | .alarm number => { hall with consumers := hall.consumers.wake number }
  | .ring => { hall with consumers := hall.consumers.ring }
  | .look number => hall.look number

/-- Numbers are not used twice, alarms go off at or after their times, and only consumers that are
awake look for work. -/
def Allows (hall : Hall) : Move → Prop
  | .ask request => hall.session.Allows request
  | .join number => number ∉ hall.consumers.numbers ∧ number ∉ hall.consumers.awake
  | .alarm number => number ∈ hall.consumers.alarmed hall.now
  | .ring => True
  | .look number => number ∈ hall.consumers.awake

instance (hall : Hall) (move : Move) : Decidable (hall.Allows move) :=
  match move with
  | .ask request => inferInstanceAs (Decidable (hall.session.Allows request))
  | .join number => inferInstanceAs
      (Decidable (number ∉ hall.consumers.numbers ∧ number ∉ hall.consumers.awake))
  | .alarm number => inferInstanceAs (Decidable (number ∈ hall.consumers.alarmed hall.now))
  | .ring => .isTrue trivial
  | .look number => inferInstanceAs (Decidable (number ∈ hall.consumers.awake))

/-- Halls and what can happen in them. -/
def machine : Machine Hall Move := ⟨Allows, perform⟩

instance (hall : Hall) (move : Move) : Decidable (machine.Allows hall move) :=
  inferInstanceAs (Decidable (hall.Allows move))

/-- A hall after one move that it allows. -/
def Step (before after : Hall) : Prop := machine.Step before after

/-- A hall after any number of moves. -/
def Leads (before after : Hall) : Prop := machine.Leads before after

/-- The hall after a list of moves. -/
def run (hall : Hall) (moves : List Move) : Hall := machine.run hall moves

end Hall

/-! ## Waking -/

namespace Consumers

variable {consumers : Consumers} {exchange : Exchange} {number : Nat} {woken : List Nat}

/-- Waking a consumer changes nothing but who is awake. -/
theorem wake_frame (consumers : Consumers) (number : Nat) :
    consumers.wake number = { consumers with awake := (consumers.wake number).awake } := by
  unfold wake
  split <;> rfl

/-- A consumer that wakes is awake, and so are all who were. -/
theorem mem_wake {other : Nat} :
    other ∈ (consumers.wake number).awake ↔ other ∈ consumers.awake ∨ other = number := by
  unfold wake
  split
  · rename_i isAwake
    constructor
    · exact .inl
    · rintro (early | rfl)
      · exact early
      · exact isAwake
  · simp

/-- When the exchange changes and consumers wake, the waiting consumers stay. -/
theorem after_frame (consumers : Consumers) (exchange : Exchange) (woken : List Nat) :
    consumers.after exchange woken =
      ⟨exchange, consumers.waiting, (consumers.after exchange woken).awake⟩ := by
  unfold after
  induction woken using List.reverseRecOn with
  | nil => rfl
  | append_singleton woken last ih =>
    rw [List.foldl_append, List.foldl_cons, List.foldl_nil, wake_frame, ih]

/-- The consumers that were woken are awake, and so are all who were. -/
theorem mem_after {other : Nat} :
    other ∈ (consumers.after exchange woken).awake ↔ other ∈ consumers.awake ∨ other ∈ woken := by
  unfold after
  induction woken using List.reverseRecOn with
  | nil => simp
  | append_singleton woken last ih =>
    rw [List.foldl_append, List.foldl_cons, List.foldl_nil, mem_wake, ih, List.mem_append,
      List.mem_singleton, or_assoc]

/-! ## Requests -/

/-- Ringing the bell leaves the broker as it is. -/
theorem broker_ring (consumers : Consumers) : consumers.ring.broker = consumers.broker := by
  unfold ring broker
  rw [after_frame]
  rfl

/-- A task that is published rings the bell. -/
theorem publish_eq {now : Moment} {envelope : Envelope} {broker : Broker}
    (published : consumers.broker.publish now envelope = (.ok (), broker)) :
    consumers.publish now envelope = (.ok (), (consumers.serve broker).ring) := by
  unfold Consumers.broker at published
  simp only [publish, Exchange.publish, published]
  rfl

/-- A task that is refused changes nothing. -/
theorem publish_error {now : Moment} {envelope : Envelope} {failure : BrokerError}
    (refused : consumers.broker.publish now envelope = (.error failure, consumers.broker)) :
    consumers.publish now envelope = (.error failure, consumers) := by
  unfold Consumers.broker at refused
  simp only [publish, Exchange.publish, refused]

/-- A look for work by somebody who does not wait uses up a left-over ring. -/
theorem glance_eq (consumers : Consumers) (now : Moment) :
    consumers.glance now = ((consumers.broker.lease now).1,
      (consumers.serve (consumers.broker.lease now).2).hush) := rfl

/-- An acknowledgement concerns the broker only. -/
theorem ack_eq (consumers : Consumers) (delivery : Delivery) :
    consumers.ack delivery = (consumers.broker.ack delivery).map consumers.serve := by
  unfold ack Exchange.ack broker
  cases consumers.exchange.broker.ack delivery <;> rfl

/-- A task that is scheduled for another attempt rings the bell. -/
theorem fail_eq_retry {now : Moment} {delivery : Delivery} {error : String} {kind : FailureKind}
    {delay : Duration} {broker : Broker}
    (failed : consumers.broker.fail now delivery error kind = .ok (.retryScheduled delay, broker)) :
    consumers.fail now delivery error kind =
      .ok (.retryScheduled delay, (consumers.serve broker).ring) := by
  unfold Consumers.broker at failed
  simp only [fail, Exchange.fail, failed, bind, Except.bind]
  rfl

/-- A task that is given up wakes nobody. -/
theorem fail_eq_dead {now : Moment} {delivery : Delivery} {error : String} {kind : FailureKind}
    {broker : Broker}
    (failed : consumers.broker.fail now delivery error kind = .ok (.deadLettered, broker)) :
    consumers.fail now delivery error kind = .ok (.deadLettered, consumers.serve broker) := by
  unfold Consumers.broker at failed
  simp only [fail, Exchange.fail, failed, bind, Except.bind]
  rfl

/-- A delivery of an unknown task changes nothing. -/
theorem fail_error {now : Moment} {delivery : Delivery} {error : String} {kind : FailureKind}
    {failure : BrokerError}
    (failed : consumers.broker.fail now delivery error kind = .error failure) :
    consumers.fail now delivery error kind = .error failure := by
  unfold Consumers.broker at failed
  simp only [fail, Exchange.fail, failed, bind, Except.bind]

/-- Closing closes the broker, whoever wakes. -/
theorem broker_close (consumers : Consumers) : consumers.close.broker = consumers.broker.close := by
  change (consumers.after _ _).exchange.broker = _
  rw [after_frame]
  rfl

/-- What a consumer does that is called: it leaves, and waits again if it found nothing. -/
theorem step_call (consumers : Consumers) (now : Moment) (number : Nat) :
    (consumers.call number).step now =
      match consumers.broker.lease now with
      | (.closed, broker) => (some (number, none), ((consumers.leave number).serve broker).hush)
      | (.leased delivery, broker) =>
        (some (number, some delivery), ((consumers.leave number).serve broker).hush)
      | (.nothing alarm, broker) =>
        (none, (((consumers.leave number).serve broker).hush).wait ⟨number, alarm⟩) := by
  unfold step call Exchange.look broker
  rcases consumers.exchange.broker.lease now with ⟨found, broker⟩
  cases found <;> rfl

end Consumers

/-! ## Halls as sessions -/

namespace Hall

variable {hall before after : Hall}

/-- A request to a hall is one to its session. -/
theorem session_ask (hall : Hall) (request : Request) :
    (hall.ask request).session = hall.session.perform request := by
  cases request with
  | publish envelope =>
    rcases hall.consumers.broker.publish_cases hall.now envelope with
      ⟨broker, published⟩ | refused
    · simp only [ask, Consumers.publish_eq published, Session.perform, session, published]
      rw [record, Consumers.broker_ring]
      rfl
    · simp only [ask, Consumers.publish_error refused, Session.perform, session, refused]
  | lease =>
    simp only [ask, Consumers.glance_eq, Session.perform, session]
    rcases hall.consumers.broker.lease hall.now with ⟨found, broker⟩
    cases found <;> rfl
  | ack delivery =>
    simp only [ask, Consumers.ack_eq, Session.perform, session]
    cases hall.consumers.broker.ack delivery <;> rfl
  | fail delivery error kind =>
    cases failed : hall.consumers.broker.fail hall.now delivery error kind with
    | ok outcome =>
      obtain ⟨verdict, broker⟩ := outcome
      cases verdict with
      | retryScheduled delay =>
        simp only [ask, Consumers.fail_eq_retry failed, Session.perform, session, failed]
        rw [record, giveBack, Consumers.broker_ring]
        rfl
      | deadLettered =>
        simp only [ask, Consumers.fail_eq_dead failed, Session.perform, session, failed]
        rfl
    | error failure =>
      simp only [ask, Consumers.fail_error failed, Session.perform, session, failed]
      rfl
  | abandon delivery => rfl
  | close =>
    simp only [ask, Session.perform, session]
    rw [Consumers.broker_close]
  | advance span => rfl

/-- A look of a consumer is a look for work in the session. -/
theorem session_look (hall : Hall) (number : Nat) :
    (hall.look number).session = hall.session.perform .lease := by
  simp only [look, Consumers.step_call, Session.perform, session]
  rcases hall.consumers.broker.lease hall.now with ⟨found, broker⟩
  cases found <;> rfl

/-- A move in a hall is at most one request in the session. -/
theorem Step.session (step : before.Step after) : before.session.Leads after.session := by
  obtain ⟨move, allowed, rfl⟩ := step
  change before.session.Leads (before.perform move).session
  cases move with
  | ask request => exact .single ⟨request, allowed, (session_ask before request).symm⟩
  | look number => exact .single ⟨.lease, trivial, (session_look before number).symm⟩
  | join number | alarm number =>
    have same : { before with consumers := before.consumers.wake number }.session =
        before.session := by
      unfold Hall.session Consumers.broker
      rw [Consumers.wake_frame]
    exact same ▸ .refl
  | ring =>
    have same : (before.perform .ring).session = before.session := by
      unfold perform Hall.session
      rw [Consumers.broker_ring]
    exact same ▸ .refl

end Hall

end ReminderDispatch
