import ReminderDispatch.Broker.Basic
import ReminderDispatch.Broker.Bell

/-!
# Brokers with waiting consumers

A broker together with the bell for which consumers without work listen. Every published task and
every scheduled attempt rings the bell once, and closing rings it for all. A consumer that wakes
looks for work; if there is none, it listens again at the end of the row, and sets an alarm for the
time at which the earliest scheduled task is due.
-/

namespace ReminderDispatch

/-- A broker and its bell. -/
structure Exchange where
  /-- The broker. -/
  broker : Broker
  /-- The bell for which consumers listen. -/
  bell : Bell
  deriving DecidableEq, Repr

/-- What comes of a consumer's look for work. -/
inductive Look where
  /-- The broker is closed; the consumer comes back without a task. -/
  | closed
  /-- The consumer comes back with a task. -/
  | leased (delivery : Delivery)
  /-- The consumer listens, with an alarm at the given time. -/
  | waits (alarm : Option Moment)
  deriving DecidableEq, Repr

namespace Exchange

/-- A broker without tasks and consumers. -/
def new (policy : RetryPolicy) : Exchange := ⟨.new policy, .silent⟩

/-- Ring the bell once. -/
def ring (exchange : Exchange) : Option Nat × Exchange :=
  let (woken, bell) := exchange.bell.ring
  (woken, { exchange with bell := bell })

/-- Publish a task: the consumer that wakes. -/
def publish (exchange : Exchange) (now : Moment) (envelope : Envelope) :
    Except BrokerError (Option Nat) × Exchange :=
  let (outcome, broker) := exchange.broker.publish now envelope
  let served := { exchange with broker := broker }
  match outcome with
  | .ok () =>
    let (woken, rung) := served.ring
    (.ok woken, rung)
  | .error failure => (.error failure, served)

/-- A consumer looks for work. It does not listen while it looks, and a left-over ring is used up
by the look. -/
def look (exchange : Exchange) (now : Moment) (consumer : Nat) : Look × Exchange :=
  let bell := (exchange.bell.leave consumer).hush
  match exchange.broker.lease now with
  | (.closed, broker) => (.closed, ⟨broker, bell⟩)
  | (.leased delivery, broker) => (.leased delivery, ⟨broker, bell⟩)
  | (.nothing nextDue, broker) => (.waits nextDue, ⟨broker, bell.listen consumer⟩)

/-- A look for work by a consumer that does not wait. -/
def glance (exchange : Exchange) (now : Moment) : LeaseOutcome × Exchange :=
  let (found, broker) := exchange.broker.lease now
  (found, ⟨broker, exchange.bell.hush⟩)

/-- A listening consumer goes away. -/
def leave (exchange : Exchange) (consumer : Nat) : Exchange :=
  { exchange with bell := exchange.bell.leave consumer }

/-- A consumer that waits for a task is cancelled. If the bell has rung for it already, the ring
goes to the next consumer. -/
def cancel (exchange : Exchange) (consumer : Nat) : Option Nat × Exchange :=
  if consumer ∈ exchange.bell.listeners then (none, exchange.leave consumer) else exchange.ring

/-- A task is done. -/
def ack (exchange : Exchange) (delivery : Delivery) : Except BrokerError Exchange := do
  .ok { exchange with broker := ← exchange.broker.ack delivery }

/-- An attempt failed: what becomes of the task, and the consumer that wakes. -/
def fail (exchange : Exchange) (now : Moment) (delivery : Delivery) (error : String)
    (kind : FailureKind) : Except BrokerError (Verdict × Option Nat × Exchange) := do
  let (outcome, broker) ← exchange.broker.fail now delivery error kind
  let failed := { exchange with broker := broker }
  match outcome with
  | .retryScheduled _ => .ok (outcome, failed.ring)
  | .deadLettered => .ok (outcome, none, failed)

/-- Close the broker: the consumers that wake. -/
def close (exchange : Exchange) : List Nat × Exchange :=
  let (woken, bell) := exchange.bell.ringAll
  (woken, ⟨exchange.broker.close, bell⟩)

end Exchange

end ReminderDispatch
