import ReminderDispatch.Broker.Exchange

/-!
# Consumers of a broker

Several consumers that wait for tasks of one broker. Consumers that wake look for work one after
the other, in the order in which they woke. A consumer wakes by the bell, or at the time of its
alarm.
-/

namespace ReminderDispatch

/-- A consumer that waits for a task. -/
structure Consumer where
  /-- The number of the consumer. -/
  number : Nat
  /-- The time of its alarm. -/
  alarm : Option Moment
  deriving DecidableEq, Repr

/-- A broker with the consumers that wait for its tasks. -/
structure Consumers where
  /-- The broker and its bell. -/
  exchange : Exchange
  /-- The waiting consumers, the one whose last look is longest ago first. -/
  waiting : List Consumer
  /-- The consumers that are awake and have yet to look, in order. -/
  awake : List Nat
  deriving DecidableEq, Repr

namespace Consumers

/-- A broker without consumers. -/
def new (policy : RetryPolicy) : Consumers := ⟨.new policy, [], []⟩

/-- A consumer wakes, unless it is awake. -/
def wake (consumers : Consumers) (number : Nat) : Consumers :=
  if number ∈ consumers.awake then consumers
  else { consumers with awake := consumers.awake ++ [number] }

/-- The exchange changes, and consumers wake. -/
def after (consumers : Consumers) (exchange : Exchange) (woken : List Nat) : Consumers :=
  woken.foldl wake { consumers with exchange := exchange }

/-- A consumer comes to wait for a task. -/
def join (consumers : Consumers) (number : Nat) : Consumers := consumers.wake number

/-- A consumer is cancelled. -/
def cancel (consumers : Consumers) (number : Nat) : Consumers :=
  let left := { consumers with
    waiting := consumers.waiting.filter fun consumer => consumer.number ≠ number
    awake := consumers.awake.filter (· ≠ number) }
  if consumers.waiting.any (·.number == number) then
    let (woken, exchange) := consumers.exchange.cancel number
    left.after exchange woken.toList
  else left

/-- Publish a task. -/
def publish (consumers : Consumers) (now : Moment) (envelope : Envelope) :
    Except BrokerError Unit × Consumers :=
  match consumers.exchange.publish now envelope with
  | (.ok woken, exchange) => (.ok (), consumers.after exchange woken.toList)
  | (.error failure, exchange) => (.error failure, { consumers with exchange := exchange })

/-- A look for work by somebody who does not wait. -/
def glance (consumers : Consumers) (now : Moment) : LeaseOutcome × Consumers :=
  let (found, exchange) := consumers.exchange.glance now
  (found, { consumers with exchange := exchange })

/-- A task is done. -/
def ack (consumers : Consumers) (delivery : Delivery) : Except BrokerError Consumers := do
  .ok { consumers with exchange := ← consumers.exchange.ack delivery }

/-- An attempt failed. -/
def fail (consumers : Consumers) (now : Moment) (delivery : Delivery) (error : String)
    (kind : FailureKind) : Except BrokerError (Verdict × Consumers) := do
  let (outcome, woken, exchange) ← consumers.exchange.fail now delivery error kind
  .ok (outcome, consumers.after exchange woken.toList)

/-- Close the broker. -/
def close (consumers : Consumers) : Consumers :=
  let (woken, exchange) := consumers.exchange.close
  consumers.after exchange woken

/-- The consumers whose alarm has gone off, in the order of their alarms. -/
def alarmed (consumers : Consumers) (now : Moment) : List Nat :=
  let due := consumers.waiting.filterMap fun consumer =>
    consumer.alarm.bind fun alarm => if alarm ≤ now then some (alarm, consumer.number) else none
  (due.mergeSort fun a b => a.1 ≤ b.1).map (·.2)

/-- Every consumer whose alarm has gone off wakes. -/
def ringAlarms (consumers : Consumers) (now : Moment) : Consumers :=
  (consumers.alarmed now).foldl wake consumers

/-- The first consumer that is awake looks for work: its number and what it found, if it comes
back. -/
def step (consumers : Consumers) (now : Moment) : Option (Nat × Option Delivery) × Consumers :=
  match consumers.awake with
  | [] => (none, consumers)
  | number :: later =>
    let waiting := consumers.waiting.filter fun consumer => consumer.number ≠ number
    match consumers.exchange.look now number with
    | (.closed, exchange) => (some (number, none), ⟨exchange, waiting, later⟩)
    | (.leased delivery, exchange) => (some (number, some delivery), ⟨exchange, waiting, later⟩)
    | (.waits alarm, exchange) => (none, ⟨exchange, waiting ++ [⟨number, alarm⟩], later⟩)

/-- So many consumers that are awake look for work: those that come back, in order. -/
def steps (now : Moment) : Nat → Consumers → List (Nat × Option Delivery) × Consumers
  | 0, consumers => ([], consumers)
  | count + 1, consumers =>
    let (found, next) := consumers.step now
    let (more, last) := steps now count next
    (found.toList ++ more, last)

/-- Every consumer that is awake looks for work; a look wakes nobody. -/
def settle (consumers : Consumers) (now : Moment) : List (Nat × Option Delivery) × Consumers :=
  steps now consumers.awake.length consumers

end Consumers

end ReminderDispatch
