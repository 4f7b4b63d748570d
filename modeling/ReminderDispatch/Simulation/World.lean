import ReminderDispatch.Broker.Settlement
import ReminderDispatch.Simulation.Script
import ReminderDispatch.Store.Notifications
import ReminderDispatch.Store.Outbox
import ReminderDispatch.Store.Reminders

/-!
# The world of a simulation

The clocks and the collaborators of a simulated system. The broker has a wall clock of its own,
which moves by a millisecond with every task that it accepts, so that the identifiers of tasks are
in the order of their publication.
-/

namespace ReminderDispatch.Simulation

/-- A call that was made. -/
structure LoggedCall where
  /-- The moment at which the call began. -/
  moment : Moment
  /-- The call. -/
  call : Call

/-- The clocks and the collaborators. -/
structure World where
  /-- The monotonic clock. -/
  now : Moment
  /-- The wall clock. -/
  wall : Instant
  /-- The wall clock of the broker before the first task. -/
  origin : Instant
  /-- How many tasks were accepted. -/
  published : Nat
  /-- The broker and its bell. -/
  exchange : Exchange
  /-- The store of reminders and users. -/
  reminders : ReminderStore
  /-- The store of notifications. -/
  notifications : NotificationStore
  /-- The mail transport. -/
  outbox : Outbox
  /-- How the collaborators behave. -/
  script : Script
  /-- The calls since the log was last emptied, in order. -/
  log : List LoggedCall
  /-- The activities that can go on, in the order in which they do. -/
  awake : List Nat

namespace World

/-- An activity can go on, after those that can already. -/
def wake (world : World) (number : Nat) : World :=
  if number ∈ world.awake then world else { world with awake := world.awake ++ [number] }

/-- The exchange changes, and activities wake. -/
def withExchange (world : World) (exchange : Exchange) (woken : List Nat) : World :=
  woken.foldl wake { world with exchange := exchange }

/-- The wall clock of the broker. -/
def brokerClock (world : World) : Instant := world.origin.after (.ofMillis world.published)

/-- Publish a task. -/
def publish (world : World) (type : TaskType) (body : List UInt8) :
    Except BrokerError TaskId × World :=
  let time := world.brokerClock
  let id := TaskId.madeAt time world.published
  match world.exchange.publish world.now ⟨id, type, body, time⟩ with
  | (.error failure, exchange) => (.error failure, { world with exchange := exchange })
  | (.ok woken, exchange) =>
    (.ok id, { world with published := world.published + 1 }.withExchange exchange woken.toList)

/-- Close the broker. -/
def closeBroker (world : World) : World :=
  let (woken, exchange) := world.exchange.close
  world.withExchange exchange woken

/-- Report the result of the work on a leased task. -/
def settle (world : World) (delivery : Delivery) (result : Except DispatchError Unit) :
    Except BrokerError Settlement × World :=
  match world.exchange.settle world.now delivery result with
  | .error failure => (.error failure, world)
  | .ok (settlement, woken, exchange) =>
    (.ok settlement, world.withExchange exchange woken.toList)

/-- What the collaborators answer to a call. There is no answer to a call that breaks off. -/
def answer (world : World) : (call : Call) → Option call.Reply × World
  | .dueReminders now => (some (.ok (world.reminders.dueReminders now)), world)
  | .dueBirthdays now => (some (.ok (world.reminders.dueBirthdays now)), world)
  | .mark id =>
    let (outcome, reminders) := world.reminders.mark id
    (some outcome, { world with reminders := reminders })
  | .publish type body =>
    let (outcome, world) := world.publish type body
    (some outcome, world)
  | .createNotification request =>
    let (record, notifications) := world.notifications.create world.wall request
    (record.map .ok, { world with notifications := notifications })
  | .send mail =>
    let (outcome, outbox) := world.outbox.send mail
    (some outcome, { world with outbox := outbox })
  | .handOver _ => (some (.ok ()), world)

/-- Time passes up to a moment of the monotonic clock. -/
def moveTo (world : World) (moment : Moment) : World :=
  { world with now := moment, wall := world.wall.after ⟨moment - world.now⟩ }

end World

end ReminderDispatch.Simulation
