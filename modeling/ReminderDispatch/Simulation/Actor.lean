import ReminderDispatch.Registry
import ReminderDispatch.Scan.Loop
import ReminderDispatch.Simulation.Execution
import ReminderDispatch.Worker

/-!
# Actors

The workers and the scanner loop that run by themselves in a simulation. In its turn an actor does
one piece: it heeds its signal, looks for a task, or goes on with a program until it has to wait.
-/

namespace ReminderDispatch.Simulation

/-- A worker whose work is the execution of a handler. -/
abbrev RunningWorker : Type := Worker (Execution (Except DispatchError Unit))

/-- A scanner loop whose scans are executions. -/
abbrev RunningScanner : Type := ScanLoop (Execution (Scanner × Except IncompleteScan ScanReport))

/-- What runs by itself. -/
inductive Activity where
  /-- A worker. -/
  | worker (state : RunningWorker)
  /-- A scanner loop. -/
  | scanner (state : RunningScanner)

/-- The turn of a worker. -/
def workerTurn (dispatcher : Dispatcher) (number : Nat) (signal : StopSignal) (world : World) :
    RunningWorker → RunningWorker × World
  | .working delivery execution =>
    match execution.resume world with
    | (.returned result, world) => (.free, (world.settle delivery result).2)
    | (.crashed, world) => (.crashed, world)
    | (execution, world) => (.working delivery execution, world)
  | .stopped => (.stopped, world)
  | .crashed => (.crashed, world)
  | worker =>
    if signal.endsWaiting then
      let (worker, woken, exchange) := worker.heed number world.exchange
      (worker, world.withExchange exchange woken.toList)
    else
      let begin := fun delivery : Delivery => .ready (dispatcher.dispatch delivery.envelope)
      let (worker, exchange) := Worker.look number world.now begin world.exchange
      (worker, world.withExchange exchange [])

/-- The turn of a scanner loop. -/
def scannerTurn (signal : StopSignal) (world : World) : RunningScanner → RunningScanner × World
  | .scanning ticker execution =>
    match execution.resume world with
    | (.returned (scanner, _), world) => (.rest signal scanner ticker, world)
    | (.crashed, world) => (.crashed, world)
    | (execution, world) => (.scanning ticker execution, world)
  | loop =>
    if signal.endsWaiting then (loop.heed, world)
    else (loop.proceed signal world.now fun scanner => .ready (scanner.scan world.wall), world)

namespace Activity

/-- The turn of an activity. -/
def turn (dispatcher : Dispatcher) (number : Nat) (signal : StopSignal) (world : World) :
    Activity → Activity × World
  | .worker state =>
    let (state, world) := workerTurn dispatcher number signal world state
    (.worker state, world)
  | .scanner state =>
    let (state, world) := scannerTurn signal world state
    (.scanner state, world)

/-- The activity will do nothing more. -/
def isOver : Activity → Bool
  | .worker state => state.isOver
  | .scanner state => state.isOver

/-- The activity was broken off. -/
def hasCrashed : Activity → Bool
  | .worker .crashed | .scanner .crashed => true
  | .worker _ | .scanner _ => false

/-- The moment at which the activity can go on by itself. -/
def alarm : Activity → Option Moment
  | .worker (.listening alarm) => alarm
  | .worker (.working _ execution) => execution.alarm
  | .worker _ => none
  | .scanner (.scanning _ execution) => execution.alarm
  | .scanner state => state.alarm

/-- The activity waits for something that a signal ends. -/
def heedsSignal : Activity → Bool
  | .worker .free | .worker (.listening _) => true
  | .scanner (.aligning _ _) | .scanner (.resting _ _) => true
  | .worker _ | .scanner _ => false

/-- The activity need not wait. -/
def canGoOn (now : Moment) (signal : StopSignal) (activity : Activity) : Bool :=
  match activity with
  | .worker .free | .worker (.working _ (.ready _)) | .scanner (.scanning _ (.ready _)) => true
  | .scanner (.resting _ _) | .scanner (.aligning _ _) =>
    signal.endsWaiting || hasCome now activity.alarm
  | .worker _ | .scanner _ => false

end Activity

/-- An activity with the signal that it heeds. -/
structure Actor where
  /-- The number of the actor. -/
  number : Nat
  /-- The actors of one group have one signal. -/
  group : Nat
  /-- The signal. -/
  signal : StopSignal
  /-- What the actor does. -/
  activity : Activity
  /-- Of actors that wait, the one that has waited longer has the lesser count. -/
  since : Nat

/-- The actor is over or does not belong to the group. -/
def Actor.isOverIn (group : Nat) (actor : Actor) : Bool :=
  actor.group != group || actor.activity.isOver

end ReminderDispatch.Simulation
