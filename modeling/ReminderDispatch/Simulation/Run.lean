import ReminderDispatch.Simulation.System

/-!
# Runs of a simulated system

What the foreground of a simulation can do: scan, enqueue and process tasks itself, let time pass,
and start and stop workers and a scanner loop that run by themselves.
-/

namespace ReminderDispatch.Simulation

/-- A system with what the foreground holds. -/
structure Run where
  /-- The system. -/
  system : System
  /-- The scanner of the foreground. -/
  scanner : Scanner
  /-- The group of workers that the foreground can stop. -/
  workers : Option Nat
  /-- The scanner loop that the foreground can stop. -/
  loop : Option Nat

/-- A task that the foreground has processed. -/
structure Processed where
  /-- The task and the number of the attempt. -/
  delivery : Delivery
  /-- What became of the task. -/
  settlement : Settlement

/-- How a scanner loop came to its end. -/
structure Shutdown where
  /-- The loop has stopped of its own accord. -/
  clean : Bool
  /-- The time from the request to the end. -/
  took : Duration

namespace Run

/-- A run that has yet to begin. -/
def new (system : System) (scanner : Scanner) : Run := ⟨system, scanner, none, none⟩

/-- The world of the run. -/
def world (run : Run) : World := run.system.world

/-- Change the world. -/
def withWorld (run : Run) (world : World) : Run :=
  { run with system := { run.system with world := world } }

/-- Everything that can go on at this moment does. -/
def settle (run : Run) : Run := { run with system := run.system.settle }

/-- Put a new scanner in place of the scanner of the foreground. -/
def renewScanner (run : Run) : Run :=
  { run with scanner := .new run.scanner.settings run.scanner.publishTimeout }

/-- Scan once; there is no outcome if the scan breaks off. -/
def scan (run : Run) : Option (Except IncompleteScan ScanReport) × Run :=
  match run.system.perform (run.scanner.scan run.world.wall) with
  | (some (scanner, outcome), system) =>
    (some outcome, { run with system := system, scanner := scanner })
  | (none, system) => (none, { run with system := system })

/-- Hand a payload to the broker; there is no outcome if the attempt breaks off. -/
def enqueue (run : Run) (payload : TaskPayload) : Option (Except EnqueueError TaskId) × Run :=
  let (outcome, system) :=
    run.system.perform (ReminderDispatch.enqueue run.scanner.publishTimeout payload)
  (outcome, { run with system := system })

/-- Publish a task as it is. -/
def publish (run : Run) (type : TaskType) (body : List UInt8) : Except BrokerError TaskId × Run :=
  let (outcome, world) := run.world.publish type body
  (outcome, run.withWorld world)

/-- Close the broker. -/
def close (run : Run) : Run := run.withWorld run.world.closeBroker

/-- Process one task if one can be taken. -/
def processOne (run : Run) : Option Processed × Run :=
  let (found, exchange) := run.world.exchange.glance run.world.now
  let run := run.withWorld { run.world with exchange := exchange }
  match found with
  | .closed | .nothing _ => (none, run)
  | .leased delivery =>
    match run.system.perform (run.system.dispatcher.dispatch delivery.envelope) with
    | (none, system) => (none, { run with system := system })
    | (some result, system) =>
      match system.world.settle delivery result with
      | (.error _, world) => (none, { run with system := { system with world := world } })
      | (.ok settlement, world) =>
        (some ⟨delivery, settlement⟩, { run with system := { system with world := world } })

/-- Process tasks until none can be taken, but no more than so many. -/
def process : Nat → Run → List Processed × Run
  | 0, run => ([], run)
  | most + 1, run =>
    match run.processOne with
    | (none, run) => ([], run)
    | (some first, run) =>
      let (more, run) := process most run
      (first :: more, run)

/-- Let time pass. -/
def advance (run : Run) (span : Duration) : Run :=
  let deadline := run.world.now + span.nanos
  { run with system := run.system.wait (some deadline) fun _ => false }

/-- Set the wall clock. -/
def setClock (run : Run) (wall : Instant) : Run := run.withWorld { run.world with wall := wall }

/-- Give a signal to a group of the foreground, if there is one. -/
def tell (run : Run) (group : Option Nat) (signal : StopSignal) : Run :=
  match group with
  | some group => { run with system := run.system.signal group signal }
  | none => run

/-- Give up the hold on the workers. -/
def dropWorkers (run : Run) : Run := { run.tell run.workers .abandoned with workers := none }

/-- Give up the hold on the scanner loop. -/
def dropScanner (run : Run) : Run := { run.tell run.loop .abandoned with loop := none }

/-- Start a group of workers in place of the one that the foreground holds. -/
def startWorkers (run : Run) (count : Nat) : Run :=
  let run := run.dropWorkers
  let (group, system) := run.system.start (List.replicate count (.worker .free))
  { run with system := system, workers := some group }

/-- How many workers the group has. -/
def workerCount (run : Run) : Nat :=
  run.system.actors.countP fun actor => some actor.group == run.workers

/-- Ask the workers to stop. -/
def requestStop (run : Run) : Run := run.tell run.workers .requested

/-- Ask the workers to stop and wait until all of them are over: the time that this takes. -/
def stopWorkers (run : Run) : Duration × Run :=
  match run.workers with
  | none => (.zero, run)
  | some group =>
    let begun := run.world.now
    let system := run.requestStop.system.wait none (System.isOver group)
    (⟨system.world.now - begun⟩, { run with system := system.remove group, workers := none })

/-- Let the scanner run by itself, in place of a loop that the foreground holds. -/
def startScanner (run : Run) : Run :=
  let run := run.dropScanner
  let loop := ScanLoop.start .silent run.scanner run.world.now run.world.wall
  let (group, system) := run.system.start [.scanner loop]
  { run with system := system, loop := some group }.renewScanner

/-- Ask the scanner loop to stop, and cut it off after a time of grace. -/
def stopScanner (run : Run) (grace : Duration) : Shutdown × Run :=
  match run.loop with
  | none => (⟨true, .zero⟩, run)
  | some group =>
    let begun := run.world.now
    let told := (run.tell run.loop .requested).system
    let system := told.wait (some (begun + grace.nanos)) (System.isOver group)
    let clean := system.isOver group && !system.hasCrashed group
    (⟨clean, ⟨system.world.now - begun⟩⟩,
      { run with system := system.remove group, loop := none })

end Run

end ReminderDispatch.Simulation
