import ReminderDispatch.Simulation.Run
import Std.Time.DateTime.Timestamp

/-!
# The program

Runs the whole system with its collaborators in memory until the standard input ends or a line is
entered. The settings are read from the environment; the argument `--demo` adds one reminder that
is due and one user whose birthday is today. Everything happens as in a simulation whose clocks are
moved along with the real ones.
-/

namespace ReminderDispatch

open Simulation

/-- The variables that hold the settings. -/
def settingVariables : List String :=
  ["DATABASE_URL", "BROKER_URL", "SCAN_INTERVAL_SECS", "IO_TIMEOUT_SECS", "WORKER_COUNT",
    "TASK_MAX_ATTEMPTS", "RETRY_BASE_DELAY_SECS", "SHUTDOWN_GRACE_SECS"]

/-- The settings in the environment. -/
def readConfig : IO Config := do
  let values ← settingVariables.filterMapM fun name => do
    return (← IO.getEnv name).map fun value => (name, value)
  return .ofVariables fun name => values.lookup name

/-- The wall clock. -/
def readClock : IO Instant := do
  let nanos := (← Std.Time.Timestamp.now).toNanosecondsSinceUnixEpoch.val
  return (Instant.ofUnix? (nanos / 1000000000) (nanos % 1000000000).toNat).getD default

/-- The system of the process, with its workers and its scanner running. There is no outcome when
the process breaks off. -/
def startRun (config : Config) (demo : Bool) (now : Instant) : Option (Except StartupError Run) :=
  match Collaborators.connect config with
  | .error failure => some (.error failure)
  | .ok collaborators =>
    let (seeded, collaborators) :=
      if demo then collaborators.seedDemo now else (some (.ok ()), collaborators)
    let run := Run.new (.new collaborators now) (.new config.scanner config.ioTimeout)
    seeded.map fun outcome => outcome.map fun _ =>
      ((run.startWorkers config.workerCount).startScanner).settle

/-- The summary of a run that was stopped. -/
def summary (run : Run) : String :=
  let counts := run.world.exchange.broker.counts
  "stopped: succeeded=" ++ Text.decimal counts.succeeded
    ++ " retry_scheduled=" ++ Text.decimal counts.retryScheduled
    ++ " dead=" ++ Text.decimal counts.dead
    ++ " notifications=" ++ Text.decimal run.world.notifications.size

/-- Stop the scanner and the workers, and close the broker. -/
def shutDown (config : Config) (run : Run) : Run :=
  let (_, run) := run.stopScanner config.shutdownGrace
  let (_, run) := run.stopWorkers
  run.close.settle

/-- Move the clocks along until the input ends. -/
partial def serve (input : Task (Except IO.Error String)) (begun : Nat) (run : Run) : IO Run := do
  if ← IO.hasFinished input then return run
  IO.sleep 20
  let passed := (← IO.monoNanosNow) - begun
  serve input begun (run.advance ⟨passed - run.world.now⟩).settle

end ReminderDispatch

open ReminderDispatch

/-- Run the system until it is stopped; the exit code tells whether it could be started. -/
def main (arguments : List String) : IO UInt32 := do
  let config ← readConfig
  match startRun config (arguments.contains "--demo") (← readClock) with
  | none =>
    IO.eprintln "attempt to add with overflow"
    return 101
  | some (.error failure) =>
    IO.eprintln ("start-up failed: " ++ failure.message)
    return 1
  | some (.ok run) =>
    IO.println "started; press Enter to stop"
    let input ← IO.asTask (do (← IO.getStdin).getLine)
    let last ← serve input (← IO.monoNanosNow) run
    IO.println (summary (shutDown config last))
    return 0
