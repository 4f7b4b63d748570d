import ReminderDispatch.Number.Powers
import ReminderDispatch.Retry
import ReminderDispatch.Scan.Settings
import ReminderDispatch.Text.Blank

/-!
# Configuration

The settings of the process, read from variables. Every setting has a default, which also takes
the place of a value that is not a number, is too large or is below the least value.
-/

namespace ReminderDispatch

/-- The address of the collaborators that live in memory. -/
def memoryUrl : String := "memory://"

/-- The settings of the process. -/
structure Config where
  /-- The address of the stores. -/
  databaseUrl : String
  /-- The address of the broker. -/
  brokerUrl : String
  /-- The time from one scan to the next. -/
  scanInterval : Duration
  /-- The limit of every call to a collaborator. -/
  ioTimeout : Duration
  /-- How many workers there are. -/
  workerCount : Nat
  /-- How often a task is attempted. -/
  taskMaxAttempts : Nat
  /-- The delay after the first attempt. -/
  retryBaseDelay : Duration
  /-- How long a scan may go on after the process was asked to stop. -/
  shutdownGrace : Duration
  deriving DecidableEq, Repr

namespace Config

/-- The settings without any variables. -/
def default : Config where
  databaseUrl := memoryUrl
  brokerUrl := memoryUrl
  scanInterval := .ofSeconds 60
  ioTimeout := .ofSeconds 5
  workerCount := 2
  taskMaxAttempts := 5
  retryBaseDelay := .ofSeconds 2
  shutdownGrace := .ofSeconds 10

/-- The number of a text: digits with an optional plus sign, and blanks around them. -/
def readNumber? (text : String) : Option Nat :=
  match Text.trimChars text.toList with
  | '+' :: rest => Text.readNat? rest
  | rest => Text.readNat? rest

/-- A setting that is a number of so many bits and at least `least`. -/
def numberOr (bits least fallback : Nat) : Option String → Nat
  | none => fallback
  | some text =>
    match readNumber? text with
    | some n => if n < twoTo bits ∧ least ≤ n then n else fallback
    | none => fallback

/-- A setting that is a number of seconds. -/
def secondsOr (least : Nat) (fallback : Duration) (value : Option String) : Duration :=
  .ofSeconds (numberOr 64 least fallback.wholeSeconds value)

/-- The settings that variables give. -/
def ofVariables (value : String → Option String) : Config where
  databaseUrl := (value "DATABASE_URL").getD default.databaseUrl
  brokerUrl := (value "BROKER_URL").getD default.brokerUrl
  scanInterval := secondsOr 1 default.scanInterval (value "SCAN_INTERVAL_SECS")
  ioTimeout := secondsOr 1 default.ioTimeout (value "IO_TIMEOUT_SECS")
  workerCount := numberOr 64 1 default.workerCount (value "WORKER_COUNT")
  taskMaxAttempts := numberOr 32 1 default.taskMaxAttempts (value "TASK_MAX_ATTEMPTS")
  retryBaseDelay := secondsOr 0 default.retryBaseDelay (value "RETRY_BASE_DELAY_SECS")
  shutdownGrace := secondsOr 0 default.shutdownGrace (value "SHUTDOWN_GRACE_SECS")

/-- The retry policy of the settings. -/
def retryPolicy (config : Config) : RetryPolicy := .new config.taskMaxAttempts config.retryBaseDelay

/-- The scanner's part of the settings. -/
def scanner (config : Config) : ScannerSettings := ⟨config.scanInterval, config.ioTimeout, true⟩

end Config

end ReminderDispatch
