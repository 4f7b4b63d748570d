import ReminderDispatch.Broker.Exchange
import ReminderDispatch.Config
import ReminderDispatch.FanOut
import ReminderDispatch.Registry
import ReminderDispatch.Store.Notifications
import ReminderDispatch.Store.Outbox
import ReminderDispatch.Store.Reminders

/-!
# Start-up

The collaborators of the process, put together by its settings. Only collaborators in memory are
on offer, and every task type that is produced must have a handler.
-/

namespace ReminderDispatch

/-- Why the process does not start. -/
inductive StartupError where
  /-- There is no store at this address. -/
  | unsupportedDatabase (url : String)
  /-- There is no broker at this address. -/
  | unsupportedBroker (url : String)
  /-- A task type has two handlers. -/
  | registry (failure : AlreadyRegistered)
  /-- A task type has no handler. -/
  | build (failure : MissingTaskTypes)
  /-- The data for a demonstration cannot be stored. -/
  | seed (failure : StoreError)
  deriving DecidableEq, Repr

/-- The failure in words. -/
def StartupError.message : StartupError → String
  | .unsupportedDatabase url =>
    "unsupported DATABASE_URL " ++ Text.quote url ++ ": only memory:// is available"
  | .unsupportedBroker url =>
    "unsupported BROKER_URL " ++ Text.quote url ++ ": only memory:// is available"
  | .registry failure => failure.message
  | .build failure => failure.message
  | .seed failure => "demo data: " ++ failure.message

/-- The collaborators of the process. -/
structure Collaborators where
  /-- The broker. -/
  exchange : Exchange
  /-- The store of reminders and users. -/
  reminders : ReminderStore
  /-- The store of notifications. -/
  notifications : NotificationStore
  /-- The mail transport. -/
  outbox : Outbox
  /-- What gives tasks to their handlers. -/
  dispatcher : Dispatcher

namespace Collaborators

/-- The templates that the mail transport knows. -/
def templates : List String := [Reminder.mailStyle.template, Birthday.mailStyle.template]

/-- The dispatcher of the process, with a limit for every call of a handler. -/
def dispatcherWithin (limit : Duration) : Except StartupError Dispatcher := do
  let draft ← (DispatcherDraft.new.register (.notification limit)).mapError .registry
  let draft ← (draft.register (.email limit)).mapError .registry
  (draft.expect PayloadKind.allTypes).build.mapError .build

/-- Put the collaborators together. -/
def connect (config : Config) : Except StartupError Collaborators := do
  if config.databaseUrl ≠ memoryUrl then .error (.unsupportedDatabase config.databaseUrl)
  if config.brokerUrl ≠ memoryUrl then .error (.unsupportedBroker config.brokerUrl)
  .ok {
    exchange := .new config.retryPolicy
    reminders := .empty
    notifications := .empty
    outbox := .new (some templates)
    dispatcher := ← dispatcherWithin config.ioTimeout }

/-- The reminder of a demonstration. -/
def demoReminder (now : Instant) : ReminderRequest where
  userId := ⟨1⟩
  email := "ada@example.com"
  title := "Bob's birthday is coming"
  body := "Bob added 3 items to his wishlist"
  kind := "alert"
  executeAt := some now

/-- The user of a demonstration, whose birthday is today. -/
def demoUser (now : Instant) : User := ⟨⟨2⟩, "bob@example.com", "Bob", now.date⟩

/-- Add one reminder that is due now and one user whose birthday is today. There is no outcome when
the process breaks off because no number is left for the reminder. -/
def seedDemo (collaborators : Collaborators) (now : Instant) :
    Option (Except StartupError Unit) × Collaborators :=
  match collaborators.reminders.create (demoReminder now) with
  | (some (.ok _), reminders) =>
    (some (.ok ()), { collaborators with reminders := reminders.addUser (demoUser now) })
  | (some (.error failure), reminders) =>
    (some (.error (.seed failure)), { collaborators with reminders := reminders })
  | (none, reminders) => (none, { collaborators with reminders := reminders })

end Collaborators

end ReminderDispatch
