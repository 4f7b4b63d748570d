import ReminderDispatch.Proofs.Pipeline.Workshop

/-!
# The process with everything in any order

Scans, workers, other producers and the signal to stop share the collaborators of the process. A
pipeline is the process at work: each scan and each worker goes on by one call at a time, in any
order, and whatever else can happen may happen between two calls. A ledger beside the pipeline notes
what became of the tasks and what came of them. It is written from the answers of the broker, the
results of the handlers and the growth of the stores; a new identifier is one that it does not have.
-/

namespace ReminderDispatch

/-- A scan that is under way. -/
abbrev RunningScan : Type := Program (Scanner × Except IncompleteScan ScanReport)

/-- What became of the tasks. -/
structure Ledger where
  /-- The tasks that the broker accepted, in order. -/
  accepted : List Envelope
  /-- The tasks that were acknowledged, in order. -/
  acked : List Envelope
  /-- The tasks whose handler returned without failure, in order. -/
  returned : List Envelope
  /-- For each notification that was created and each mail that was sent, the task that was worked
  on. -/
  produced : List Envelope
  deriving DecidableEq, Repr

/-- The process at work. -/
structure Pipeline where
  /-- The collaborators. -/
  shared : Collaborators
  /-- The time. -/
  now : Moment
  /-- The workers, by number. -/
  workers : List Workman
  /-- The workers that broke off, as they were before. -/
  fallen : List Workman
  /-- The scans, by number. -/
  scans : List RunningScan
  /-- What became of the tasks. -/
  ledger : Ledger

namespace Workman

/-- The task whose handler has returned without failure, and which the worker has yet to report. -/
def success? : Workman → Option Delivery
  | .working delivery (.done (.ok ())) => some delivery
  | .working _ (.done (.error _)) | .working _ (.ask _ _ _) | .free | .listening _ | .stopped
  | .crashed => none

/-- The call that the worker waits for stays without an answer. -/
def unheard : Workman → Workman
  | .working delivery (.ask _ _ next) => .working delivery (next none)
  | .working delivery (.done result) => .working delivery (.done result)
  | .free => .free
  | .listening alarm => .listening alarm
  | .stopped => .stopped
  | .crashed => .crashed

/-- The task that is acknowledged in the turn of a worker. -/
def acknowledges (shared : Collaborators) (reading : Reading) : Workman → List Envelope
  | .working delivery (.done result) =>
    match shared.exchange.settle reading.now delivery result with
    | .ok (.acked, _, _) => [delivery.envelope]
    | .ok (.retryScheduled _, _, _) | .ok (.deadLettered, _, _) | .error _ => []
  | .working _ (.ask _ _ _) | .free | .listening _ | .stopped | .crashed => []

/-- The task whose handler has returned without failure when a worker has come a step further. -/
def returns (worker next : Workman) : List Envelope :=
  match worker.success?, next.success? with
  | none, some delivery => [delivery.envelope]
  | none, none | some _, _ => []

/-- The task in the worker's hands, once for each notification and each mail that is new after a
turn. -/
def produces (worker : Workman) (before after : Collaborators) : List Envelope :=
  match worker.inHand? with
  | some delivery =>
    .replicate (after.performed.length - before.performed.length) delivery.envelope
  | none => []

end Workman

/-- The ledger after the turn of a worker. -/
def Ledger.turn (ledger : Ledger) (worker next : Workman) (reading : Reading)
    (before after : Collaborators) : Ledger where
  accepted := ledger.accepted
  acked := ledger.acked ++ worker.acknowledges before reading
  returned := ledger.returned ++ worker.returns next
  produced := ledger.produced ++ worker.produces before after

/-- The task that the broker accepts under a reading when a call is answered. -/
def Reading.accepts (reading : Reading) : (call : Call) → call.Reply → List Envelope
  | .publish type body, .ok _ => [⟨reading.id, type, body, reading.brokerWall⟩]
  | .publish _ _, .error _ | .dueReminders _, _ | .dueBirthdays _, _ | .mark _, _
  | .createNotification _, _ | .send _, _ | .handOver _, _ => []

/-- The task is one to do work of a kind. -/
def Envelope.isOf (kind : PayloadKind) (envelope : Envelope) : Bool := envelope.type = kind.type

namespace Pipeline

/-- What can happen in a pipeline. -/
inductive Act where
  /-- A scan begins. -/
  | tick (scanner : Scanner) (time : Instant)
  /-- The collaborators answer the next call of a scan. -/
  | answer (number : Nat) (reading : Reading)
  /-- The next call of a scan is answered by somebody else, or it stays without an answer. -/
  | divert (number : Nat) (reply : (call : Call) → Option call.Reply)
  /-- A task is published by somebody else. -/
  | publish (envelope : Envelope)
  /-- A worker takes a turn. -/
  | turn (number : Nat) (reading : Reading)
  /-- The call that a worker waits for stays without an answer. -/
  | expire (number : Nat)
  /-- A worker hears the signal to stop. -/
  | heed (number : Nat)
  /-- A worker breaks off. -/
  | fall (number : Nat)
  /-- The broker is closed. -/
  | close
  /-- Time passes. -/
  | advance (span : Duration)

variable (line : Pipeline)

/-- A scan goes on with the answer of the collaborators to its next call. -/
def answer (number : Nat) (reading : Reading) : Pipeline :=
  match line.scans[number]? with
  | some (.ask call _ next) =>
    match line.shared.answer reading call with
    | (some reply, shared) =>
      { line with
        shared := shared
        scans := line.scans.set number (next (some reply))
        ledger := { line.ledger with
          accepted := line.ledger.accepted ++ reading.accepts call reply } }
    | (none, shared) => { line with shared := shared }
  | some (.done _) | none => line

/-- A scan goes on with another answer to its next call, or without one. -/
def divert (number : Nat) (reply : (call : Call) → Option call.Reply) : Pipeline :=
  match line.scans[number]? with
  | some (.ask call _ next) => { line with scans := line.scans.set number (next (reply call)) }
  | some (.done _) | none => line

/-- Somebody else publishes a task. -/
def publish (envelope : Envelope) : Pipeline :=
  match line.shared.exchange.publish line.now envelope with
  | (.ok _, exchange) =>
    { line with
      shared := { line.shared with exchange := exchange }
      ledger := { line.ledger with accepted := line.ledger.accepted ++ [envelope] } }
  | (.error _, exchange) => { line with shared := { line.shared with exchange := exchange } }

/-- A worker breaks off, whatever it is doing. -/
def fall (number : Nat) : Pipeline :=
  match line.workers[number]? with
  | some worker =>
    { line with
      workers := line.workers.set number .crashed
      fallen := worker :: line.fallen }
  | none => line

/-- A worker takes a turn, in which it may break off. -/
def turn (number : Nat) (reading : Reading) : Pipeline :=
  match line.workers[number]? with
  | some worker =>
    match worker.turn line.shared reading number with
    | (some next, shared) =>
      { line with
        shared := shared
        workers := line.workers.set number next
        ledger := line.ledger.turn worker next reading line.shared shared }
    | (none, shared) => { line with shared := shared }.fall number
  | none => line

/-- A worker goes on without an answer to its call. -/
def expire (number : Nat) : Pipeline :=
  match line.workers[number]? with
  | some worker =>
    { line with
      workers := line.workers.set number worker.unheard
      ledger := { line.ledger with
        returned := line.ledger.returned ++ worker.returns worker.unheard } }
  | none => line

/-- A worker hears the signal to stop. -/
def heed (number : Nat) : Pipeline :=
  match line.workers[number]? with
  | some worker =>
    let (next, _, exchange) := worker.heed number line.shared.exchange
    { line with
      shared := { line.shared with exchange := exchange }
      workers := line.workers.set number next }
  | none => line

/-- The pipeline after something has happened. -/
def perform : Act → Pipeline
  | .tick scanner time => { line with scans := line.scans ++ [scanner.scan time] }
  | .answer number reading => line.answer number reading
  | .divert number reply => line.divert number reply
  | .publish envelope => line.publish envelope
  | .turn number reading => line.turn number reading
  | .expire number => line.expire number
  | .heed number => line.heed number
  | .fall number => line.fall number
  | .close =>
    { line with shared := { line.shared with exchange := line.shared.exchange.close.2 } }
  | .advance span => { line with now := line.now + span.nanos }

/-- The clock of the broker shows the time, and no task gets an identifier that is in use. -/
def Allows : Act → Prop
  | .answer _ reading =>
    reading.now = line.now ∧ reading.id ∉ line.ledger.accepted.map (·.id)
  | .publish envelope => envelope.id ∉ line.ledger.accepted.map (·.id)
  | .turn _ reading => reading.now = line.now
  | .tick _ _ | .divert _ _ | .expire _ | .heed _ | .fall _ | .close | .advance _ => True

instance (act : Act) : Decidable (line.Allows act) :=
  match act with
  | .answer _ reading => inferInstanceAs
      (Decidable (reading.now = line.now ∧ reading.id ∉ line.ledger.accepted.map (·.id)))
  | .publish envelope => inferInstanceAs
      (Decidable (envelope.id ∉ line.ledger.accepted.map (·.id)))
  | .turn _ reading => inferInstanceAs (Decidable (reading.now = line.now))
  | .tick _ _ | .divert _ _ | .expire _ | .heed _ | .fall _ | .close | .advance _ => .isTrue trivial

/-- Pipelines and what can happen in them. -/
def machine : Machine Pipeline Act := ⟨Allows, perform⟩

instance (line : Pipeline) (act : Act) : Decidable (machine.Allows line act) :=
  inferInstanceAs (Decidable (line.Allows act))

/-- A pipeline with so many workers and without tasks, whatever is in the store of reminders and
whichever templates are known. -/
def opened (policy : RetryPolicy) (limit : Duration) (reminders : ReminderStore)
    (templates : Option (List String)) (workers : Nat) (now : Moment) : Pipeline where
  shared := { Collaborators.fresh policy limit with
    reminders := reminders
    outbox := .new templates }
  now := now
  workers := .replicate workers .free
  fallen := []
  scans := []
  ledger := ⟨[], [], [], []⟩

/-- The workers in any order, those that broke off among them. -/
def crew : List Workman := line.workers ++ line.fallen

/-- The tasks that are running although their handler has returned without failure. -/
def finished : List Envelope :=
  (line.shared.exchange.broker.records.filter fun record =>
    record.state = .running ∧ record.envelope ∈ line.ledger.returned).map (·.envelope)

end Pipeline

end ReminderDispatch
