import ReminderDispatch.Broker.TaskRecord
import ReminderDispatch.Retry

/-!
# The broker

A broker hands published tasks to consumers, one after the other. Tasks wait in line in the order
of their publication. A consumer that takes a task either acknowledges it, which ends the task, or
reports a failure. After a failure the task is scheduled for another attempt, as long as the
failure is transient and attempts are left, and is given up otherwise. A scheduled task joins the
end of the line at the first look for work at or after its time; of several such tasks the one with
the earlier time comes first, and of equal times the one with the lesser identifier.
-/

namespace ReminderDispatch

/-- A task that waits for the time of its next attempt. -/
structure PendingRetry where
  /-- The time of the next attempt. -/
  due : Moment
  /-- The task. -/
  id : TaskId
  deriving DecidableEq, Repr

/-- The order of scheduled tasks: by time, then by identifier. -/
def PendingRetry.before (a b : PendingRetry) : Bool :=
  a.due < b.due || (a.due == b.due && decide (a.id < b.id))

/-- A broker that keeps its tasks in memory. -/
structure Broker where
  /-- When failed tasks are attempted again. -/
  policy : RetryPolicy
  /-- The tasks that are not settled, in the order of their publication. -/
  records : List TaskRecord
  /-- The line of tasks that can be taken. -/
  ready : List TaskId
  /-- The tasks that wait for their next attempt, in the order in which they are due. -/
  scheduled : List PendingRetry
  /-- The tasks that were given up, in the order in which they were. -/
  deadLetters : List DeadLetter
  /-- How many tasks were acknowledged. -/
  succeeded : Nat
  /-- The broker neither takes nor hands out tasks any more. -/
  closed : Bool
  deriving DecidableEq, Repr

/-- What a look for work finds. -/
inductive LeaseOutcome where
  /-- The broker is closed. -/
  | closed
  /-- No task can be taken; the earliest scheduled task is due at the given time. -/
  | nothing (nextDue : Option Moment)
  /-- A task, which is now running. -/
  | leased (delivery : Delivery)
  deriving DecidableEq, Repr

namespace Broker

/-- A broker without tasks. -/
def new (policy : RetryPolicy) : Broker where
  policy := policy
  records := []
  ready := []
  scheduled := []
  deadLetters := []
  succeeded := 0
  closed := false

/-- The record of a task that is not settled. -/
def find? (broker : Broker) (id : TaskId) : Option TaskRecord :=
  broker.records.find? fun record => record.id = id

/-- Change the record of a task. -/
def update (broker : Broker) (id : TaskId) (change : TaskRecord → TaskRecord) : Broker :=
  { broker with
    records := broker.records.map fun record => if record.id = id then change record else record }

/-- Drop the record of a task. -/
def drop (broker : Broker) (id : TaskId) : Broker :=
  { broker with records := broker.records.filter fun record => record.id ≠ id }

/-- Put a record at the end, in place of an earlier one of the same task. -/
def store (broker : Broker) (record : TaskRecord) : Broker :=
  { broker with records := (broker.drop record.id).records ++ [record] }

/-- Put a task into the schedule. -/
def schedule (task : PendingRetry) : List PendingRetry → List PendingRetry
  | [] => [task]
  | first :: more =>
    if task.before first then task :: first :: more else first :: schedule task more

/-- Publish a task under an identifier. The outcome stands beside the broker as the call has left
it. -/
def publish (broker : Broker) (now : Moment) (envelope : Envelope) :
    Except BrokerError Unit × Broker :=
  if broker.closed then (.error .closed, broker)
  else
    let stored := broker.store (.new envelope broker.policy.maxAttempts now)
    (.ok (), { stored with ready := stored.ready ++ [envelope.id] })

/-- A task whose time has come joins the end of the line, if it still waits for that time. -/
def admitTask (now : Moment) (broker : Broker) (task : PendingRetry) : Broker :=
  match broker.find? task.id with
  | some record =>
    if record.state = .retryScheduled then
      let queued := broker.update task.id (·.requeue now)
      { queued with ready := queued.ready ++ [task.id] }
    else broker
  | none => broker

/-- Every task whose time has come joins the end of the line. -/
def promote (broker : Broker) (now : Moment) : Broker :=
  let isDue := fun task : PendingRetry => decide (task.due ≤ now)
  let waiting := { broker with scheduled := broker.scheduled.dropWhile isDue }
  (broker.scheduled.takeWhile isDue).foldl (admitTask now) waiting

/-- Look for work: take the first task of the line. -/
def lease (broker : Broker) (now : Moment) : LeaseOutcome × Broker :=
  if broker.closed then (.closed, broker)
  else
    let broker := broker.promote now
    match broker.ready with
    | [] => (.nothing (broker.scheduled.head?.map (·.due)), broker)
    | id :: line =>
      let broker := { broker with ready := line }
      match broker.find? id with
      | none => (.nothing (broker.scheduled.head?.map (·.due)), broker)
      | some record =>
        let running := record.startAttempt now
        (.leased ⟨running.envelope, running.attempts⟩, broker.update id (·.startAttempt now))

/-- The task is done. -/
def ack (broker : Broker) (delivery : Delivery) : Except BrokerError Broker :=
  match broker.find? delivery.id with
  | none => .error (.unknownTask delivery.id.text)
  | some _ =>
    let settled := broker.drop delivery.id
    .ok { settled with succeeded := settled.succeeded + 1 }

/-- The attempt failed. -/
def fail (broker : Broker) (now : Moment) (delivery : Delivery) (error : String)
    (kind : FailureKind) : Except BrokerError (Verdict × Broker) :=
  match broker.find? delivery.id with
  | none => .error (.unknownTask delivery.id.text)
  | some record =>
    if !kind.allowsRetry || broker.policy.isExhausted record.attempts then
      let settled := broker.drop delivery.id
      let letter : DeadLetter := ⟨delivery.envelope, record.attempts, error⟩
      .ok (.deadLettered, { settled with deadLetters := settled.deadLetters ++ [letter] })
    else
      let delay := broker.policy.nextDelay record.attempts
      let due := now + delay.nanos
      let waiting := broker.update delivery.id (·.scheduleRetry now due error)
      .ok (.retryScheduled delay,
        { waiting with scheduled := schedule ⟨due, delivery.id⟩ waiting.scheduled })

/-- Take no more tasks and hand out none. -/
def close (broker : Broker) : Broker := { broker with closed := true }

/-- The state of a task that is not settled. -/
def state? (broker : Broker) (id : TaskId) : Option TaskState :=
  (broker.find? id).map (·.state)

/-- The attempts of a task that is not settled. -/
def attempts? (broker : Broker) (id : TaskId) : Option Nat :=
  (broker.find? id).map (·.attempts)

/-- The tasks that are not settled, as they were published. -/
def envelopes (broker : Broker) : List Envelope := broker.records.map (·.envelope)

/-- How many tasks are in a state. -/
def countIn (broker : Broker) (state : TaskState) : Nat :=
  broker.records.countP fun record => record.state = state

/-- The counts of all tasks that were ever accepted. -/
structure Counts where
  /-- Tasks that wait in line. -/
  queued : Nat
  /-- Tasks that are worked on. -/
  running : Nat
  /-- Tasks that were acknowledged. -/
  succeeded : Nat
  /-- Tasks that wait for their next attempt. -/
  retryScheduled : Nat
  /-- Tasks that were given up. -/
  dead : Nat
  deriving DecidableEq, Repr

/-- The counts of all tasks that were ever accepted. -/
def counts (broker : Broker) : Counts where
  queued := broker.countIn .queued
  running := broker.countIn .running
  succeeded := broker.succeeded
  retryScheduled := broker.countIn .retryScheduled
  dead := broker.deadLetters.length

end Broker

end ReminderDispatch
