import ReminderDispatch.Failure

/-!
# Envelopes

A task on its way: its identifier, its type, its body as bytes and the time of its publication.
-/

namespace ReminderDispatch

/-- A published task. -/
structure Envelope where
  /-- The identifier of the task. -/
  id : TaskId
  /-- The type that routes the task. -/
  type : TaskType
  /-- The body, as it was published. -/
  body : List UInt8
  /-- The time of publication. -/
  publishedAt : Instant
  deriving DecidableEq, Repr

/-- What a broker does with a task that it holds. -/
inductive TaskState where
  /-- The task waits in line. -/
  | queued
  /-- A consumer works on the task. -/
  | running
  /-- The task waits for the time of its next attempt. -/
  | retryScheduled
  deriving DecidableEq, Repr

/-- The name of a state. -/
def TaskState.name : TaskState → String
  | .queued => "Queued"
  | .running => "Running"
  | .retryScheduled => "RetryScheduled"

/-- How many tasks of a broker are in which state, or have come to which end. -/
structure QueueCounts where
  /-- Tasks that wait in line. -/
  queued : UInt64
  /-- Tasks that are worked on. -/
  running : UInt64
  /-- Tasks that were done. -/
  succeeded : UInt64
  /-- Tasks that wait for their next attempt. -/
  retryScheduled : UInt64
  /-- Tasks that were given up. -/
  dead : UInt64
  deriving DecidableEq, Repr

end ReminderDispatch
