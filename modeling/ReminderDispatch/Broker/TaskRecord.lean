import ReminderDispatch.Duration
import ReminderDispatch.Task.Envelope

/-!
# Records of tasks

What a broker keeps about a task that is not settled, and about one that was given up.
-/

namespace ReminderDispatch

/-- A task that a broker holds. -/
structure TaskRecord where
  /-- The task as it was published. -/
  envelope : Envelope
  /-- What is going on with the task. -/
  state : TaskState
  /-- How often the task was leased, a running attempt included. -/
  attempts : Nat
  /-- How often the task may be leased. -/
  maxAttempts : Nat
  /-- The error of the last failed attempt. -/
  lastError : Option String
  /-- The time of the next attempt, while one is scheduled. -/
  nextRunAt : Option Moment
  /-- The time at which the record was made. -/
  createdAt : Moment
  /-- The time of the last change. -/
  updatedAt : Moment
  deriving DecidableEq, Repr

namespace TaskRecord

/-- The record of a task that was just published. -/
def new (envelope : Envelope) (maxAttempts : Nat) (now : Moment) : TaskRecord where
  envelope := envelope
  state := .queued
  attempts := 0
  maxAttempts := maxAttempts
  lastError := none
  nextRunAt := none
  createdAt := now
  updatedAt := now

/-- The identifier of the task. -/
def id (record : TaskRecord) : TaskId := record.envelope.id

/-- A consumer takes the task. -/
def startAttempt (record : TaskRecord) (now : Moment) : TaskRecord :=
  { record with state := .running, attempts := record.attempts + 1, updatedAt := now }

/-- The attempt failed, and another one is due at a time. -/
def scheduleRetry (record : TaskRecord) (now due : Moment) (error : String) : TaskRecord :=
  { record with
    state := .retryScheduled, nextRunAt := some due, lastError := some error, updatedAt := now }

/-- The time of the next attempt has come. -/
def requeue (record : TaskRecord) (now : Moment) : TaskRecord :=
  { record with state := .queued, nextRunAt := none, updatedAt := now }

end TaskRecord

/-- A task that was given up. -/
structure DeadLetter where
  /-- The task as it was published. -/
  envelope : Envelope
  /-- How often it was attempted. -/
  attempts : Nat
  /-- The error of the last attempt. -/
  error : String
  deriving DecidableEq, Repr

/-- A leased task in the hands of a consumer. -/
structure Delivery where
  /-- The task as it was published. -/
  envelope : Envelope
  /-- The number of this attempt, counted from 1. -/
  attempt : Nat
  deriving DecidableEq, Repr

/-- The identifier of the task. -/
def Delivery.id (delivery : Delivery) : TaskId := delivery.envelope.id

/-- What becomes of a task whose attempt failed. -/
inductive Verdict where
  /-- Another attempt follows after a delay. -/
  | retryScheduled (delay : Duration)
  /-- The task is given up. -/
  | deadLettered
  deriving DecidableEq, Repr

end ReminderDispatch
