import ReminderDispatch.Notification
import ReminderDispatch.Reminder
import ReminderDispatch.Task.Payload

/-!
# Programs that call collaborators

The scanner and the handlers work by calls to stores, to the broker and to the mail transport. A
program says what is called, with which limit of time, and how to go on with the answer or without
one. What the collaborators answer, how long it takes and whether the program is cut off between
two calls is not part of the program.
-/

namespace ReminderDispatch

/-- What collaborators are called for. -/
inductive Operation where
  /-- Find the reminders that are due. -/
  | dueReminders
  /-- Find today's birthdays. -/
  | dueBirthdays
  /-- Mark a reminder as dispatched. -/
  | mark
  /-- Publish a task. -/
  | publish
  /-- Create a notification. -/
  | createNotification
  /-- Send a mail. -/
  | send
  /-- Take over the work of a handler. -/
  | handOver
  deriving DecidableEq, Repr

/-- How an operation can fail. -/
def Operation.Failure : Operation → Type
  | .dueReminders | .dueBirthdays | .mark | .createNotification => StoreError
  | .publish => BrokerError
  | .send => TransportError
  | .handOver => HandlerError

/-- A call to a collaborator. -/
inductive Call where
  /-- The reminders that are due. -/
  | dueReminders (now : Instant)
  /-- The users whose birthday is today. -/
  | dueBirthdays (now : Instant)
  /-- A reminder was dispatched. -/
  | mark (id : ReminderId)
  /-- Publish a task. -/
  | publish (type : TaskType) (body : List UInt8)
  /-- Create a notification. -/
  | createNotification (request : NotificationRequest)
  /-- Send a mail. -/
  | send (mail : EmailDelivery)
  /-- Give work to a handler outside the system. -/
  | handOver (work : TaskPayload)
  deriving DecidableEq, Repr

namespace Call

/-- The operation that a call asks for. -/
def operation : Call → Operation
  | .dueReminders _ => .dueReminders
  | .dueBirthdays _ => .dueBirthdays
  | .mark _ => .mark
  | .publish _ _ => .publish
  | .createNotification _ => .createNotification
  | .send _ => .send
  | .handOver _ => .handOver

/-- How a call can fail. -/
def Failure (call : Call) : Type := call.operation.Failure

/-- What a call results in. -/
def Result : Call → Type
  | .dueReminders _ => List Reminder
  | .dueBirthdays _ => List Birthday
  | .createNotification _ => StoredNotification
  | .publish _ _ => TaskId
  | .mark _ | .send _ | .handOver _ => Unit

/-- The answer to a call. -/
abbrev Reply (call : Call) : Type := Except call.Failure call.Result

end Call

/-- A sequence of calls, each chosen by the answers to those before it. -/
inductive Program (α : Type) where
  /-- No more calls. -/
  | done (value : α)
  /-- A call with an optional limit of time; there is no answer when the limit passes. -/
  | ask (call : Call) (limit : Option Duration) (next : Option call.Reply → Program α)

namespace Program

variable {α β : Type}

/-- One program after another. -/
def bind : Program α → (α → Program β) → Program β
  | .done value, rest => rest value
  | .ask call limit next, rest => .ask call limit fun reply => (next reply).bind rest

instance : Monad Program where
  pure := .done
  bind := .bind

/-- A call with a limit of time. -/
def within (limit : Duration) (call : Call) : Program (Option call.Reply) :=
  .ask call (some limit) .done

/-- A call without a limit; it has no value until there is an answer. -/
def await (call : Call) : Program (Option call.Reply) := .ask call none .done

/-- The value of a program and the state of its surroundings after it, when every call is answered
from the state at once, or not at all. -/
def run {σ : Type} (answer : (call : Call) → σ → Option call.Reply × σ) :
    Program α → σ → α × σ
  | .done value, state => (value, state)
  | .ask call _ next, state =>
    let (reply, state) := answer call state
    (next reply).run answer state

end Program

end ReminderDispatch
