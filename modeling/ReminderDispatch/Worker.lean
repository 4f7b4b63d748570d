import ReminderDispatch.Broker.Exchange
import ReminderDispatch.StopSignal

/-!
# Workers

A worker takes tasks from the broker, one after the other. It heeds the signal to stop before it
looks for a task and while it waits for one, but never while it works on one, so that a task that
was taken is settled before the worker stops. A worker also stops when the broker is closed.
-/

namespace ReminderDispatch

/-- What a worker does; `ω` tells how far it has come with its work. -/
inductive Worker (ω : Type) where
  /-- The worker is about to look for a task. -/
  | free
  /-- The worker waits for a task, with an alarm at the given time. -/
  | listening (alarm : Option Moment)
  /-- The worker works on a task. -/
  | working (delivery : Delivery) (progress : ω)
  /-- The worker takes no more tasks. -/
  | stopped
  /-- The worker broke off, and its task stays unsettled. -/
  | crashed

namespace Worker

variable {ω : Type}

/-- The worker will do nothing more. -/
def isOver : Worker ω → Bool
  | .stopped | .crashed => true
  | .free | .listening _ | .working _ _ => false

/-- The signal is raised: a worker without a task stops. -/
def heed (number : Nat) (exchange : Exchange) : Worker ω → Worker ω × Option Nat × Exchange
  | .free => (.stopped, none, exchange)
  | .listening _ => (.stopped, exchange.cancel number)
  | worker => (worker, none, exchange)

/-- A worker looks for a task, and begins to work on the one that it finds. -/
def look (number : Nat) (now : Moment) (begin : Delivery → ω) (exchange : Exchange) :
    Worker ω × Exchange :=
  match exchange.look now number with
  | (.closed, exchange) => (.stopped, exchange)
  | (.leased delivery, exchange) => (.working delivery (begin delivery), exchange)
  | (.waits alarm, exchange) => (.listening alarm, exchange)

end Worker

end ReminderDispatch
