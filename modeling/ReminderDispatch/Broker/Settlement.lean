import ReminderDispatch.Broker.Exchange

/-!
# Settlement

The result of the work on a leased task goes back to the broker. Success acknowledges the task; a
failure is reported in its own words and with its own kind, and the broker decides whether there is
another attempt.
-/

namespace ReminderDispatch

/-- What became of a leased task. -/
inductive Settlement where
  /-- The task is done. -/
  | acked
  /-- Another attempt follows after a delay. -/
  | retryScheduled (delay : Duration)
  /-- The task is given up. -/
  | deadLettered
  deriving DecidableEq, Repr

/-- What became of a task whose attempt failed. -/
def Settlement.ofFailure : Verdict → Settlement
  | .retryScheduled delay => .retryScheduled delay
  | .deadLettered => .deadLettered

/-- Report the result of the work on a leased task. -/
def Broker.settle (broker : Broker) (now : Moment) (delivery : Delivery)
    (result : Except DispatchError Unit) : Except BrokerError (Settlement × Broker) :=
  match result with
  | .ok () => (broker.ack delivery).map fun settled => (.acked, settled)
  | .error failure =>
    (broker.fail now delivery failure.message failure.kind).map fun (outcome, settled) =>
      (.ofFailure outcome, settled)

/-- Report the result of the work on a leased task: what became of the task, and the consumer that
wakes because another attempt was scheduled. -/
def Exchange.settle (exchange : Exchange) (now : Moment) (delivery : Delivery)
    (result : Except DispatchError Unit) :
    Except BrokerError (Settlement × Option Nat × Exchange) := do
  let (settlement, broker) ← exchange.broker.settle now delivery result
  let settled := { exchange with broker := broker }
  match settlement with
  | .retryScheduled _ => .ok (settlement, settled.ring)
  | .acked | .deadLettered => .ok (settlement, none, settled)

end ReminderDispatch
