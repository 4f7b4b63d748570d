import ReminderDispatch.Program
import ReminderDispatch.Wire.Records

/-!
# Producer

The producer hands payloads to the broker. Success means that the broker has accepted the task.
-/

namespace ReminderDispatch

/-- Publish a payload under its type, within a limit of time. -/
def enqueue (limit : Duration) (payload : TaskPayload) : Program (Except EnqueueError TaskId) := do
  match ← Program.within limit (.publish payload.type (Wire.encode payload)) with
  | none => pure (.error (.timeout limit))
  | some (.error failure) => pure (.error (.brokerUnavailable failure))
  | some (.ok id) => pure (.ok id)

end ReminderDispatch
