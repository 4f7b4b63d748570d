import ReminderDispatch.Duration
import ReminderDispatch.Json.Fault
import ReminderDispatch.Task.TaskId

/-!
# Failures

What can go wrong in the parts of the system, as causes with their wording. A failure is transient
or permanent: a transient one is worth another attempt. Failures of a part become failures of the
part that called it, and keep their kind on the way wherever the conversion says so.
-/

namespace ReminderDispatch

/-- Whether another attempt may succeed. -/
inductive FailureKind where
  /-- Another attempt may succeed. -/
  | transient
  /-- No attempt will succeed. -/
  | permanent
  deriving DecidableEq, Repr

/-- Only a transient failure is worth another attempt. -/
def FailureKind.allowsRetry : FailureKind → Bool
  | .transient => true
  | .permanent => false

/-- The routing key of a task. -/
structure TaskType where
  /-- The key, by convention a domain and an action with a colon between them. -/
  name : String
  deriving DecidableEq, Repr, Inhabited

/-- A required part of a payload or request is missing. -/
structure ValidationError where
  /-- What is missing. -/
  reason : String
  deriving DecidableEq, Repr

/-- The failure in words. -/
def ValidationError.message (failure : ValidationError) : String :=
  "validation failed: " ++ failure.reason

/-- A failure of a store. -/
inductive StoreError where
  /-- The store cannot be reached. -/
  | unavailable (reason : String)
  /-- The call took longer than its limit. -/
  | timeout (limit : Duration)
  /-- There is no such row. -/
  | notFound (what : String)
  /-- The store does not offer this operation. -/
  | notImplemented (operation : String)
  /-- The request is not valid. -/
  | validation (failure : ValidationError)
  deriving DecidableEq, Repr

namespace StoreError

/-- The failure in words. -/
def message : StoreError → String
  | .unavailable reason => "store unavailable: " ++ reason
  | .timeout limit => "store call timed out after " ++ limit.text
  | .notFound what => "not found: " ++ what
  | .notImplemented operation => "store operation not implemented: " ++ operation
  | .validation failure => failure.message

/-- A store that is slow or cannot be reached may answer later. -/
def kind : StoreError → FailureKind
  | .unavailable _ | .timeout _ => .transient
  | .notFound _ | .notImplemented _ | .validation _ => .permanent

end StoreError

/-- A failure of the broker. -/
inductive BrokerError where
  /-- The broker cannot be reached. -/
  | unavailable (reason : String)
  /-- The broker takes no more tasks. -/
  | closed
  /-- The broker holds no such task. -/
  | unknownTask (id : String)
  deriving DecidableEq, Repr

/-- The failure in words. -/
def BrokerError.message : BrokerError → String
  | .unavailable reason => "broker unavailable: " ++ reason
  | .closed => "broker is closed"
  | .unknownTask id => "unknown task: " ++ id

/-- A task could not be handed to the broker. -/
inductive EnqueueError where
  /-- The payload cannot be written. -/
  | serialization (type : TaskType) (reason : String)
  /-- The broker refused the task. -/
  | brokerUnavailable (failure : BrokerError)
  /-- The broker took longer than the limit. -/
  | timeout (limit : Duration)
  deriving DecidableEq, Repr

namespace EnqueueError

/-- The failure in words. -/
def message : EnqueueError → String
  | .serialization type reason =>
    "payload serialization failed for " ++ type.name ++ ": " ++ reason
  | .brokerUnavailable failure => "broker unavailable: " ++ failure.message
  | .timeout limit => "publish timed out after " ++ limit.text

/-- Only a payload that cannot be written stays so. -/
def kind : EnqueueError → FailureKind
  | .serialization _ _ => .permanent
  | .brokerUnavailable _ | .timeout _ => .transient

end EnqueueError

/-- A failure of the mail transport. -/
inductive TransportError where
  /-- There is no such template. -/
  | unknownTemplate (template : String)
  /-- The recipient is refused. -/
  | rejected (recipient : String)
  /-- The transport cannot be reached. -/
  | unavailable (reason : String)
  deriving DecidableEq, Repr

/-- The failure in words. -/
def TransportError.message : TransportError → String
  | .unknownTemplate template => "unknown template " ++ Text.quote template
  | .rejected recipient => "rejected recipient " ++ Text.quote recipient
  | .unavailable reason => "transport unavailable: " ++ reason

/-- A failure of a handler of tasks. -/
inductive HandlerError where
  /-- The task is not valid. -/
  | validation (failure : ValidationError)
  /-- What the task refers to does not exist. -/
  | notFound (what : String)
  /-- The task was refused for good. -/
  | rejected (reason : String)
  /-- The task may succeed later. -/
  | transient (reason : String)
  deriving DecidableEq, Repr

namespace HandlerError

/-- The failure in words. -/
def message : HandlerError → String
  | .validation failure => failure.message
  | .notFound what => "not found: " ++ what
  | .rejected reason => "rejected: " ++ reason
  | .transient reason => "transient failure: " ++ reason

/-- Every failure but the one that says otherwise is permanent. -/
def kind : HandlerError → FailureKind
  | .validation _ | .notFound _ | .rejected _ => .permanent
  | .transient _ => .transient

/-- What a failure of a store means to the handler that called it. -/
def ofStore : StoreError → HandlerError
  | .notFound what => .notFound what
  | .validation failure => .validation failure
  | failure => .transient failure.message

/-- What a failure of the transport means to the handler that called it. -/
def ofTransport : TransportError → HandlerError
  | .unavailable reason => .transient reason
  | failure => .rejected failure.message

end HandlerError

/-- A task could not be brought to its end. -/
inductive DispatchError where
  /-- No handler takes tasks of this type. -/
  | noHandler (type : TaskType)
  /-- The body of the task cannot be read. -/
  | decode (type : TaskType) (refusal : Json.Refusal)
  /-- The handler failed. -/
  | handler (failure : HandlerError)
  deriving DecidableEq, Repr

namespace DispatchError

/-- The failure in words. -/
def message : DispatchError → String
  | .noHandler type => "no handler registered for task_type=" ++ type.name
  | .decode type refusal => "cannot decode " ++ type.name ++ " payload: " ++ refusal.message
  | .handler failure => failure.message

/-- Only a handler can fail for a time. -/
def kind : DispatchError → FailureKind
  | .noHandler _ | .decode _ _ => .permanent
  | .handler failure => failure.kind

end DispatchError

/-- A query for due items failed, and its half of a scan did not take place. -/
inductive FailedQuery where
  /-- The query for due reminders. -/
  | reminders (failure : StoreError)
  /-- The query for due birthdays. -/
  | birthdays (failure : StoreError)
  deriving DecidableEq, Repr

/-- The failure in words. -/
def FailedQuery.message : FailedQuery → String
  | .reminders failure => "due reminder query failed: " ++ failure.message
  | .birthdays failure => "due birthday query failed: " ++ failure.message

/-- The failures of a scan in words. -/
def FailedQuery.summary (failures : List FailedQuery) : String :=
  "scan tick incomplete: " ++ "; ".intercalate (failures.map FailedQuery.message)

/-- A second handler for one task type. -/
structure AlreadyRegistered where
  /-- The task type. -/
  type : TaskType
  deriving DecidableEq, Repr

/-- The failure in words. -/
def AlreadyRegistered.message (failure : AlreadyRegistered) : String :=
  "Handler for task type '" ++ failure.type.name ++ "' is already registered"

/-- Task types that are produced and not handled. -/
structure MissingTaskTypes where
  /-- The task types, as they were asked for. -/
  types : List TaskType
  deriving DecidableEq, Repr

/-- The failure in words. -/
def MissingTaskTypes.message (failure : MissingTaskTypes) : String :=
  "Missing task types: " ++ Text.quoteList (failure.types.map (·.name))
    ++ ". These tasks are produced but have no handler."

end ReminderDispatch
