import ReminderDispatch.Program
import ReminderDispatch.Wire.Records

/-!
# Handlers

A handler takes the tasks of one kind of work. The handlers of the system check the work first and
then call a store or the mail transport within a limit of time. They do not look whether the same
work was done before.
-/

namespace ReminderDispatch

/-- Kinds of work, each with tasks of its own. -/
class WorkKind (κ : Type) where
  /-- The type of the tasks of a kind. -/
  type : κ → TaskType
  /-- What a task of a kind carries. -/
  Body : κ → Type
  /-- What the body of a task carries, read as a kind of work. -/
  read : (kind : κ) → List UInt8 → Except Json.Refusal (Body kind)

/-- The kinds of work of the process. -/
instance : WorkKind PayloadKind where
  type := PayloadKind.type
  Body := PayloadKind.Body
  read kind := (Wire.payload kind).readAll

/-- What the body of a task carries, unless it can not be read. -/
def WorkKind.decode {κ : Type} [WorkKind κ] (kind : κ) (body : List UInt8) :
    Except DispatchError (Body kind) :=
  (read kind body).mapError fun refusal => .decode (type kind) refusal

/-- What to do with the work of one kind, which is a kind of work of the process unless other kinds
are given. -/
structure Handler (κ : Type := PayloadKind) [WorkKind κ] where
  /-- The kind of work. -/
  kind : κ
  /-- What to do with a piece of work. -/
  handle : WorkKind.Body kind → Program (Except HandlerError Unit)

namespace Handler

variable {κ : Type} [WorkKind κ]

/-- The type of the tasks that a handler takes. -/
def type (handler : Handler κ) : TaskType := WorkKind.type handler.kind

/-- Read the body of a task and do the work. -/
def handleBody (handler : Handler κ) (body : List UInt8) : Program (Except DispatchError Unit) :=
  match WorkKind.decode handler.kind body with
  | .error failure => pure (.error failure)
  | .ok work => do
    match ← handler.handle work with
    | .ok () => pure (.ok ())
    | .error failure => pure (.error (.handler failure))

/-- Create a notification in the store. -/
def createNotification (limit : Duration) (work : NotificationDelivery) :
    Program (Except HandlerError Unit) :=
  match work.validate with
  | .error failure => pure (.error (.validation failure))
  | .ok () => do
    let request : NotificationRequest := ⟨work.userId, work.title, work.body, work.kind⟩
    match ← Program.within limit (.createNotification request) with
    | none => pure (.error (.ofStore (.timeout limit)))
    | some (.error failure) => pure (.error (.ofStore failure))
    | some (.ok _) => pure (.ok ())

/-- Send a mail through the transport. -/
def sendMail (limit : Duration) (work : EmailDelivery) : Program (Except HandlerError Unit) :=
  match work.validate with
  | .error failure => pure (.error (.validation failure))
  | .ok () => do
    match ← Program.within limit (.send work) with
    | none => pure (.error (.transient ("email send timed out after " ++ limit.text)))
    | some (.error failure) => pure (.error (.ofTransport failure))
    | some (.ok ()) => pure (.ok ())

/-- Give work to a handler outside and wait for its answer. -/
def passOn (work : TaskPayload) : Program (Except HandlerError Unit) := do
  match ← Program.await (.handOver work) with
  | some reply => pure reply
  | none => pure (.ok ())

/-- The handler of notifications. -/
def notification (limit : Duration) : Handler := ⟨.notification, createNotification limit⟩

/-- The handler of mails. -/
def email (limit : Duration) : Handler := ⟨.email, sendMail limit⟩

/-- A handler that takes any work of its kind and does nothing. -/
def accepting (kind : PayloadKind) : Handler := ⟨kind, fun _ => pure (.ok ())⟩

/-- A handler that gives its work to a handler outside. -/
def outside : PayloadKind → Handler
  | .email => ⟨.email, fun work => passOn (.email work)⟩
  | .notification => ⟨.notification, fun work => passOn (.notification work)⟩

end Handler

end ReminderDispatch
