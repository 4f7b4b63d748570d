import ReminderDispatch.Handler

/-!
# Registry and dispatcher

A registry holds at most one handler for every task type. A dispatcher is built from a registry
once all the task types that it is expected to handle are there, and gives every task to the
handler of its type.
-/

namespace ReminderDispatch

/-- Handlers by task type. -/
structure Registry (κ : Type := PayloadKind) [WorkKind κ] where
  /-- The handlers, in the order of their registration. -/
  handlers : List (Handler κ)
  /-- No task type has two handlers. -/
  distinct : (handlers.map (·.type)).Nodup

namespace Registry

variable {κ : Type} [WorkKind κ]

/-- No handlers. -/
def empty : Registry κ := ⟨[], .nil⟩

/-- The handler of a task type. -/
def get? (registry : Registry κ) (type : TaskType) : Option (Handler κ) :=
  registry.handlers.find? fun handler => handler.type = type

/-- Add a handler, unless there is one for its task type. The registry changes in place. -/
def register (registry : Registry κ) (handler : Handler κ) :
    Except AlreadyRegistered Unit × Registry κ :=
  if taken : handler.type ∈ registry.handlers.map (·.type) then (.error ⟨handler.type⟩, registry)
  else (.ok (), ⟨registry.handlers ++ [handler], by
    simpa [List.nodup_append, registry.distinct] using fun other member same =>
      taken (List.mem_map.2 ⟨other, member, same⟩)⟩)

/-- The task types that have a handler, in the order of their names. -/
def types (registry : Registry κ) : List TaskType :=
  (registry.handlers.map (·.type)).mergeSort fun a b => decide (a.name ≤ b.name)

/-- How many handlers there are. -/
def size (registry : Registry κ) : Nat := registry.handlers.length

/-- There are no handlers. -/
def isEmpty (registry : Registry κ) : Bool := registry.handlers.isEmpty

end Registry

/-- What gives tasks to their handlers. -/
structure Dispatcher (κ : Type := PayloadKind) [WorkKind κ] where
  /-- The handlers. -/
  registry : Registry κ

section

variable {κ : Type} [WorkKind κ]

/-- Do the work of a task. -/
def Dispatcher.dispatch (dispatcher : Dispatcher κ) (envelope : Envelope) :
    Program (Except DispatchError Unit) :=
  match dispatcher.registry.get? envelope.type with
  | none => pure (.error (.noHandler envelope.type))
  | some handler => handler.handleBody envelope.body

end

/-- A dispatcher to be. -/
structure DispatcherDraft (κ : Type := PayloadKind) [WorkKind κ] where
  /-- The handlers so far. -/
  registry : Registry κ
  /-- The task types that must have a handler in the end. -/
  expected : Option (List TaskType)

namespace DispatcherDraft

variable {κ : Type} [WorkKind κ]

/-- Nothing is registered and nothing expected. -/
def new : DispatcherDraft κ := ⟨.empty, none⟩

/-- Add a handler. If this fails nothing is left of the draft. -/
def register (draft : DispatcherDraft κ) (handler : Handler κ) :
    Except AlreadyRegistered (DispatcherDraft κ) :=
  let (outcome, registry) := draft.registry.register handler
  outcome.map fun _ => { draft with registry := registry }

/-- Expect task types, in place of those that were expected before. -/
def expect (draft : DispatcherDraft κ) (types : List TaskType) : DispatcherDraft κ :=
  { draft with expected := some types }

/-- The expected task types without a handler. -/
def missing (draft : DispatcherDraft κ) : List TaskType :=
  (draft.expected.getD []).filter fun type => !draft.registry.types.contains type

/-- The dispatcher, if no expected task type lacks a handler. -/
def build (draft : DispatcherDraft κ) : Except MissingTaskTypes (Dispatcher κ) :=
  if draft.missing.isEmpty then .ok ⟨draft.registry⟩ else .error ⟨draft.missing⟩

end DispatcherDraft

end ReminderDispatch
