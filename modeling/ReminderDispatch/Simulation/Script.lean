import ReminderDispatch.Program

/-!
# Scripts

In a simulation a script says how collaborators behave: for every operation, what becomes of its
next calls. A call for which the script says nothing is answered at once.
-/

namespace ReminderDispatch.Simulation

/-- How a call ends; `ε` tells the failures of its operation. -/
inductive Ending (ε : Type) where
  /-- The collaborator answers. -/
  | answered
  /-- The collaborator fails without doing anything. -/
  | refused (failure : ε)
  /-- Whoever made the call breaks off. -/
  | crashed
  /-- The call does not end. -/
  | never

/-- The behaviour of a collaborator in one call. -/
structure Behaviour (ε : Type) where
  /-- The time that the call takes. -/
  delay : Duration
  /-- How the call ends after this time. -/
  ending : Ending ε

/-- An answer at once. -/
def Behaviour.prompt {ε : Type} : Behaviour ε := ⟨.zero, .answered⟩

/-- The behaviours that are to come, for every operation. -/
structure Script where
  /-- The behaviours in the next calls of an operation, in order. -/
  upcoming : (operation : Operation) → List (Behaviour operation.Failure)

namespace Script

/-- A script that says nothing. -/
def blank : Script := ⟨fun _ => []⟩

/-- Say something else about an operation. -/
def replace (script : Script) (operation : Operation)
    (behaviours : List (Behaviour operation.Failure)) : Script :=
  ⟨fun other => if same : operation = other then same ▸ behaviours else script.upcoming other⟩

/-- Say more about an operation. -/
def append (script : Script) (operation : Operation)
    (behaviours : List (Behaviour operation.Failure)) : Script :=
  script.replace operation (script.upcoming operation ++ behaviours)

/-- The behaviour in the next call of an operation, and the script after it. -/
def take (script : Script) (operation : Operation) : Behaviour operation.Failure × Script :=
  match script.upcoming operation with
  | [] => (.prompt, script)
  | first :: more => (first, script.replace operation more)

end Script

end ReminderDispatch.Simulation
