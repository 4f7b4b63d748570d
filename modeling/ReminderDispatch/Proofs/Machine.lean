import Mathlib.Logic.Relation

/-!
# Machines

A machine is what may be asked in a state and the state after each request. What a machine keeps
over any number of requests is shown for one request and follows by induction.
-/

namespace ReminderDispatch

/-- What may be asked in a state, and what becomes of the state. -/
structure Machine (σ ρ : Type) where
  /-- The request may be made in the state. -/
  Allows : σ → ρ → Prop
  /-- The state after a request. -/
  perform : σ → ρ → σ

namespace Machine

variable {σ ρ : Type} (machine : Machine σ ρ)

/-- A state after one request that may be made. -/
def Step (before after : σ) : Prop :=
  ∃ request, machine.Allows before request ∧ machine.perform before request = after

/-- A state after any number of requests. -/
def Leads : σ → σ → Prop := Relation.ReflTransGen machine.Step

/-- The state after a list of requests. -/
def run (state : σ) (requests : List ρ) : σ := requests.foldl machine.perform state

/-- Each request of a list may be made at its turn. -/
def AllowsAll (state : σ) : List ρ → Prop
  | [] => True
  | request :: more => machine.Allows state request ∧ AllowsAll (machine.perform state request) more

instance decidableAllowsAll [∀ state request, Decidable (machine.Allows state request)] (state : σ) :
    (requests : List ρ) → Decidable (machine.AllowsAll state requests)
  | [] => .isTrue trivial
  | request :: more =>
    have := decidableAllowsAll (machine.perform state request) more
    inferInstanceAs (Decidable (machine.Allows state request ∧
      machine.AllowsAll (machine.perform state request) more))

/-- A list of requests that may be made leads from a state to another one. -/
theorem leads_run (state : σ) (requests : List ρ) (allowed : machine.AllowsAll state requests) :
    machine.Leads state (machine.run state requests) := by
  induction requests generalizing state with
  | nil => exact .refl
  | cons request more ih =>
    have first : machine.Step state (machine.perform state request) := ⟨request, allowed.1, rfl⟩
    exact .head first (ih (machine.perform state request) allowed.2)

/-- The requests of two lists may be made one after the other if those of the first one may be made,
and then those of the second one. -/
theorem allowsAll_append (state : σ) (requests more : List ρ) :
    machine.AllowsAll state (requests ++ more) ↔
      machine.AllowsAll state requests ∧ machine.AllowsAll (machine.run state requests) more := by
  induction requests generalizing state with
  | nil => exact ⟨fun all => ⟨trivial, all⟩, fun both => both.2⟩
  | cons request rest ih =>
    have later := ih (machine.perform state request)
    exact (and_congr_right fun _ => later).trans and_assoc.symm

/-- Two lists of requests are made one after the other. -/
theorem run_append (state : σ) (requests more : List ρ) :
    machine.run state (requests ++ more) = machine.run (machine.run state requests) more :=
  List.foldl_append

end Machine

end ReminderDispatch
