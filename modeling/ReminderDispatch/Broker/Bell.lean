/-!
# The bell of a queue

Consumers without work listen for a bell. One ring wakes the consumer that has listened longest; if
nobody listens, the ring stays until the next consumer listens. A ring for all wakes everyone who
listens and does not stay.
-/

namespace ReminderDispatch

/-- The consumers that listen, and a ring that nobody heard yet. -/
structure Bell where
  /-- The consumers that listen, the longest first. -/
  listeners : List Nat
  /-- A ring is left over. -/
  rung : Bool
  deriving DecidableEq, Repr

namespace Bell

/-- A bell without listeners. -/
def silent : Bell := ⟨[], false⟩

/-- A consumer starts to listen at the end of the row. A left-over ring is used up by this. -/
def listen (bell : Bell) (consumer : Nat) : Bell := ⟨bell.listeners ++ [consumer], false⟩

/-- A left-over ring is used up without anybody listening. -/
def hush (bell : Bell) : Bell := { bell with rung := false }

/-- A consumer stops listening. -/
def leave (bell : Bell) (consumer : Nat) : Bell :=
  { bell with listeners := bell.listeners.filter (· ≠ consumer) }

/-- Ring once: the consumer that wakes, if one listens. -/
def ring (bell : Bell) : Option Nat × Bell :=
  match bell.listeners with
  | [] => (none, { bell with rung := true })
  | first :: more => (some first, { bell with listeners := more })

/-- Ring for all: the consumers that wake. -/
def ringAll (bell : Bell) : List Nat × Bell := (bell.listeners, { bell with listeners := [] })

end Bell

end ReminderDispatch
