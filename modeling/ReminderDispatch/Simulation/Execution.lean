import ReminderDispatch.Simulation.World

/-!
# Executions of programs

How far the execution of a program has come at a moment. The execution goes on without a pause
until it has to wait for the end of a call or for the limit of one. A call that ends at the moment
of its limit has ended in time; a call whose limit has passed has no effect.
-/

namespace ReminderDispatch.Simulation

/-- The earlier of two moments that may never come. -/
def earlier : Option Moment → Option Moment → Option Moment
  | some a, some b => some (min a b)
  | some a, none => some a
  | none, other => other

/-- The moment has come. -/
def hasCome (now : Moment) (moment : Option Moment) : Bool := moment.any (· ≤ now)

/-- A call that has begun. -/
structure CallInProgress (call : Call) where
  /-- How the call will end. -/
  ending : Ending call.Failure
  /-- The moment at which the call ends. -/
  endsAt : Option Moment
  /-- The moment at which the limit of the call passes. -/
  limitAt : Option Moment

/-- What has come of a call. -/
inductive CallStatus (call : Call) where
  /-- The call is over, with an answer unless its limit has passed. -/
  | over (reply : Option call.Reply)
  /-- Whoever made the call has broken off. -/
  | crashed
  /-- The call goes on. -/
  | waiting

namespace CallInProgress

variable {call : Call}

/-- The moment at which there is news of the call. -/
def alarm (progress : CallInProgress call) : Option Moment :=
  earlier progress.endsAt progress.limitAt

/-- What has come of the call in a world. -/
def status (progress : CallInProgress call) (world : World) : CallStatus call × World :=
  if hasCome world.now progress.endsAt then
    match progress.ending with
    | .answered =>
      match world.answer call with
      | (some reply, world) => (.over (some reply), world)
      | (none, world) => (.crashed, world)
    | .refused failure => (.over (some (.error failure)), world)
    | .crashed => (.crashed, world)
    | .never => (.waiting, world)
  else if hasCome world.now progress.limitAt then (.over none, world)
  else (.waiting, world)

end CallInProgress

/-- A call begins. -/
def World.begin (world : World) (call : Call) (limit : Option Duration) :
    CallInProgress call × World :=
  let (behaviour, script) := world.script.take call.operation
  let endsAt := match behaviour.ending with
    | .never => none
    | .answered | .refused _ | .crashed => some (world.now + behaviour.delay.nanos)
  let progress : CallInProgress call := {
    ending := behaviour.ending
    endsAt := endsAt
    limitAt := limit.map fun limit => world.now + limit.nanos }
  (progress, { world with script := script, log := world.log ++ [⟨world.now, call⟩] })

/-- How far the execution of a program has come. -/
inductive Execution (α : Type) where
  /-- The program has yet to start. -/
  | ready (program : Program α)
  /-- A call goes on, and the program goes on with its answer. -/
  | calling (call : Call) (progress : CallInProgress call)
    (next : Option call.Reply → Program α)
  /-- The program has come to its end. -/
  | returned (value : α)
  /-- The program broke off. -/
  | crashed

namespace Execution

variable {α : Type}

/-- The moment at which the execution can go on. -/
def alarm : Execution α → Option Moment
  | .calling _ progress _ => progress.alarm
  | .ready _ | .returned _ | .crashed => none

/-- Execute a program until it has to wait. -/
def start : Program α → World → Execution α × World
  | .done value, world => (.returned value, world)
  | .ask call limit next, world =>
    let (progress, world) := world.begin call limit
    match progress.status world with
    | (.over reply, world) => start (next reply) world
    | (.crashed, world) => (.crashed, world)
    | (.waiting, world) => (.calling call progress next, world)

/-- Go on with an execution until it has to wait. -/
def resume : Execution α → World → Execution α × World
  | .ready program, world => start program world
  | .calling call progress next, world =>
    match progress.status world with
    | (.over reply, world) => start (next reply) world
    | (.crashed, world) => (.crashed, world)
    | (.waiting, world) => (.calling call progress next, world)
  | execution, world => (execution, world)

end Execution

end ReminderDispatch.Simulation
