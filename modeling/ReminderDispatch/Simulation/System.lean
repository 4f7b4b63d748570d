import ReminderDispatch.Number.Powers
import ReminderDispatch.Simulation.Actor
import ReminderDispatch.Startup

/-!
# Simulated systems

A system is a world with actors. At every moment the actors that can go on take turns, each until
it has to wait; when none can go on, time passes to the next alarm. Alarms that go off at one moment
wake their actors in the order in which these began to wait. Besides the actors there is the
foreground, which gives way to the actors only while it waits.
-/

namespace ReminderDispatch.Simulation

/-- A world with actors. -/
structure System where
  /-- The clocks and the collaborators. -/
  world : World
  /-- What gives tasks to their handlers. -/
  dispatcher : Dispatcher
  /-- The actors, in the order in which they were started. -/
  actors : List Actor
  /-- How many actors were ever started. -/
  started : Nat
  /-- How many groups of actors were ever started. -/
  groups : Nat
  /-- How many turns were taken. -/
  turns : Nat

namespace System

/-- A system without actors, whose clocks start at a reading of the wall clock. -/
def new (collaborators : Collaborators) (start : Instant) : System where
  world := {
    now := 0
    wall := start
    origin := start
    published := 0
    exchange := collaborators.exchange
    reminders := collaborators.reminders
    notifications := collaborators.notifications
    outbox := collaborators.outbox
    script := .blank
    log := []
    awake := [] }
  dispatcher := collaborators.dispatcher
  actors := []
  started := 0
  groups := 0
  turns := 0

/-- An actor can go on. -/
def wake (system : System) (number : Nat) : System :=
  { system with world := system.world.wake number }

/-- Change actors. -/
def updateActors (system : System) (change : Actor → Actor) : System :=
  { system with actors := system.actors.map change }

/-- An actor takes its turn. One that need not wait takes the next turn as well. -/
def takeTurn (system : System) (actor : Actor) : System :=
  let (activity, world) :=
    actor.activity.turn system.dispatcher actor.number actor.signal system.world
  let awake :=
    if activity.canGoOn world.now actor.signal then actor.number :: world.awake else world.awake
  let later := { actor with activity := activity, since := system.turns }
  { system with
    world := { world with awake := awake }
    turns := system.turns + 1
    actors := system.actors.map fun other => if other.number = actor.number then later else other }

/-- The first actor that can go on takes its turn. -/
def step (system : System) : System :=
  match system.world.awake with
  | [] => system
  | number :: more =>
    let system := { system with world := { system.world with awake := more } }
    match system.actors.find? (·.number == number) with
    | some actor => system.takeTurn actor
    | none => system

/-- The moment of the next alarm. -/
def nextAlarm (system : System) : Option Moment :=
  (system.actors.map (·.activity.alarm)).foldl earlier none

/-- The actors whose alarm has gone off, in the order in which they wake. -/
def alarmed (system : System) : List Nat :=
  let due := system.actors.filter fun actor => hasCome system.world.now actor.activity.alarm
  (due.mergeSort fun a b => a.since ≤ b.since).map (·.number)

/-- Time passes up to a moment, and the actors whose alarm goes off wake. -/
def moveTo (system : System) (moment : Moment) : System :=
  let moved := { system with world := system.world.moveTo moment }
  moved.alarmed.foldl wake moved

/-- The turns after which a run at one moment, or up to one moment, is given up. -/
def patience : Nat := twoTo 60

/-- At most so many turns are taken at this moment. -/
def settleWithin : Nat → System → System
  | 0, system => system
  | turns + 1, system =>
    if system.world.awake.isEmpty then system else settleWithin turns system.step

/-- The actors take turns until none can go on. -/
def settle (system : System) : System := settleWithin patience system

/-- Turns are taken and time passes in at most so many steps, until the foreground can go on: at a
deadline or when a condition holds. -/
def waitWithin (deadline : Option Moment) (isOver : System → Bool) : Nat → System → System
  | 0, system => system
  | steps + 1, system =>
    if isOver system || hasCome system.world.now deadline then system
    else if !system.world.awake.isEmpty then waitWithin deadline isOver steps system.step
    else
      match earlier system.nextAlarm deadline with
      | some moment => waitWithin deadline isOver steps (system.moveTo moment)
      | none => system

/-- The foreground waits for a deadline or for a condition. -/
def wait (system : System) (deadline : Option Moment) (isOver : System → Bool) : System :=
  waitWithin deadline isOver patience system

/-- The foreground executes a program: its value, unless it breaks off. -/
def perform {α : Type} : Program α → System → Option α × System
  | .done value, system => (some value, system)
  | .ask call limit next, system =>
    let (progress, world) := system.world.begin call limit
    let system := { system with world := world }.wait progress.alarm fun _ => false
    match progress.status system.world with
    | (.over reply, world) => perform (next reply) { system with world := world }
    | (_, world) => (none, { system with world := world })

/-- Start actors of one group: the number of the group. -/
def start (system : System) (activities : List Activity) : Nat × System :=
  let group := system.groups
  let launch := fun (system : System) (activity : Activity) =>
    let actor : Actor := ⟨system.started, group, .silent, activity, system.turns⟩
    { system with actors := system.actors ++ [actor], started := system.started + 1 }.wake
      actor.number
  (group, activities.foldl launch { system with groups := system.groups + 1 })

/-- Give a signal to a group, which wakes the actors that heed it. -/
def signal (system : System) (group : Nat) (signal : StopSignal) : System :=
  let members := system.actors.filter (·.group == group)
  let heeding := members.filter (·.activity.heedsSignal)
  let told := system.updateActors fun actor =>
    if actor.group = group then { actor with signal := signal } else actor
  (heeding.map (·.number)).foldl wake told

/-- All actors of a group are over. -/
def isOver (group : Nat) (system : System) : Bool := system.actors.all (·.isOverIn group)

/-- An actor of a group has broken off. -/
def hasCrashed (group : Nat) (system : System) : Bool :=
  system.actors.any fun actor => actor.group == group && actor.activity.hasCrashed

/-- Remove the actors of a group, whatever they do. -/
def remove (system : System) (group : Nat) : System :=
  { system with actors := system.actors.filter fun actor => actor.group != group }

end System

end ReminderDispatch.Simulation
