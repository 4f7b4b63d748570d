import ReminderDispatch.Proofs.Pipeline.Workshop
import ReminderDispatch.Simulation.Actor

/-!
# Simulated workers

The workers of a simulation whose script says nothing are at work in a workshop: the world answers
as its collaborators do under the readings of its clocks, and each turn of a simulated worker is a
sequence of turns in the workshop, one for each call of a handler. So what is shown of all runs of a
workshop holds of the simulation.
-/

namespace ReminderDispatch.Simulation

variable {world : World} {dispatcher : Dispatcher} {number : Nat} {workers : List Workman}
  {workman : Workman} {delivery : Delivery} {signal : StopSignal}

/-! ## Worlds -/

/-- What has come of a call that was answered, or that broke off. -/
def CallStatus.ofAnswer {call : Call} : Option call.Reply → CallStatus call
  | some reply => .over (some reply)
  | none => .crashed

namespace World

/-- The collaborators in a world. -/
def shared (world : World) (dispatcher : Dispatcher) : Collaborators where
  exchange := world.exchange
  reminders := world.reminders
  notifications := world.notifications
  outbox := world.outbox
  dispatcher := dispatcher

/-- What the clocks of a world show, and the identifier of its next task. -/
def reading (world : World) : Reading where
  now := world.now
  wall := world.wall
  brokerWall := world.brokerClock
  id := .madeAt world.brokerClock world.published

/-- Nothing is said about the calls that are to come. -/
def IsPrompt (world : World) : Prop := ∀ operation, world.script.upcoming operation = []

theorem foldl_wake (world : World) (dispatcher : Dispatcher) (woken : List Nat) :
    (woken.foldl wake world).shared dispatcher = world.shared dispatcher ∧
      (woken.foldl wake world).script = world.script := by
  induction woken generalizing world with
  | nil => exact ⟨rfl, rfl⟩
  | cons number more ih =>
    obtain ⟨shared, script⟩ := ih (world.wake number)
    have same : (world.wake number).shared dispatcher = world.shared dispatcher ∧
        (world.wake number).script = world.script := by
      unfold wake
      split <;> exact ⟨rfl, rfl⟩
    exact ⟨shared.trans same.1, script.trans same.2⟩

/-- Whoever wakes when the exchange changes, the other collaborators are as before. -/
theorem withExchange_shared (world : World) (exchange : Exchange) (woken : List Nat) :
    (world.withExchange exchange woken).shared dispatcher =
      { world.shared dispatcher with exchange := exchange } :=
  (foldl_wake { world with exchange := exchange } dispatcher woken).1

theorem withExchange_script (world : World) (exchange : Exchange) (woken : List Nat) :
    (world.withExchange exchange woken).script = world.script :=
  (foldl_wake { world with exchange := exchange } (.wired .zero) woken).2

/-- A world publishes as its collaborators do. -/
theorem publish_shared (world : World) (dispatcher : Dispatcher) (type : TaskType)
    (body : List UInt8) :
    (some (world.publish type body).1, (world.publish type body).2.shared dispatcher) =
        (world.shared dispatcher).answer world.reading (.publish type body) ∧
      (world.publish type body).2.script = world.script := by
  rcases published : world.exchange.publish world.now
      ⟨.madeAt world.brokerClock world.published, type, body, world.brokerClock⟩ with
    ⟨failure | woken, exchange⟩
  · simp only [publish, Collaborators.answer, shared, reading, published]
    exact ⟨rfl, trivial⟩
  · simp only [publish, Collaborators.answer, reading, published, withExchange_shared,
      withExchange_script]
    simp only [shared, published]
    exact ⟨rfl, trivial⟩

/-- A world answers as its collaborators do under its readings, and its script is as before. -/
theorem answer_shared (world : World) (dispatcher : Dispatcher) (call : Call) :
    ((world.answer call).1, (world.answer call).2.shared dispatcher) =
        (world.shared dispatcher).answer world.reading call ∧
      (world.answer call).2.script = world.script := by
  cases call with
  | dueReminders | dueBirthdays | mark | createNotification | send | handOver => exact ⟨rfl, rfl⟩
  | publish type body => exact world.publish_shared dispatcher type body

/-- The result of the work on a task is reported as in a workshop, whether it is accepted or not. -/
theorem settle_shared (world : World) (dispatcher : Dispatcher) (number : Nat)
    (delivery : Delivery) (result : Except DispatchError Unit) :
    ((some .free, (world.settle delivery result).2.shared dispatcher) :
        Option Workman × Collaborators) =
        Workman.turn (world.shared dispatcher) world.reading number
          (.working delivery (.done result)) ∧
      (world.settle delivery result).2.script = world.script := by
  cases settled : world.exchange.settle world.now delivery result with
  | error failure =>
    simp only [settle, Workman.turn, shared, reading, settled, and_self]
  | ok outcome =>
    obtain ⟨settlement, woken, exchange⟩ := outcome
    simp only [settle, Workman.turn, reading, settled, withExchange_shared, withExchange_script]
    simp only [shared, settled, and_self]

/-- A call that begins in a prompt world ends at once with the answer of the collaborators, or it
breaks off as it does with them. -/
theorem begin_prompt (prompt : world.IsPrompt) (dispatcher : Dispatcher) (call : Call)
    (limit : Option Duration) :
    ∃ reply later, (world.begin call limit).1.status (world.begin call limit).2 =
        (.ofAnswer reply, later) ∧
      (world.shared dispatcher).answer world.reading call = (reply, later.shared dispatcher) ∧
      later.IsPrompt := by
  have taken : world.script.take call.operation = (.prompt, world.script) := by
    unfold Script.take
    rw [prompt call.operation]
  have ends : hasCome world.now (some (world.now + Duration.zero.nanos)) = true := by
    simp [hasCome, Duration.zero]
  obtain ⟨answered, script⟩ := answer_shared
    { world with log := world.log ++ [⟨world.now, call⟩] } dispatcher call
  refine ⟨_, _, ?_, answered.symm, fun operation => ?_⟩
  · simp only [begin, taken, Behaviour.prompt, CallInProgress.status, ends, if_true]
    generalize World.answer _ call = outcome
    rcases outcome with ⟨_ | reply, later⟩ <;> rfl
  · rw [script]
    exact prompt operation

end World

/-! ## Workers -/

/-- A simulated worker as a worker of a workshop. There is none in the middle of a call. -/
def RunningWorker.workman? : RunningWorker → Option Workman
  | .free => some .free
  | .listening alarm => some (.listening alarm)
  | .working delivery (.ready program) => some (.working delivery program)
  | .working delivery (.returned result) => some (.working delivery (.done result))
  | .working _ (.calling _ _ _) => none
  | .stopped => some .stopped
  | .crashed | .working _ .crashed => some .crashed

/-- The execution has come to an end, or it broke off. -/
def Execution.IsOver {α : Type} : Execution α → Prop
  | .returned _ | .crashed => True
  | .ready _ | .calling _ _ _ => False

/-- A worker of the shop takes a turn under the readings of the world. -/
theorem leads_turn {next : Option Workman} {shared : Collaborators}
    (found : workers[number]? = some workman)
    (turned : workman.turn (world.shared dispatcher) world.reading number = (next, shared)) :
    Workshop.machine.Leads ⟨world.shared dispatcher, workers⟩
      ⟨shared, workers.set number (next.getD .crashed)⟩ := by
  have inShop : (Workshop.mk (world.shared dispatcher) workers).workers[number]? = some workman :=
    found
  have leads := Workshop.leads_takeTurn inShop world.reading
  rw [Workshop.takeTurn_eq inShop, turned] at leads
  exact leads

/-- In a prompt world a program is executed to its end, or until it breaks off, one turn of the
workshop for each call. -/
theorem start_leads {program : Program (Except DispatchError Unit)} (prompt : world.IsPrompt)
    (dispatcher : Dispatcher) (found : workers[number]? = some (.working delivery program)) :
    ∃ execution workman after, Execution.start program world = (execution, after) ∧
      execution.IsOver ∧ RunningWorker.workman? (.working delivery execution) = some workman ∧
      after.IsPrompt ∧
      Workshop.machine.Leads ⟨world.shared dispatcher, workers⟩
        ⟨after.shared dispatcher, workers.set number workman⟩ := by
  induction program generalizing world workers with
  | done result =>
    refine ⟨.returned result, _, world, rfl, trivial, rfl, prompt, ?_⟩
    obtain ⟨inRange, same⟩ := List.getElem?_eq_some_iff.1 found
    rw [← same, List.set_getElem_self]
    exact .refl
  | ask call limit next ih =>
    obtain ⟨reply, later, status, answered, promptLater⟩ :=
      world.begin_prompt prompt dispatcher call limit
    have turned : Workman.turn (world.shared dispatcher) world.reading number
        (.working delivery (.ask call limit next)) =
          (reply.map fun told => .working delivery (next (some told)),
            later.shared dispatcher) := by
      simp only [Workman.turn, answered]
    have first := leads_turn found turned
    cases reply with
    | none =>
      refine ⟨.crashed, _, later, ?_, trivial, rfl, promptLater, first⟩
      rw [Execution.start]
      simp only [status, CallStatus.ofAnswer]
    | some told =>
      obtain ⟨inRange, -⟩ := List.getElem?_eq_some_iff.1 found
      have foundNext : (workers.set number (.working delivery (next (some told))))[number]? =
          some (.working delivery (next (some told))) := List.getElem?_set_self inRange
      obtain ⟨execution, workman, after, executed, isOver, ended, promptAfter, rest⟩ :=
        ih (some told) promptLater foundNext
      rw [List.set_set] at rest
      refine ⟨execution, workman, after, ?_, isOver, ended, promptAfter, first.trans rest⟩
      rw [Execution.start]
      simp only [status, CallStatus.ofAnswer, executed]

/-- A worker of the shop can do what a simulated worker has done in its turn. -/
def Follows (dispatcher : Dispatcher) (number : Nat) (world : World) (workers : List Workman)
    (outcome : RunningWorker × World) : Prop :=
  ∃ next, outcome.1.workman? = some next ∧ outcome.2.IsPrompt ∧
    Workshop.machine.Leads ⟨world.shared dispatcher, workers⟩
      ⟨outcome.2.shared dispatcher, workers.set number next⟩

/-- To do nothing is no turn. -/
theorem follows_self {worker : RunningWorker} (prompt : world.IsPrompt)
    (same : worker.workman? = some workman) (found : workers[number]? = some workman) :
    Follows dispatcher number world workers (worker, world) := by
  obtain ⟨inRange, isWorkman⟩ := List.getElem?_eq_some_iff.1 found
  refine ⟨workman, same, prompt, ?_⟩
  rw [← isWorkman, List.set_getElem_self]
  exact .refl

/-- A simulated worker looks for a task as a worker of the shop does. -/
theorem follows_look (prompt : world.IsPrompt) (idle : workman.IsIdle)
    (found : workers[number]? = some workman) :
    Follows dispatcher number world workers
      (workerTurn dispatcher number .silent world .free) := by
  have looks : workman.turn (world.shared dispatcher) world.reading number =
      Workman.turn (world.shared dispatcher) world.reading number .free := by
    rcases idle with rfl | ⟨alarm, rfl⟩ <;> rfl
  have simulated : workerTurn dispatcher number .silent world .free =
      ((Worker.look number world.now (fun delivery =>
          Execution.ready (dispatcher.dispatch delivery.envelope)) world.exchange).1,
        world.withExchange (Worker.look number world.now (fun delivery =>
          Execution.ready (dispatcher.dispatch delivery.envelope)) world.exchange).2 []) := rfl
  have turned : Workman.turn (world.shared dispatcher) world.reading number .free =
      (some (Worker.look number world.now (fun delivery =>
          dispatcher.dispatch delivery.envelope) world.exchange).1,
        { world.shared dispatcher with exchange := (Worker.look number world.now (fun delivery =>
          dispatcher.dispatch delivery.envelope) world.exchange).2 }) := rfl
  rw [simulated]
  rw [turned] at looks
  unfold Worker.look at looks ⊢
  -- What is found does not depend on how far the work on it has come.
  generalize world.exchange.look world.now number = outcome at looks ⊢
  rcases outcome with ⟨_ | delivery | alarm, exchange⟩
  · exact ⟨.stopped, rfl, prompt, leads_turn found looks⟩
  · exact ⟨.working delivery (dispatcher.dispatch delivery.envelope), rfl, prompt,
      leads_turn found looks⟩
  · exact ⟨.listening alarm, rfl, prompt, leads_turn found looks⟩

/-- A simulated worker reports the result of a task as a worker of the shop does. -/
theorem follows_settle {result : Except DispatchError Unit} (prompt : world.IsPrompt)
    (dispatcher : Dispatcher)
    (found : workers[number]? = some (.working delivery (.done result))) :
    Follows dispatcher number world workers (.free, (world.settle delivery result).2) := by
  obtain ⟨turned, script⟩ := world.settle_shared dispatcher number delivery result
  refine ⟨.free, rfl, fun operation => ?_, leads_turn found turned.symm⟩
  rw [script]
  exact prompt operation

/-- The turn of a simulated worker in a prompt world is a sequence of turns in a workshop, and it
leaves the worker between two calls. -/
theorem workerTurn_follows {worker : RunningWorker} (prompt : world.IsPrompt)
    (same : worker.workman? = some workman) (found : workers[number]? = some workman) :
    Follows dispatcher number world workers
      (workerTurn dispatcher number .silent world worker) := by
  cases worker with
  | free =>
    cases same
    exact follows_look prompt (.inl rfl) found
  | listening alarm =>
    cases same
    exact follows_look prompt (.inr ⟨alarm, rfl⟩) found
  | stopped => exact follows_self prompt same found
  | crashed => exact follows_self prompt same found
  | working delivery execution =>
    cases execution with
    | calling call progress next => cases same
    | crashed =>
      cases same
      exact follows_self prompt rfl found
    | returned result =>
      cases same
      exact follows_settle prompt dispatcher found
    | ready program =>
      cases same
      obtain ⟨execution, workman, after, executed, isOver, ended, promptAfter, leads⟩ :=
        start_leads prompt dispatcher found
      cases execution with
      | ready | calling => exact isOver.elim
      | crashed =>
        cases ended
        have simulated : workerTurn dispatcher number .silent world
            (.working delivery (.ready program)) = (.crashed, after) := by
          simp only [workerTurn, Execution.resume, executed]
        rw [simulated]
        exact ⟨.crashed, rfl, promptAfter, leads⟩
      | returned result =>
        cases ended
        have simulated : workerTurn dispatcher number .silent world
            (.working delivery (.ready program)) = (.free, (after.settle delivery result).2) := by
          simp only [workerTurn, Execution.resume, executed]
        rw [simulated]
        obtain ⟨inRange, -⟩ := List.getElem?_eq_some_iff.1 found
        obtain ⟨next, isNext, promptLast, rest⟩ :=
          follows_settle promptAfter dispatcher (List.getElem?_set_self inRange)
        rw [List.set_set] at rest
        exact ⟨next, isNext, promptLast, leads.trans rest⟩

end ReminderDispatch.Simulation
