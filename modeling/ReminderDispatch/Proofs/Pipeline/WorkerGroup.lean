import ReminderDispatch.Proofs.Broker.Custody
import ReminderDispatch.Proofs.Broker.Session
import ReminderDispatch.Proofs.Pipeline.Routing
import ReminderDispatch.Proofs.Pipeline.Workshop

/-!
# Groups of workers

A group is any number of workers who share a broker and a signal to stop. They go on in any order,
one piece of work at a time: a worker looks for a task, hears the answer to a call of its handler,
or reports the result of its task. The signal may be raised at any time. A worker heeds it while it
has no task; to look for a task is one piece of work, so that there is no moment at which the task
is handed out and the worker does not have it. A worker that has looked at the signal before it was
raised may still take one more task.

What handlers hear is up to those who answer, and other tasks may be published between any two
pieces of work, also by a handler. Every handler returns: nobody breaks off.
-/

namespace ReminderDispatch

open scoped List

/-- Workers who share a broker, with what came of the tasks that they took. -/
structure WorkerGroup where
  /-- The broker, with those who wait for it. -/
  exchange : Exchange
  /-- The handlers. -/
  dispatcher : Dispatcher
  /-- The time. -/
  now : Moment
  /-- The workers, by number. -/
  workers : List Workman
  /-- The workers were asked to stop. -/
  asked : Bool
  /-- The identifiers of the tasks that the broker accepted, in order. -/
  accepted : List TaskId
  /-- The deliveries that the workers took, in order. -/
  taken : List Delivery
  /-- The deliveries whose results were reported, in order, with the answers of the broker. -/
  reports : List (Delivery × Except BrokerError Settlement)

namespace WorkerGroup

/-- What can happen in a group. -/
inductive Act where
  /-- A task is published. -/
  | publish (envelope : Envelope)
  /-- A worker without a task looks for one. -/
  | look (number : Nat)
  /-- The handler of a worker hears the answer to its call, or goes on without one. -/
  | hear (number : Nat) (reply : (call : Call) → Option call.Reply)
  /-- A worker whose handler has returned reports the result. -/
  | report (number : Nat)
  /-- The workers are asked to stop. -/
  | request
  /-- A worker looks at the signal. -/
  | heed (number : Nat)
  /-- The broker is closed. -/
  | close
  /-- Time passes. -/
  | advance (span : Duration)

variable (group : WorkerGroup)

/-- The deliveries in the hands of the workers. -/
def inHand : List Delivery := group.workers.filterMap (·.inHand?)

/-- The deliveries whose results were reported. -/
def settled : List Delivery := group.reports.map (·.1)

/-- A task is published. -/
def publish (envelope : Envelope) : WorkerGroup :=
  match group.exchange.publish group.now envelope with
  | (.ok _, exchange) =>
    { group with exchange := exchange, accepted := group.accepted ++ [envelope.id] }
  | (.error _, exchange) => { group with exchange := exchange }

/-- A worker without a task looks for one. -/
def look (number : Nat) : WorkerGroup :=
  match group.workers[number]? with
  | some .free | some (.listening _) =>
    let begin := fun delivery : Delivery => group.dispatcher.dispatch delivery.envelope
    let (worker, exchange) := Worker.look number group.now begin group.exchange
    { group with
      exchange := exchange
      workers := group.workers.set number worker
      taken := group.taken ++ (Workman.inHand? worker).toList }
  | some (.working _ _) | some .stopped | some .crashed | none => group

/-- The handler of a worker goes on with an answer to its call, or without one. -/
def hear (number : Nat) (reply : (call : Call) → Option call.Reply) : WorkerGroup :=
  match group.workers[number]? with
  | some (.working delivery (.ask call _ next)) =>
    { group with workers := group.workers.set number (.working delivery (next (reply call))) }
  | some (.working _ (.done _)) | some .free | some (.listening _) | some .stopped
  | some .crashed | none => group

/-- A worker whose handler has returned reports the result, and is free whatever the broker says. -/
def report (number : Nat) : WorkerGroup :=
  match group.workers[number]? with
  | some (.working delivery (.done result)) =>
    let settlement := group.exchange.settle group.now delivery result
    { group with
      exchange := (settlement.map (·.2.2)).toOption.getD group.exchange
      workers := group.workers.set number .free
      reports := group.reports ++ [(delivery, settlement.map (·.1))] }
  | some (.working _ (.ask _ _ _)) | some .free | some (.listening _) | some .stopped
  | some .crashed | none => group

/-- A worker looks at the signal, which is raised. -/
def heed (number : Nat) : WorkerGroup :=
  match group.workers[number]? with
  | some worker =>
    let (next, _, exchange) := worker.heed number group.exchange
    { group with exchange := exchange, workers := group.workers.set number next }
  | none => group

/-- The group after something has happened. -/
def perform : Act → WorkerGroup
  | .publish envelope => group.publish envelope
  | .look number => group.look number
  | .hear number reply => group.hear number reply
  | .report number => group.report number
  | .request => { group with asked := true }
  | .heed number => group.heed number
  | .close => { group with exchange := group.exchange.close.2 }
  | .advance span => { group with now := group.now + span.nanos }

/-- No task gets an identifier that is in use, and nobody stops without being asked. -/
def Allows : Act → Prop
  | .publish envelope => envelope.id ∉ group.accepted
  | .heed _ => group.asked = true
  | .look _ | .hear _ _ | .report _ | .request | .close | .advance _ => True

instance (act : Act) : Decidable (group.Allows act) :=
  match act with
  | .publish envelope => inferInstanceAs (Decidable (envelope.id ∉ group.accepted))
  | .heed _ => inferInstanceAs (Decidable (group.asked = true))
  | .look _ | .hear _ _ | .report _ | .request | .close | .advance _ => .isTrue trivial

/-- Groups and what can happen in them. -/
def machine : Machine WorkerGroup Act := ⟨Allows, perform⟩

instance (group : WorkerGroup) (act : Act) : Decidable (machine.Allows group act) :=
  inferInstanceAs (Decidable (group.Allows act))

/-- So many workers begin at a new broker. -/
def spawned (policy : RetryPolicy) (dispatcher : Dispatcher) (workers : Nat) (now : Moment) :
    WorkerGroup where
  exchange := .new policy
  dispatcher := dispatcher
  now := now
  workers := .replicate workers .free
  asked := false
  accepted := []
  taken := []
  reports := []

variable {group after : WorkerGroup} {number : Nat} {worker next : Workman} {delivery : Delivery}
  {result : Except DispatchError Unit}

/-! ## Hands -/

/-- The worker with a number can be taken for the first one. -/
theorem inHand_perm (found : group.workers[number]? = some worker) :
    group.inHand ~ (worker :: group.workers.eraseIdx number).filterMap (·.inHand?) :=
  (perm_cons_eraseIdx found).filterMap _

/-- The worker that was put in the place of another one can be taken for the first one. -/
theorem inHand_set (found : group.workers[number]? = some worker) (next : Workman) :
    (next :: group.workers.eraseIdx number).filterMap (·.inHand?) ~
      (group.workers.set number next).filterMap (·.inHand?) :=
  ((set_perm_cons_eraseIdx found next).filterMap _).symm

/-- A worker that keeps what it has in hand changes nothing of what the workers have in hand. -/
theorem inHand_set_of_eq (found : group.workers[number]? = some worker)
    (same : next.inHand? = worker.inHand?) :
    (group.workers.set number next).filterMap (·.inHand?) ~ group.inHand := by
  have hands : (next :: group.workers.eraseIdx number).filterMap (·.inHand?) =
      (worker :: group.workers.eraseIdx number).filterMap (·.inHand?) := by
    rw [List.filterMap_cons, List.filterMap_cons, same]
  calc
    (group.workers.set number next).filterMap (·.inHand?) ~
        (next :: group.workers.eraseIdx number).filterMap (·.inHand?) :=
      (inHand_set found next).symm
    _ = (worker :: group.workers.eraseIdx number).filterMap (·.inHand?) := hands
    _ ~ group.inHand := (inHand_perm found).symm

/-- When the workers have stopped, nobody has anything in hand. -/
theorem inHand_of_stopped (stopped : ∀ worker ∈ group.workers, worker = .stopped) :
    group.inHand = [] :=
  List.filterMap_eq_nil_iff.2 fun worker member => by rw [stopped worker member]; rfl

/-- The signal takes nothing out of anybody's hands, and the broker does not notice it. -/
theorem heed_keeps (group : WorkerGroup) (number : Nat) :
    (group.heed number).inHand ~ group.inHand ∧
      (group.heed number).exchange.broker = group.exchange.broker := by
  unfold heed
  cases found : group.workers[number]? with
  | none => exact ⟨.refl _, rfl⟩
  | some worker =>
    have hand : Workman.inHand? (worker.heed number group.exchange).1 = worker.inHand? := by
      cases worker <;> rfl
    refine ⟨inHand_set_of_eq found hand, ?_⟩
    cases worker with
    | listening alarm => exact group.exchange.broker_cancel number
    | free | working | stopped | crashed => rfl

/-! ## One event -/

/-- The deliveries are in the custody of the workers, who are all there, and the broker has accepted
every report. -/
structure Kept (group : WorkerGroup) : Prop where
  /-- The deliveries that were taken are in hand or were reported. -/
  custody : group.exchange.broker.Custody group.inHand group.accepted group.taken group.settled
  /-- The broker has accepted every report. -/
  answered : ∀ report ∈ group.reports, ∃ settlement, report.2 = .ok settlement
  /-- Nobody broke off. -/
  standing : ∀ worker ∈ group.workers, worker ≠ .crashed

/-- Nobody broke off when a worker has gone on. -/
theorem Kept.standing_set (kept : group.Kept) (number : Nat) (next : Workman)
    (stands : next ≠ .crashed) :
    ∀ worker ∈ group.workers.set number next, worker ≠ .crashed := by
  intro worker member
  rcases List.mem_or_eq_of_mem_set member with earlier | rfl
  · exact kept.standing worker earlier
  · exact stands

/-- A new group has taken nothing. -/
theorem spawned_kept (policy : RetryPolicy) (dispatcher : Dispatcher) (workers : Nat)
    (now : Moment) : (spawned policy dispatcher workers now).Kept where
  custody := by
    have nobody : (spawned policy dispatcher workers now).inHand = [] := by
      refine List.filterMap_eq_nil_iff.2 fun worker member => ?_
      rw [List.eq_of_mem_replicate member]
      rfl
    rw [nobody]
    exact .new policy
  answered := by simp [spawned]
  standing worker member := by
    rw [List.eq_of_mem_replicate member]
    nofun

/-- A task is published. -/
theorem Kept.publish (kept : group.Kept) {envelope : Envelope}
    (isNew : envelope.id ∉ group.accepted) : (group.publish envelope).Kept := by
  unfold WorkerGroup.publish
  rcases published : group.exchange.publish group.now envelope with ⟨failure | woken, exchange⟩
  · obtain rfl := Exchange.publish_refused published
    exact kept
  · exact { kept with
      custody := kept.custody.publish isNew (Exchange.broker_publish published) }

/-- A worker without a task looks for one, and takes the one that it finds. -/
theorem Kept.search (kept : group.Kept) (found : group.workers[number]? = some worker)
    (idle : worker.IsIdle) {begin : Delivery → Program (Except DispatchError Unit)}
    {exchange : Exchange}
    (looked : Worker.look number group.now begin group.exchange = (next, exchange)) :
    { group with
      exchange := exchange
      workers := group.workers.set number next
      taken := group.taken ++ next.inHand?.toList }.Kept := by
  have custody := kept.custody.perm (inHand_perm found)
  rw [idle.held_cons] at custody
  rcases Workman.look_cases number group.now begin group.exchange with
    ⟨delivery, after, leased, takes⟩ | ⟨outcome, waiting, after, leased, nothing, rests, resting⟩
  · rw [takes] at looked
    obtain ⟨rfl, rfl⟩ := Prod.mk.inj looked
    refine ⟨?_, kept.answered, kept.standing_set number _ (by simp)⟩
    exact (custody.lease leased).perm (inHand_set found (.working delivery (begin delivery)))
  · rw [rests] at looked
    obtain ⟨rfl, rfl⟩ := Prod.mk.inj looked
    have empty : Workman.inHand? waiting = none := by
      rcases resting with rfl | ⟨alarm, rfl⟩ <;> rfl
    have stands : waiting ≠ .crashed := by
      rcases resting with rfl | ⟨alarm, rfl⟩ <;> simp
    refine ⟨?_, kept.answered, kept.standing_set number waiting stands⟩
    have hands := inHand_set found waiting
    rw [List.filterMap_cons_none empty] at hands
    rw [empty, Option.toList_none, List.append_nil]
    exact (custody.look leased nothing).perm hands

/-- A worker may look for a task. -/
theorem Kept.look (kept : group.Kept) (number : Nat) : (group.look number).Kept := by
  unfold WorkerGroup.look
  cases found : group.workers[number]? with
  | none => exact kept
  | some worker =>
    cases worker with
    | free => exact kept.search found (.inl rfl) rfl
    | listening alarm => exact kept.search found (.inr ⟨alarm, rfl⟩) rfl
    | working delivery progress => exact kept
    | stopped => exact kept
    | crashed => exact kept

/-- A worker goes on with what it has in hand. -/
theorem Kept.goOn (kept : group.Kept) (found : group.workers[number]? = some worker)
    (same : next.inHand? = worker.inHand?) (stands : next ≠ .crashed) :
    { group with workers := group.workers.set number next }.Kept :=
  ⟨kept.custody.perm (inHand_set_of_eq found same).symm, kept.answered,
    kept.standing_set number _ stands⟩

/-- A handler goes on. -/
theorem Kept.hear (kept : group.Kept) (number : Nat)
    (reply : (call : Call) → Option call.Reply) : (group.hear number reply).Kept := by
  unfold WorkerGroup.hear
  cases found : group.workers[number]? with
  | none => exact kept
  | some worker =>
    cases worker with
    | working delivery progress =>
      cases progress with
      | done result => exact kept
      | ask call limit next => exact kept.goOn found rfl nofun
    | free => exact kept
    | listening alarm => exact kept
    | stopped => exact kept
    | crashed => exact kept

/-- The broker accepts the report of a worker, whose hands are empty then. -/
theorem Kept.report_eq (kept : group.Kept)
    (found : group.workers[number]? = some (.working delivery (.done result))) :
    ∃ settlement exchange, group.report number = { group with
        exchange := exchange
        workers := group.workers.set number .free
        reports := group.reports ++ [(delivery, .ok settlement)] } ∧
      (group.report number).Kept := by
  have custody := kept.custody.perm (inHand_perm found)
  obtain ⟨settlement, broker, settled, released⟩ := custody.settle group.now result
  obtain ⟨woken, exchange, answered, rfl⟩ := Exchange.exists_settle settled
  have reported : group.report number = { group with
      exchange := exchange
      workers := group.workers.set number .free
      reports := group.reports ++ [(delivery, .ok settlement)] } := by
    unfold report
    simp only [found, answered]
    rfl
  refine ⟨settlement, exchange, reported, ?_⟩
  rw [reported]
  refine ⟨?_, ?_, kept.standing_set number .free (by simp)⟩
  · have settledAfter : { group with
        reports := group.reports ++ [(delivery, Except.ok settlement)] }.settled =
          group.settled ++ [delivery] := List.map_append
    rw [← settledAfter] at released
    exact released.perm (inHand_set found .free)
  · intro report member
    rcases List.mem_append.1 member with earlier | new
    · exact kept.answered report earlier
    · rw [List.mem_singleton.1 new]
      exact ⟨settlement, rfl⟩

/-- A worker may report the result of its task. -/
theorem Kept.report (kept : group.Kept) (number : Nat) : (group.report number).Kept := by
  cases found : group.workers[number]? with
  | none =>
    unfold WorkerGroup.report
    rw [found]
    exact kept
  | some worker =>
    rcases worker with _ | _ | ⟨delivery, result | _⟩ | _ | _
    case working.done =>
      obtain ⟨settlement, exchange, -, reported⟩ := kept.report_eq found
      exact reported
    all_goals
      unfold WorkerGroup.report
      rw [found]
      exact kept

/-- A worker looks at the signal. -/
theorem Kept.heed (kept : group.Kept) (number : Nat) : (group.heed number).Kept := by
  obtain ⟨hands, broker⟩ := group.heed_keeps number
  have custody := kept.custody.perm hands.symm
  rw [← broker] at custody
  unfold WorkerGroup.heed at custody ⊢
  cases found : group.workers[number]? with
  | none => exact kept
  | some worker =>
    rw [found] at custody
    have stands : (worker.heed number group.exchange).1 ≠ .crashed := by
      have standing := kept.standing worker (List.mem_of_getElem? found)
      cases worker with
      | crashed => exact absurd rfl standing
      | free | listening | working | stopped => nofun
    exact ⟨custody, kept.answered, kept.standing_set number _ stands⟩

/-- Whatever happens, the deliveries stay in the custody of the workers. -/
theorem Kept.perform (kept : group.Kept) {act : Act} (allowed : group.Allows act) :
    (group.perform act).Kept := by
  cases act with
  | publish envelope => exact kept.publish allowed
  | look number => exact kept.look number
  | hear number reply => exact kept.hear number reply
  | report number => exact kept.report number
  | request => exact ⟨kept.custody, kept.answered, kept.standing⟩
  | heed number => exact kept.heed number
  | close => exact ⟨kept.custody.close, kept.answered, kept.standing⟩
  | advance span => exact ⟨kept.custody, kept.answered, kept.standing⟩

/-- The deliveries stay in the custody of the workers, however long the group goes on. -/
theorem Kept.leads (kept : group.Kept) (run : machine.Leads group after) : after.Kept := by
  induction run with
  | refl => exact kept
  | tail _ step kept =>
    obtain ⟨act, allowed, rfl⟩ := step
    exact kept.perform allowed

/-! ## Handlers that return -/

/-- What a handler hears, call after call. -/
abbrev Replies : Type := Nat → (call : Call) → Option call.Reply

/-- The handler of a worker hears so many answers, and the worker reports the result. -/
def finish (number : Nat) (replies : Replies) : Nat → List Act
  | 0 => [.report number]
  | calls + 1 => .hear number (replies 0) :: finish number (fun call => replies (call + 1)) calls

/-- Whatever a handler hears, it returns after some calls, and the worker reports the result and is
free. -/
theorem Kept.finishes (kept : group.Kept) {progress : Program (Except DispatchError Unit)}
    (found : group.workers[number]? = some (.working delivery progress)) (replies : Replies) :
    ∃ calls settlement exchange, machine.AllowsAll group (finish number replies calls) ∧
      machine.run group (finish number replies calls) = { group with
        exchange := exchange
        workers := group.workers.set number .free
        reports := group.reports ++ [(delivery, .ok settlement)] } := by
  induction progress generalizing group replies with
  | done result =>
    obtain ⟨settlement, exchange, reported, -⟩ := kept.report_eq found
    exact ⟨0, settlement, exchange, ⟨trivial, trivial⟩, reported⟩
  | ask call limit next ih =>
    have heard : group.hear number (replies 0) = { group with
        workers := group.workers.set number (.working delivery (next (replies 0 call))) } := by
      unfold WorkerGroup.hear
      rw [found]
    have keptOn := kept.hear number (replies 0)
    obtain ⟨inRange, -⟩ := List.getElem?_eq_some_iff.1 found
    have goesOn : (group.hear number (replies 0)).workers[number]? =
        some (.working delivery (next (replies 0 call))) := by
      rw [heard]
      exact List.getElem?_set_self inRange
    obtain ⟨calls, settlement, exchange, allowed, finished⟩ :=
      ih (replies 0 call) keptOn goesOn fun call => replies (call + 1)
    refine ⟨calls + 1, settlement, exchange, ⟨trivial, allowed⟩, ?_⟩
    refine finished.trans ?_
    rw [heard]
    simp only [List.set_set]

/-! ## Workers that stop -/

/-- The workers come to their end: they look at the signal, and their handlers hear the given
answers. Nobody looks for a task. -/
def Act.IsLast (replies : Nat → Replies) : Act → Prop
  | .hear number reply => ∃ call, reply = replies number call
  | .report _ | .heed _ => True
  | .publish _ | .look _ | .request | .close | .advance _ => False

/-- A worker that finishes its task does not look for another one. -/
theorem isLast_finish {replies : Nat → Replies} {heard : Replies} (number : Nat)
    (among : ∀ call, ∃ other, heard call = replies number other) (calls : Nat) :
    ∀ act ∈ finish number heard calls, act.IsLast replies := by
  induction calls generalizing heard with
  | zero =>
    intro act member
    rw [List.mem_singleton.1 member]
    trivial
  | succ calls ih =>
    intro act member
    rcases List.mem_cons.1 member with rfl | later
    · exact among 0
    · exact ih (fun call => among (call + 1)) act later

/-- A worker without a task stops when it looks at the signal. -/
theorem Kept.heed_eq (kept : group.Kept) (found : group.workers[number]? = some worker)
    (empty : worker.inHand? = none) :
    ∃ exchange, group.heed number = { group with
      exchange := exchange
      workers := group.workers.set number .stopped } := by
  have standing := kept.standing worker (List.mem_of_getElem? found)
  unfold WorkerGroup.heed
  rw [found]
  cases worker with
  | free => exact ⟨_, rfl⟩
  | listening alarm => exact ⟨_, rfl⟩
  | working delivery progress => contradiction
  | stopped => exact ⟨_, rfl⟩
  | crashed => exact absurd rfl standing

/-- A worker that was asked to stop comes to its end without another task. -/
theorem Kept.stops (kept : group.Kept) (asked : group.asked = true)
    (found : group.workers[number]? = some worker) (replies : Nat → Replies) :
    ∃ acts, machine.AllowsAll group acts ∧ (∀ act ∈ acts, act.IsLast replies) ∧
      (machine.run group acts).asked = true ∧ (machine.run group acts).taken = group.taken ∧
      (machine.run group acts).workers = group.workers.set number .stopped := by
  cases worker with
  | working delivery progress =>
    obtain ⟨calls, settlement, exchange, allowed, finished⟩ :=
      kept.finishes found (replies number)
    have keptOn := kept.leads (machine.leads_run group _ allowed)
    obtain ⟨inRange, -⟩ := List.getElem?_eq_some_iff.1 found
    have isFree : (machine.run group (finish number (replies number) calls)).workers[number]? =
        some .free := by
      rw [finished]
      exact List.getElem?_set_self inRange
    have heeds : machine.AllowsAll (machine.run group (finish number (replies number) calls))
        [.heed number] := by
      rw [finished]
      exact ⟨asked, trivial⟩
    obtain ⟨exchange, heeded⟩ := keptOn.heed_eq isFree rfl
    have ran : machine.run group (finish number (replies number) calls ++ [.heed number]) =
        (machine.run group (finish number (replies number) calls)).heed number :=
      machine.run_append _ _ _
    refine ⟨finish number (replies number) calls ++ [.heed number],
      (machine.allowsAll_append _ _ _).2 ⟨allowed, heeds⟩, fun act member => ?_, ?_⟩
    · rcases List.mem_append.1 member with finishing | last
      · exact isLast_finish number (fun call => ⟨call, rfl⟩) calls act finishing
      · rw [List.mem_singleton.1 last]
        trivial
    · rw [ran, heeded, finished]
      exact ⟨asked, rfl, List.set_set _⟩
  | free | listening | stopped | crashed =>
    obtain ⟨exchange, heeded⟩ := kept.heed_eq found rfl
    refine ⟨[.heed number], ⟨asked, trivial⟩, fun act member => ?_, ?_⟩
    · rw [List.mem_singleton.1 member]
      trivial
    · have ran : machine.run group [.heed number] = group.heed number := rfl
      rw [ran, heeded]
      exact ⟨asked, rfl, rfl⟩

/-- A group that was asked to stop comes to its end without another task, worker by worker. -/
theorem Kept.stop_all (kept : group.Kept) (asked : group.asked = true)
    (replies : Nat → Replies) (number : Nat) (inRange : number ≤ group.workers.length) :
    ∃ acts, machine.AllowsAll group acts ∧ (∀ act ∈ acts, act.IsLast replies) ∧
      (machine.run group acts).asked = true ∧ (machine.run group acts).taken = group.taken ∧
      (machine.run group acts).workers.length = group.workers.length ∧
      ∀ earlier < number, (machine.run group acts).workers[earlier]? = some .stopped := by
  induction number with
  | zero => exact ⟨[], trivial, by simp, asked, rfl, rfl, by simp⟩
  | succ number ih =>
    obtain ⟨acts, allowed, last, isAsked, taken, length, stopped⟩ :=
      ih (Nat.le_of_succ_le inRange)
    have keptOn := kept.leads (machine.leads_run group acts allowed)
    have isWorker : number < (machine.run group acts).workers.length := length ▸ inRange
    obtain ⟨more, moreAllowed, moreLast, stillAsked, noMore, workers⟩ :=
      keptOn.stops isAsked (List.getElem?_eq_getElem isWorker) replies
    refine ⟨acts ++ more, (machine.allowsAll_append _ _ _).2 ⟨allowed, moreAllowed⟩,
      List.forall_mem_append.2 ⟨last, moreLast⟩, ?_⟩
    rw [machine.run_append, workers, noMore, List.length_set]
    refine ⟨stillAsked, taken, length, fun earlier before => ?_⟩
    rcases Nat.lt_succ_iff_lt_or_eq.1 before with earlier | rfl
    · rw [List.getElem?_set_ne (Nat.ne_of_gt earlier)]
      exact stopped _ earlier
    · exact List.getElem?_set_self isWorker

/-! ## Everything that is taken is settled -/

/-- A group settles every delivery that its workers take, and stops without leaving one behind. -/
structure SettlesAll (group : WorkerGroup) : Prop where
  /-- As many tasks are running as workers have a delivery in hand. -/
  running_eq : group.exchange.broker.counts.running = group.workers.countP (·.inHand?.isSome)
  /-- The broker has accepted every report. -/
  answered : ∀ report ∈ group.reports, ∃ settlement, report.2 = .ok settlement
  /-- Every delivery that was taken is in the hands of one worker, or it was reported once. -/
  taken_perm : group.taken ~ group.settled ++ group.inHand
  /-- No delivery was taken twice. -/
  taken_nodup : group.taken.Nodup
  /-- A worker that has a delivery in hand settles it and is free, whatever its handler hears. -/
  finishes : ∀ number delivery progress,
    group.workers[number]? = some (.working delivery progress) → ∀ replies,
      ∃ calls settlement exchange, machine.AllowsAll group (finish number replies calls) ∧
        machine.run group (finish number replies calls) = { group with
          exchange := exchange
          workers := group.workers.set number .free
          reports := group.reports ++ [(delivery, .ok settlement)] }
  /-- The signal to stop takes no delivery out of anybody's hands. -/
  heeds : ∀ number, (group.heed number).inHand ~ group.inHand ∧
    (group.heed number).exchange.broker = group.exchange.broker
  /-- After the signal all workers can come to their end without another task, whatever their
  handlers hear. -/
  stops : group.asked = true → ∀ replies : Nat → Replies,
    ∃ acts, machine.AllowsAll group acts ∧ (∀ act ∈ acts, act.IsLast replies) ∧
      (machine.run group acts).taken = group.taken ∧
      ∀ worker ∈ (machine.run group acts).workers, worker = .stopped
  /-- When all workers have stopped, no task is running, and every task that is not settled has had
  no attempt since it was settled last. -/
  rests : (∀ worker ∈ group.workers, worker = .stopped) →
    group.exchange.broker.counts.running = 0 ∧
      ∀ record ∈ group.exchange.broker.records,
        (record.state = .queued ∨ record.state = .retryScheduled) ∧
          record.attempts = lastAttempt group.settled record.id

/-- Workers settle everything that they take, in whatever order they go on, whatever their handlers
do, and whenever they are asked to stop. -/
theorem everything_settled {policy : RetryPolicy} {dispatcher : Dispatcher} {workers : Nat}
    {begin : Moment} {group : WorkerGroup}
    (run : machine.Leads (spawned policy dispatcher workers begin) group) : group.SettlesAll := by
  have kept := (spawned_kept policy dispatcher workers begin).leads run
  have custody := kept.custody
  exact {
    running_eq := custody.running_eq.trans List.length_filterMap_eq_countP
    answered := kept.answered
    taken_perm := custody.taken_perm
    taken_nodup := custody.taken_nodup
    finishes := fun number delivery progress found replies => kept.finishes found replies
    heeds := group.heed_keeps
    stops := fun asked replies => by
      obtain ⟨acts, allowed, last, -, taken, length, stopped⟩ :=
        kept.stop_all asked replies group.workers.length (Nat.le_refl _)
      refine ⟨acts, allowed, last, taken, fun worker member => ?_⟩
      obtain ⟨number, inRange, rfl⟩ := List.mem_iff_getElem.1 member
      have isStopped := stopped number (length ▸ inRange)
      rw [List.getElem?_eq_getElem inRange] at isStopped
      exact Option.some.inj isStopped
    rests := fun stopped => by
      rw [inHand_of_stopped stopped] at custody
      exact ⟨custody.running_eq, fun record member => custody.rested member⟩ }

/-- Two workers begin. -/
def twoWorkers : WorkerGroup := spawned .default (.wired (.ofSeconds 5)) 2 0

/-- The workers take a notification and a mail without a body. They are asked to stop while the
handler of the notification waits for the store, which does not answer. -/
def lateSignal : List Act :=
  [.look 0, .publish (TaskPayload.notification oddNotice).envelope, .publish (Session.mail 2),
    .look 0, .look 1, .request, .heed 0, .hear 0 fun _ => none, .report 1, .heed 1, .report 0,
    .heed 0]

/-- The mail was given up, the notification waits for its second attempt, and both workers have
stopped. -/
theorem everything_settled_lateSignal :
    machine.Leads twoWorkers (machine.run twoWorkers lateSignal) ∧
      (machine.run twoWorkers lateSignal).SettlesAll ∧
      (machine.run twoWorkers lateSignal).workers.map (·.isOver) = [true, true] ∧
      (machine.run twoWorkers lateSignal).taken.length = 2 ∧
      (machine.run twoWorkers lateSignal).exchange.broker.counts = ⟨0, 0, 0, 1, 1⟩ ∧
      (machine.run twoWorkers lateSignal).exchange.broker.records.map (·.attempts) = [1] := by
  have run : machine.Leads twoWorkers (machine.run twoWorkers lateSignal) :=
    machine.leads_run twoWorkers lateSignal (by decide +kernel)
  exact ⟨run, everything_settled run, by decide +kernel⟩

end WorkerGroup

end ReminderDispatch
