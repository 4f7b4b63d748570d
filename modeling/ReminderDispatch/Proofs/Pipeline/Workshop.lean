import ReminderDispatch.Broker.Settlement
import ReminderDispatch.Proofs.Broker.Deliveries
import ReminderDispatch.Proofs.Machine
import ReminderDispatch.Proofs.Pipeline.Deliverables
import ReminderDispatch.Worker

/-!
# Workers at work

A workshop is any number of workers who share the collaborators of the process. The workers take
turns in any order, and a turn is one piece of work: to look for a task, to have one call answered,
or to report the result of a task. No call fails in a workshop, and nobody is asked to stop. But the
numbers of notifications come to an end, and a worker breaks off when it is to create one more.
-/

namespace ReminderDispatch

/-- A worker whose work is a program of calls. -/
abbrev Workman : Type := Worker (Program (Except DispatchError Unit))

/-- Workers with the collaborators that they share. -/
structure Workshop where
  /-- The collaborators. -/
  shared : Collaborators
  /-- The workers, by number. -/
  workers : List Workman

namespace Workman

/-- The task in the worker's hands. -/
def inHand? : Workman → Option Delivery
  | .working delivery _ => some delivery
  | .free | .listening _ | .stopped | .crashed => none

/-- The task that the worker has done and not yet reported. -/
def finished? : Workman → Option Delivery
  | .working delivery (.done _) => some delivery
  | .working _ (.ask _ _ _) | .free | .listening _ | .stopped | .crashed => none

/-- The work that the worker has done and not yet reported. -/
def finishedWork? (worker : Workman) : Option TaskPayload :=
  worker.finished?.bind (·.envelope.work?)

/-- The turn of a worker. There is no worker after it when its call breaks off. -/
def turn (shared : Collaborators) (reading : Reading) (number : Nat) :
    Workman → Option Workman × Collaborators
  | .working delivery (.ask call _ next) =>
    let (reply, shared) := shared.answer reading call
    (reply.map fun told => .working delivery (next (some told)), shared)
  | .working delivery (.done result) =>
    match shared.exchange.settle reading.now delivery result with
    | .ok (_, _, exchange) => (some .free, { shared with exchange := exchange })
    | .error _ => (some .free, shared)
  | .stopped => (some .stopped, shared)
  | .crashed => (some .crashed, shared)
  | .free | .listening _ =>
    let begin := fun delivery : Delivery => shared.dispatcher.dispatch delivery.envelope
    let (worker, exchange) := Worker.look number reading.now begin shared.exchange
    (some worker, { shared with exchange := exchange })

/-- A worker begins with the work on a delivery. -/
def begun (limit : Duration) (delivery : Delivery) : Workman :=
  .working delivery ((Dispatcher.wired limit).dispatch delivery.envelope)

theorem begun_ne_crashed (limit : Duration) (delivery : Delivery) :
    begun limit delivery ≠ .crashed := by
  simp [begun]

/-- What a worker of a workshop does: it waits for a task, or it has one in hand, whose work it is
about to do or has done, unless it broke off. -/
inductive OnDuty (limit : Duration) : Workman → Prop where
  /-- The worker is about to look for a task. -/
  | free : OnDuty limit .free
  /-- The worker waits for a task. -/
  | listening (alarm : Option Moment) : OnDuty limit (.listening alarm)
  /-- The worker has a task in hand. -/
  | begun (delivery : Delivery) : OnDuty limit (begun limit delivery)
  /-- The worker has done a task. -/
  | finished (delivery : Delivery) : OnDuty limit (.working delivery (.done (.ok ())))
  /-- The worker broke off. -/
  | crashed : OnDuty limit .crashed

/-- The worker has no task and may look for one. -/
def IsIdle (worker : Workman) : Prop := worker = .free ∨ ∃ alarm, worker = .listening alarm

/-- A worker on duty who has no task in hand is idle, unless it broke off. -/
theorem OnDuty.isIdle {limit : Duration} {worker : Workman} (onDuty : worker.OnDuty limit)
    (empty : worker.inHand? = none) (works : worker ≠ .crashed) : worker.IsIdle := by
  cases onDuty with
  | free => exact .inl rfl
  | listening alarm => exact .inr ⟨alarm, rfl⟩
  | begun delivery => cases empty
  | finished delivery => cases empty
  | crashed => exact absurd rfl works

theorem IsIdle.ne_crashed {worker : Workman} (idle : worker.IsIdle) : worker ≠ .crashed := by
  rcases idle with rfl | ⟨alarm, rfl⟩ <;> simp

theorem IsIdle.inHand? {worker : Workman} (idle : worker.IsIdle) : worker.inHand? = none := by
  rcases idle with rfl | ⟨alarm, rfl⟩ <;> rfl

/-- An idle worker holds nothing beside what the others hold. -/
theorem IsIdle.held_cons {worker : Workman} (idle : worker.IsIdle) (others : List Workman) :
    (worker :: others).filterMap (·.inHand?) = others.filterMap (·.inHand?) :=
  List.filterMap_cons_none idle.inHand?

/-- An idle worker has nothing to report beside what the others have. -/
theorem IsIdle.finished_cons {worker : Workman} (idle : worker.IsIdle) (others : List Workman) :
    (worker :: others).filterMap (·.finishedWork?) = others.filterMap (·.finishedWork?) := by
  rcases idle with rfl | ⟨alarm, rfl⟩ <;> exact List.filterMap_cons_none rfl

/-- A worker broke off before another one has come a step further, and after it. -/
theorem crashed_mem_cons {worker next : Workman} {others : List Workman} (works : worker ≠ .crashed)
    (brokeOff : .crashed ∈ worker :: others) : .crashed ∈ next :: others :=
  List.mem_cons_of_mem next (List.mem_of_ne_of_mem works.symm brokeOff)

/-- A task that is done and not reported is in the worker's hands. -/
theorem inHand?_of_finished? {worker : Workman} {delivery : Delivery}
    (finished : worker.finished? = some delivery) : worker.inHand? = some delivery := by
  rcases worker with _ | _ | ⟨held, ⟨result⟩ | _⟩ | _ | _
  case working.done => exact finished
  all_goals contradiction

/-- What the workers have done and not reported is in their hands. -/
theorem finished_sublist (crew : List Workman) :
    (crew.filterMap (·.finished?)).Sublist (crew.filterMap (·.inHand?)) :=
  filterMap_sublist_filterMap (fun _ _ finished => inHand?_of_finished? finished) crew

end Workman

namespace Broker

variable {broker : Broker}

/-- Without a schedule no task joins the line. -/
theorem promote_unscheduled (unscheduled : broker.scheduled = []) (now : Moment) :
    broker.promote now = broker := by
  obtain ⟨policy, records, ready, scheduled, deadLetters, succeeded, closed⟩ := broker
  cases unscheduled
  rfl

end Broker

/-- What is written in a notification. -/
def StoredNotification.delivery (record : StoredNotification) : NotificationDelivery :=
  ⟨record.userId, record.title, record.body, record.kind⟩

/-- The notification that is to be created, if that is the work. -/
def TaskPayload.notification? : TaskPayload → Option NotificationDelivery
  | .notification delivery => some delivery
  | .email _ => none

namespace Collaborators

variable {before after : Collaborators} {work : TaskPayload}

/-- The work that has taken effect: notifications that were created, and mails that were sent. -/
def performed (collaborators : Collaborators) : List TaskPayload :=
  collaborators.notifications.records.map (fun record => .notification record.delivery) ++
    collaborators.outbox.sent.map .email

/-- The notifications are those that it was the work to create. -/
theorem notifications_performed (shared : Collaborators) :
    shared.performed.filterMap (·.notification?) =
      shared.notifications.records.map (·.delivery) := by
  unfold performed
  rw [List.filterMap_append, List.filterMap_map, List.filterMap_map]
  have all : (TaskPayload.notification? ∘ fun record : StoredNotification =>
      TaskPayload.notification record.delivery) = some ∘ (·.delivery) := rfl
  have none : shared.outbox.sent.filterMap (TaskPayload.notification? ∘ TaskPayload.email) = [] :=
    List.filterMap_eq_nil_iff.2 fun mail _ => rfl
  rw [all, none, List.append_nil, List.filterMap_eq_map]

/-- The notifications are numbered by how many there are. -/
def IsNumbered (shared : Collaborators) : Prop :=
  shared.notifications.lastId.toInt = shared.notifications.records.length

/-- One more piece of work has taken effect, and nothing else has changed. -/
structure Performed (work : TaskPayload) (before after : Collaborators) : Prop where
  /-- The broker is as before. -/
  exchange_eq : after.exchange = before.exchange
  /-- The dispatcher is as before. -/
  dispatcher_eq : after.dispatcher = before.dispatcher
  /-- The known templates are as before. -/
  templates_eq : after.outbox.templates = before.outbox.templates
  /-- The work has taken effect. -/
  performed_perm : after.performed.Perm (work :: before.performed)
  /-- A new notification is unread. -/
  unread : (∀ record ∈ before.notifications.records, record.status = .unread) →
    ∀ record ∈ after.notifications.records, record.status = .unread
  /-- A new notification is numbered. -/
  numbered : before.IsNumbered → after.IsNumbered

/-- A mail with a known template is accepted. -/
theorem send_known {outbox : Outbox} {mail : EmailDelivery}
    (known : outbox.knows mail.template = true) :
    outbox.send mail = (.ok (), { outbox with sent := outbox.sent ++ [mail] }) := if_pos known

/-- A mail with another template is refused. -/
theorem send_unknown {outbox : Outbox} {mail : EmailDelivery}
    (unknown : outbox.knows mail.template ≠ true) :
    outbox.send mail = (.error (.unknownTemplate mail.template), outbox) := if_neg unknown

/-- The call by which the work is done is not refused: there is a template for a mail. -/
def Accepts (collaborators : Collaborators) : TaskPayload → Prop
  | .email mail => collaborators.outbox.knows mail.template = true
  | .notification _ => True

/-- Work can be done by the process if it is valid and its call is not refused. -/
theorem isDoable_iff (known : before.outbox.templates = some templates) :
    work.IsDoable ↔ work.IsValid ∧ before.Accepts work := by
  cases work with
  | email mail =>
    have knows : before.outbox.knows mail.template = true ↔ mail.template ∈ templates := by
      unfold Outbox.knows
      rw [known]
      exact List.contains_iff_mem
    exact and_congr_right fun _ => knows.symm
  | notification delivery => exact (and_iff_left trivial).symm

/-- The creation of a notification breaks off, since no number is left. -/
def BreaksOff (collaborators : Collaborators) (work : TaskPayload) : Prop :=
  work.notification?.isSome = true ∧ collaborators.notifications.lastId = .maxValue

/-- Accepted work succeeds at its call, or the call breaks off without any effect. -/
theorem answer_accepted (accepts : before.Accepts work) (reading : Reading) :
    (∃ result after, before.answer reading work.call = (some (.ok result), after) ∧
      Performed work before after) ∨
    (before.answer reading work.call = (none, before) ∧ before.BreaksOff work) := by
  cases work with
  | email mail =>
    refine .inl ⟨(),
      { before with outbox := { before.outbox with sent := before.outbox.sent ++ [mail] } },
      ?_, rfl, rfl, rfl, ?_, fun all => all, fun numbered => numbered⟩
    · simp only [TaskPayload.call, answer, send_known accepts]
      rfl
    · unfold performed
      dsimp only
      rw [List.map_append, ← List.append_assoc]
      exact List.perm_append_singleton _ _
  | notification delivery =>
    cases counts : nextNumber? before.notifications.lastId with
    | none =>
      refine .inr ⟨?_, rfl, nextNumber?_eq_none_iff.1 counts⟩
      simp only [TaskPayload.call, answer, NotificationStore.create, counts]
      rfl
    | some number =>
      let record : StoredNotification := {
        id := ⟨number⟩
        userId := delivery.userId
        title := delivery.title
        body := delivery.body
        kind := delivery.kind
        status := .unread
        createdAt := reading.wall }
      let notifications : NotificationStore := ⟨before.notifications.records ++ [record], number⟩
      refine .inl ⟨record, { before with notifications := notifications }, ?_, rfl, rfl, rfl, ?_,
        fun all entry member => ?_, fun numbered => ?_⟩
      · simp only [TaskPayload.call, answer, NotificationStore.create, counts]
        rfl
      · unfold performed
        dsimp only
        rw [List.map_append, List.append_assoc]
        exact List.perm_middle
      · rcases List.mem_append.1 member with earlier | new
        · exact all entry earlier
        · rw [List.mem_singleton.1 new]
      · unfold IsNumbered at numbered ⊢
        dsimp only
        rw [toInt_of_nextNumber? counts, numbered, List.length_append, List.length_singleton,
          Int.natCast_add, Int.natCast_one]

/-- Accepted work succeeds at its call while numbers are left. -/
theorem answer_performed (accepts : before.Accepts work)
    (left : before.notifications.lastId ≠ .maxValue) (reading : Reading) :
    ∃ result after, before.answer reading work.call = (some (.ok result), after) ∧
      Performed work before after :=
  (answer_accepted accepts reading).resolve_right fun breaksOff => left breaksOff.2.2

/-- Work that is not accepted fails at its call, for good and without any effect. -/
theorem answer_refused (refuses : ¬ before.Accepts work) (limit : Duration) (reading : Reading) :
    ∃ reply failure, before.answer reading work.call = (some reply, before) ∧
      work.conclude limit (some reply) = .error failure ∧ failure.kind = .permanent := by
  cases work with
  | email mail =>
    refine ⟨.error (.unknownTemplate mail.template), _, ?_, rfl, rfl⟩
    simp only [TaskPayload.call, answer, send_unknown refuses]
    rfl
  | notification delivery => exact absurd trivial refuses

/-! ## Dispatch at once -/

variable {shared : Collaborators} {envelope : Envelope} {limit : Duration}

/-- The task carries valid work whose call is not refused. -/
def CanDo (shared : Collaborators) (envelope : Envelope) (work : TaskPayload) : Prop :=
  envelope.work? = some work ∧ work.IsValid ∧ shared.Accepts work

/-- Work that can be done is done while numbers are left. -/
theorem CanDo.run_eq (canDo : shared.CanDo envelope work)
    (left : shared.notifications.lastId ≠ .maxValue) (wired : shared.dispatcher = .wired limit)
    (reading : Reading) :
    ∃ after, (shared.dispatcher.dispatch envelope).run (atOnce reading) shared = (.ok (), after) ∧
      Performed work shared after := by
  obtain ⟨carries, valid, accepts⟩ := canDo
  obtain ⟨result, after, answered, performed⟩ := answer_performed accepts left reading
  have done : work.conclude limit (some (.ok result)) = .ok () := work.conclude_ok limit result
  refine ⟨after, ?_, performed⟩
  rw [wired, (Dispatcher.does_of_valid carries valid limit).dispatch_eq]
  simp only [Program.run, atOnce, answered, done]
  rfl

/-- A task without work that can be done fails for good, and without any effect. -/
theorem run_eq_error (cannot : ∀ work, ¬ shared.CanDo envelope work)
    (wired : shared.dispatcher = .wired limit) (reading : Reading) :
    ∃ failure, (shared.dispatcher.dispatch envelope).run (atOnce reading) shared =
      (.error failure, shared) ∧ failure.kind = .permanent := by
  rw [wired]
  rcases Dispatcher.dispatch_cases limit envelope with
    ⟨failure, refused, permanent, -⟩ | ⟨work, does⟩
  · refine ⟨failure, ?_, permanent⟩
    rw [refused]
    rfl
  · have refuses : ¬ shared.Accepts work := fun accepts =>
      cannot work ⟨does.carries, does.valid, accepts⟩
    obtain ⟨reply, failure, answered, concluded, permanent⟩ :=
      answer_refused refuses limit reading
    refine ⟨.handler failure, ?_, permanent⟩
    rw [does.dispatch_eq]
    simp only [Program.run, atOnce, answered, concluded]
    rfl

end Collaborators

namespace Workman

variable {shared : Collaborators} {work : TaskPayload} {delivery : Delivery}
  {worker : Workman} {limit : Duration}

/-! ## Turns -/

/-- A worker that looks for a task takes the one that the broker hands out, or it stops or waits. -/
theorem look_cases (number : Nat) (now : Moment)
    (begin : Delivery → Program (Except DispatchError Unit)) (exchange : Exchange) :
    (∃ delivery after, exchange.broker.lease now = (.leased delivery, after.broker) ∧
      Worker.look number now begin exchange = (.working delivery (begin delivery), after)) ∨
    ∃ outcome next after, exchange.broker.lease now = (outcome, after.broker) ∧
      (∀ delivery, outcome ≠ .leased delivery) ∧
      Worker.look number now begin exchange = (next, after) ∧
      (next = .stopped ∨ ∃ alarm, next = .listening alarm) := by
  let bell := (exchange.bell.leave number).hush
  cases looked : exchange.broker.lease now with
  | mk outcome broker =>
    cases outcome with
    | leased delivery =>
      refine .inl ⟨delivery, ⟨broker, bell⟩, rfl, ?_⟩
      simp only [Worker.look, Exchange.look, looked, bell]
    | closed =>
      refine .inr ⟨.closed, .stopped, ⟨broker, bell⟩, rfl, by simp, ?_, .inl rfl⟩
      simp only [Worker.look, Exchange.look, looked, bell]
    | nothing due =>
      refine .inr ⟨.nothing due, .listening due, ⟨broker, bell.listen number⟩, rfl, by simp, ?_,
        .inr ⟨due, rfl⟩⟩
      simp only [Worker.look, Exchange.look, looked, bell]

/-- An idle worker looks for a task, whether it has waited for one or not. -/
theorem turn_of_idle (idle : worker.IsIdle) (shared : Collaborators) (reading : Reading)
    (number : Nat) :
    worker.turn shared reading number = Workman.turn shared reading number .free := by
  rcases idle with rfl | ⟨alarm, rfl⟩ <;> rfl

/-- An idle worker takes the first task of the line, or it waits while the line is empty. -/
theorem turn_idle (idle : worker.IsIdle) (consistent : shared.exchange.broker.Consistent)
    (isOpen : shared.exchange.broker.closed = false)
    (unscheduled : shared.exchange.broker.scheduled = [])
    (wired : shared.dispatcher = .wired limit) (reading : Reading) (number : Nat) :
    (shared.exchange.broker.ready = [] ∧ ∃ alarm bell,
      worker.turn shared reading number = (some (.listening alarm),
        { shared with exchange := ⟨shared.exchange.broker, bell⟩ })) ∨
    ∃ id line record bell, shared.exchange.broker.ready = id :: line ∧
      shared.exchange.broker.find? id = some record ∧
      worker.turn shared reading number =
        (some (begun limit (record.startAttempt reading.now).delivery), { shared with
          exchange := ⟨shared.exchange.broker.startFirst reading.now id line, bell⟩ }) := by
  have looks := turn_of_idle idle shared reading number
  have promoted := Broker.promote_unscheduled unscheduled reading.now
  rcases consistent.lease_cases reading.now with
    ⟨closed, -⟩ | ⟨-, empty, leased⟩ | ⟨id, line, record, -, first, found, leased⟩
  · rw [isOpen] at closed
    contradiction
  · rw [promoted] at empty leased
    refine .inl ⟨empty, ?_⟩
    rw [looks]
    simp only [turn, Worker.look, Exchange.look, leased]
    exact ⟨_, _, rfl⟩
  · rw [promoted] at first found leased
    refine .inr ⟨id, line, record, ?_⟩
    rw [looks]
    simp only [turn, Worker.look, Exchange.look, leased, wired]
    exact ⟨_, first, found, rfl⟩

/-- A worker with a task in hand does its work in one turn, or it breaks off at the call. -/
theorem turn_begun (known : shared.outbox.templates = some Collaborators.templates)
    (carries : delivery.envelope.work? = some work) (doable : work.IsDoable) (reading : Reading)
    (number : Nat) :
    (∃ after, (begun limit delivery).turn shared reading number =
        (some (.working delivery (.done (.ok ()))), after) ∧
      Collaborators.Performed work shared after) ∨
    ((begun limit delivery).turn shared reading number = (none, shared) ∧
      shared.BreaksOff work) := by
  obtain ⟨next, dispatched, succeeds⟩ := Dispatcher.dispatch_wired carries doable.isValid limit
  obtain ⟨-, accepts⟩ := (Collaborators.isDoable_iff known).1 doable
  rcases Collaborators.answer_accepted accepts reading with
    ⟨result, after, answered, performed⟩ | ⟨answered, breaksOff⟩
  · refine .inl ⟨after, ?_, performed⟩
    rw [begun, dispatched]
    simp only [turn, answered, Option.map_some, succeeds]
  · refine .inr ⟨?_, breaksOff⟩
    rw [begun, dispatched]
    simp only [turn, answered, Option.map_none]

/-- A worker who has done a task reports it. -/
theorem turn_finished {record : TaskRecord}
    (found : shared.exchange.broker.find? delivery.id = some record) (reading : Reading)
    (number : Nat) :
    Workman.turn shared reading number (.working delivery (.done (.ok ()))) =
      (some .free, { shared with exchange := { shared.exchange with
        broker := shared.exchange.broker.acknowledged delivery.id } }) := by
  simp only [turn, Exchange.settle_ok found]

end Workman

/-! ## Workshops -/

namespace Workshop

/-- A workshop with so many workers opens. -/
def opened (shared : Collaborators) (workers : Nat) : Workshop := ⟨shared, .replicate workers .free⟩

/-- A worker takes a turn. -/
def takeTurn (shop : Workshop) (number : Nat) (reading : Reading) : Workshop :=
  match shop.workers[number]? with
  | none => shop
  | some worker =>
    let (next, shared) := worker.turn shop.shared reading number
    ⟨shared, shop.workers.set number (next.getD .crashed)⟩

/-- The next turn in a workshop. -/
structure Turn where
  /-- The number of the worker. -/
  number : Nat
  /-- What the clocks show. -/
  reading : Reading
  deriving DecidableEq, Repr

/-- The workers of a workshop take turns in any order. -/
def machine : Machine Workshop Turn where
  Allows shop turn := turn.number < shop.workers.length
  perform shop turn := shop.takeTurn turn.number turn.reading

/-- No task is in line, worked on or scheduled for another attempt. -/
def IsDrained (shop : Workshop) : Prop :=
  shop.shared.exchange.broker.counts.queued = 0 ∧ shop.shared.exchange.broker.counts.running = 0 ∧
    shop.shared.exchange.broker.counts.retryScheduled = 0

variable {shop : Workshop} {number : Nat} {worker : Workman}

/-- A turn is that of one worker. -/
theorem takeTurn_eq (found : shop.workers[number]? = some worker) (reading : Reading) :
    shop.takeTurn number reading = ⟨(worker.turn shop.shared reading number).2,
      shop.workers.set number ((worker.turn shop.shared reading number).1.getD .crashed)⟩ := by
  unfold takeTurn
  rw [found]

theorem leads_takeTurn (found : shop.workers[number]? = some worker) (reading : Reading) :
    machine.Leads shop (shop.takeTurn number reading) := by
  obtain ⟨inRange, -⟩ := List.getElem?_eq_some_iff.1 found
  exact .single ⟨⟨number, reading⟩, inRange, rfl⟩

theorem getElem?_takeTurn (found : shop.workers[number]? = some worker) (reading : Reading) :
    (shop.takeTurn number reading).workers[number]? =
      some ((worker.turn shop.shared reading number).1.getD .crashed) := by
  obtain ⟨inRange, -⟩ := List.getElem?_eq_some_iff.1 found
  rw [takeTurn_eq found reading]
  exact List.getElem?_set_self inRange

end Workshop

end ReminderDispatch
