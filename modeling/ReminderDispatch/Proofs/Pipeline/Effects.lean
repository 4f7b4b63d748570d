import ReminderDispatch.Proofs.Broker.Tracking
import ReminderDispatch.Proofs.Pipeline.Delivery
import ReminderDispatch.Proofs.Pipeline.Interleaving

/-!
# Effects of tasks

A task has an effect when a notification is created or a mail is sent for it. However scans, workers
and settlements are interleaved, and whoever breaks off in between, a task has its effect when its
handler returns without failure, and then it is acknowledged or waits in the hands of a worker to be
so. The ledger of a pipeline balances: what was produced is what was returned, and what was returned
is what was acknowledged and what is yet to be reported.
-/

namespace ReminderDispatch

open scoped List

variable {limit : Duration} {shared after : Collaborators} {now : Moment} {worker next : Workman}
  {crew others : List Workman} {ledger : Ledger} {delivery : Delivery} {work : TaskPayload}

/-! ## Workers -/

namespace Workman

/-- A worker that waits for the call by which it does its work. -/
def calling (limit : Duration) (delivery : Delivery) (work : TaskPayload) : Workman :=
  .working delivery (.ask work.call (some limit) fun reply =>
    .done ((work.conclude limit reply).mapError .handler))

/-- How far a worker can have come: it has no task, it waits for the call by which it does its work,
or it has a result. -/
inductive Engaged (limit : Duration) : Workman → Prop where
  /-- The worker is about to look for a task. -/
  | free : Engaged limit .free
  /-- The worker waits for a task. -/
  | listening (alarm : Option Moment) : Engaged limit (.listening alarm)
  /-- The worker does valid work. -/
  | calling {delivery : Delivery} {work : TaskPayload}
      (carries : delivery.envelope.work? = some work) :
      Engaged limit (calling limit delivery work)
  /-- The worker has failed. -/
  | failed (delivery : Delivery) (failure : DispatchError) :
      Engaged limit (.working delivery (.done (.error failure)))
  /-- The worker has done its work. -/
  | done {delivery : Delivery} {work : TaskPayload}
      (carries : delivery.envelope.work? = some work) :
      Engaged limit (.working delivery (.done (.ok ())))
  /-- The worker has stopped. -/
  | stopped : Engaged limit .stopped
  /-- The worker broke off. -/
  | crashed : Engaged limit .crashed

/-- A worker that breaks off in its turn has not changed anything. -/
theorem turn_none {reading : Reading} {number : Nat}
    (brokeOff : worker.turn shared reading number = (none, after)) : after = shared := by
  cases worker with
  | free | listening | stopped | crashed => cases (Prod.mk.inj brokeOff).1
  | working delivery progress =>
    cases progress with
    | done result =>
      cases settled : shared.exchange.settle reading.now delivery result with
      | ok settlement =>
        simp only [turn, settled] at brokeOff
        cases (Prod.mk.inj brokeOff).1
      | error failure =>
        simp only [turn, settled] at brokeOff
        cases (Prod.mk.inj brokeOff).1
    | ask call bound next =>
      obtain ⟨nobody, same⟩ := Prod.mk.inj brokeOff
      exact Collaborators.answer_none
        (Prod.ext_iff.2 ⟨Option.map_eq_none_iff.1 nobody, same⟩)

theorem IsIdle.success? (idle : worker.IsIdle) : worker.success? = none := by
  rcases idle with rfl | ⟨alarm, rfl⟩ <;> rfl

theorem IsIdle.acknowledges (idle : worker.IsIdle) (shared : Collaborators) (reading : Reading) :
    worker.acknowledges shared reading = [] := by
  rcases idle with rfl | ⟨alarm, rfl⟩ <;> rfl

/-- A worker that begins with a task does it, or has failed already. -/
theorem begun_engaged (limit : Duration) (delivery : Delivery) :
    (begun limit delivery).Engaged limit ∧ (begun limit delivery).success? = none := by
  unfold begun
  rcases Dispatcher.dispatch_cases limit delivery.envelope with ⟨failure, refused, -⟩ | ⟨work, does⟩
  · rw [refused]
    exact ⟨.failed delivery failure, rfl⟩
  · rw [does.dispatch_eq]
    exact ⟨.calling does.carries, rfl⟩

/-- What a worker has done and not reported is in its hands. -/
theorem success_sublist (crew : List Workman) :
    (crew.filterMap (·.success?)).Sublist (crew.filterMap (·.inHand?)) := by
  refine filterMap_sublist_filterMap (fun worker delivery success => ?_) crew
  rcases worker with _ | _ | ⟨held, ⟨failure | _⟩ | _⟩ | _ | _
  case working.done.ok => exact success
  all_goals contradiction

end Workman

/-! ## Balance -/

/-- What was produced is what was returned, and what was returned is what was acknowledged and what
some worker has yet to report. -/
structure Ledger.Balances (ledger : Ledger) (limit : Duration) (shared : Collaborators)
    (now : Moment) (crew : List Workman) : Prop where
  /-- The broker and the workers agree with the ledger. -/
  tracked : shared.exchange.broker.Tracked now (crew.filterMap (·.inHand?)) ledger.accepted
    ledger.acked
  /-- The handlers are those of the process. -/
  wired : shared.dispatcher = .wired limit
  /-- The workers do the work of their tasks. -/
  engaged : ∀ worker ∈ crew, worker.Engaged limit
  /-- A task is acknowledged after its handler has returned. -/
  returned_perm : ledger.returned ~
    ledger.acked ++ (crew.filterMap (·.success?)).map (·.envelope)
  /-- A task has its effect when its handler returns. -/
  produced_eq : ledger.produced = ledger.returned
  /-- The effect of a task is its work. -/
  performed_perm : shared.performed.map some ~ ledger.produced.map (·.work?)

namespace Ledger.Balances

/-- The order of the workers does not matter. -/
theorem perm (balances : ledger.Balances limit shared now crew) (perm : crew ~ others) :
    ledger.Balances limit shared now others where
  tracked := balances.tracked.perm (perm.filterMap _)
  wired := balances.wired
  engaged worker member := balances.engaged worker (perm.mem_iff.2 member)
  returned_perm := balances.returned_perm.trans (((perm.filterMap _).map _).append_left _)
  produced_eq := balances.produced_eq
  performed_perm := balances.performed_perm

/-- Another worker is engaged in place of the first one. -/
theorem engaged_cons (balances : ledger.Balances limit shared now (worker :: others))
    (engaged : next.Engaged limit) : ∀ other ∈ next :: others, other.Engaged limit :=
  List.forall_mem_cons.2 ⟨engaged, (List.forall_mem_cons.1 balances.engaged).2⟩

/-- The broker is used by somebody else, and all tasks stay in the hands in which they are. -/
theorem use (balances : ledger.Balances limit shared now crew) {exchange : Exchange}
    {time : Moment} {accepted : List Envelope}
    (tracked : exchange.broker.Tracked time (crew.filterMap (·.inHand?)) accepted ledger.acked) :
    { ledger with accepted := accepted }.Balances limit { shared with exchange := exchange } time
      crew :=
  { balances with tracked := tracked }

/-- A worker comes a step further without an effect, and keeps what it has in hand. -/
theorem goOn (balances : ledger.Balances limit shared now (worker :: others))
    (engaged : next.Engaged limit) (hand : next.inHand? = worker.inHand?)
    (success : next.success? = worker.success?) :
    ledger.Balances limit shared now (next :: others) := by
  have hands : (next :: others).filterMap (·.inHand?) =
      (worker :: others).filterMap (·.inHand?) := by
    rw [List.filterMap_cons, List.filterMap_cons, hand]
  have successes : (next :: others).filterMap (·.success?) =
      (worker :: others).filterMap (·.success?) := by
    rw [List.filterMap_cons, List.filterMap_cons, success]
  exact { balances with
    tracked := hands ▸ balances.tracked
    engaged := balances.engaged_cons engaged
    returned_perm := successes ▸ balances.returned_perm }

/-- An idle worker takes a task. -/
theorem take (balances : ledger.Balances limit shared now (worker :: others))
    (idle : worker.IsIdle) {exchange : Exchange}
    (leased : shared.exchange.broker.lease now = (.leased delivery, exchange.broker)) :
    ledger.Balances limit { shared with exchange := exchange } now
      (.begun limit delivery :: others) := by
  obtain ⟨engaged, success⟩ := Workman.begun_engaged limit delivery
  have tracked := balances.tracked
  have returned := balances.returned_perm
  rw [idle.held_cons] at tracked
  rw [List.filterMap_cons_none idle.success?] at returned
  have inHand : (Workman.begun limit delivery).inHand? = some delivery := rfl
  refine { balances with
    tracked := ?_
    engaged := balances.engaged_cons engaged
    returned_perm := ?_ }
  · rw [List.filterMap_cons_some inHand]
    exact tracked.lease leased
  · rw [List.filterMap_cons_none success]
    exact returned

/-- An idle worker finds no task. -/
theorem miss (balances : ledger.Balances limit shared now (worker :: others))
    (idle : worker.IsIdle) {exchange : Exchange} {found : LeaseOutcome}
    (looked : shared.exchange.broker.lease now = (found, exchange.broker))
    (nothing : ∀ delivery, found ≠ .leased delivery) (engaged : next.Engaged limit)
    (inHand : next.inHand? = none) (success : next.success? = none) :
    ledger.Balances limit { shared with exchange := exchange } now (next :: others) := by
  have used := balances.use (balances.tracked.look looked nothing)
  exact used.goOn engaged (inHand.trans idle.inHand?.symm) (success.trans idle.success?.symm)

/-- A worker does its work, and the work takes effect. -/
theorem perform {progress : Program (Except DispatchError Unit)}
    (balances : ledger.Balances limit shared now (.working delivery progress :: others))
    (unfinished : Workman.success? (.working delivery progress) = none)
    (carries : delivery.envelope.work? = some work)
    (performed : Collaborators.Performed work shared after) :
    { ledger with
      returned := ledger.returned ++ [delivery.envelope]
      produced := ledger.produced ++ [delivery.envelope] }.Balances limit after now
      (.working delivery (.done (.ok ())) :: others) where
  tracked := by
    rw [performed.exchange_eq]
    exact balances.tracked
  wired := performed.dispatcher_eq.trans balances.wired
  engaged := balances.engaged_cons (.done carries)
  returned_perm := by
    have returned := balances.returned_perm
    rw [List.filterMap_cons_none unfinished] at returned
    calc
      ledger.returned ++ [delivery.envelope] ~ delivery.envelope :: ledger.returned :=
        List.perm_append_singleton _ _
      _ ~ delivery.envelope ::
          (ledger.acked ++ (others.filterMap (·.success?)).map (·.envelope)) := returned.cons _
      _ ~ ledger.acked ++ delivery.envelope ::
          (others.filterMap (·.success?)).map (·.envelope) := List.perm_middle.symm
  produced_eq := congrArg (· ++ [delivery.envelope]) balances.produced_eq
  performed_perm := by
    calc
      after.performed.map some ~ some work :: shared.performed.map some :=
        performed.performed_perm.map some
      _ ~ some work :: ledger.produced.map (·.work?) := balances.performed_perm.cons _
      _ ~ ledger.produced.map (·.work?) ++ [some work] := (List.perm_append_singleton _ _).symm
      _ = (ledger.produced ++ [delivery.envelope]).map (·.work?) := by
        rw [List.map_append, List.map_singleton, carries]

/-- A worker reports its result, and has no task any more. -/
theorem report {result : Except DispatchError Unit}
    (balances : ledger.Balances limit shared now (.working delivery (.done result) :: others)) :
    ∃ settlement woken exchange,
      shared.exchange.settle now delivery result = .ok (settlement, woken, exchange) ∧
      { ledger with acked := ledger.acked ++ settlement.acknowledges delivery }.Balances limit
        { shared with exchange := exchange } now (.free :: others) := by
  obtain ⟨settlement, broker, settled, tracked, acked_iff⟩ := balances.tracked.settle result
  obtain ⟨woken, exchange, answered, rfl⟩ := Exchange.exists_settle settled
  refine ⟨settlement, woken, exchange, answered, { balances with
    tracked := tracked
    engaged := balances.engaged_cons .free
    returned_perm := ?_ }⟩
  have returned := balances.returned_perm
  rcases result with failure | ⟨⟩
  · have notAcked : settlement ≠ .acked := fun acked => nomatch acked_iff.1 acked
    have nothing : settlement.acknowledges delivery = [] := by
      cases settlement with
      | acked => exact absurd rfl notAcked
      | deadLettered | retryScheduled => rfl
    rw [nothing, List.append_nil]
    exact returned
  · rw [acked_iff.2 rfl]
    change ledger.returned ~ ledger.acked ++ [delivery.envelope] ++ _
    rw [List.append_assoc]
    exact returned

/-! ## Turns -/

/-- A turn after which the ledger is as before. -/
theorem turn_quiet (ledger : Ledger) {reading : Reading}
    (acknowledges : worker.acknowledges shared reading = [])
    (returns : worker.returns next = []) (produces : worker.produces shared after = []) :
    ledger.turn worker next reading shared after = ledger := by
  unfold Ledger.turn
  rw [acknowledges, returns, produces, List.append_nil, List.append_nil, List.append_nil]

/-- The turn of an idle worker keeps the balance. -/
theorem turn_idle (balances : ledger.Balances limit shared now (worker :: others))
    (idle : worker.IsIdle) {reading : Reading} {number : Nat}
    (turned : worker.turn shared reading number = (some next, after)) (onTime : reading.now = now) :
    (ledger.turn worker next reading shared after).Balances limit after now (next :: others) := by
  have quiet (success : next.success? = none) :
      ledger.turn worker next reading shared after = ledger := by
    refine turn_quiet ledger (idle.acknowledges shared reading) ?_ ?_
    · simp only [Workman.returns, idle.success?, success]
    · simp only [Workman.produces, idle.inHand?]
  rw [Workman.turn_of_idle idle] at turned
  subst onTime
  rcases Workman.look_cases number reading.now
      (fun delivery => shared.dispatcher.dispatch delivery.envelope) shared.exchange with
    ⟨delivery, exchange, leased, looked⟩ |
    ⟨outcome, waiting, exchange, leased, nothing, looked, rests⟩
  · simp only [Workman.turn, looked] at turned
    obtain ⟨begins, rfl⟩ := Prod.mk.inj turned
    have begun : next = .begun limit delivery := by
      rw [← Option.some.inj begins, balances.wired]
      rfl
    subst begun
    rw [quiet (Workman.begun_engaged limit delivery).2]
    exact balances.take idle leased
  · simp only [Workman.turn, looked] at turned
    obtain ⟨turns, rfl⟩ := Prod.mk.inj turned
    obtain rfl := Option.some.inj turns
    rcases rests with rfl | ⟨alarm, rfl⟩
    · rw [quiet rfl]
      exact balances.miss idle leased nothing .stopped rfl rfl
    · rw [quiet rfl]
      exact balances.miss idle leased nothing (.listening alarm) rfl rfl

/-- The turn of a worker that has a result keeps the balance. -/
theorem turn_done {result : Except DispatchError Unit}
    (balances : ledger.Balances limit shared now (.working delivery (.done result) :: others))
    {reading : Reading} {number : Nat}
    (turned : Workman.turn shared reading number (.working delivery (.done result)) =
      (some next, after)) (onTime : reading.now = now) :
    (ledger.turn (.working delivery (.done result)) next reading shared after).Balances limit after
      now (next :: others) := by
  subst onTime
  obtain ⟨settlement, woken, exchange, settled, reported⟩ := balances.report
  simp only [Workman.turn, settled] at turned
  obtain ⟨turns, rfl⟩ := Prod.mk.inj turned
  obtain rfl := Option.some.inj turns
  have acknowledges : Workman.acknowledges shared reading (.working delivery (.done result)) =
      settlement.acknowledges delivery := by
    simp only [Workman.acknowledges, settled]
    cases settlement <;> rfl
  have returns : Workman.returns (.working delivery (.done result)) .free = [] := by
    rcases result with failure | ⟨⟩ <;> rfl
  have produces : Workman.produces (.working delivery (.done result)) shared
      { shared with exchange := exchange } = [] := by
    change List.replicate (shared.performed.length - shared.performed.length) _ = []
    rw [Nat.sub_self]
    rfl
  unfold Ledger.turn
  rw [acknowledges, returns, produces, List.append_nil, List.append_nil]
  exact reported

/-- The turn of a worker that does valid work keeps the balance. -/
theorem turn_calling
    (balances : ledger.Balances limit shared now (.calling limit delivery work :: others))
    (carries : delivery.envelope.work? = some work) {reading : Reading} {number : Nat}
    (turned : (Workman.calling limit delivery work).turn shared reading number =
      (some next, after)) :
    (ledger.turn (.calling limit delivery work) next reading shared after).Balances limit after now
      (next :: others) := by
  by_cases accepts : shared.Accepts work
  · rcases Collaborators.answer_accepted accepts reading with
      ⟨result, performing, answered, performed⟩ | ⟨answered, -⟩
    · have concluded : work.conclude limit (some (.ok result)) = .ok () :=
        work.conclude_ok limit result
      simp only [Workman.calling, Workman.turn, answered, Option.map_some, concluded] at turned
      obtain ⟨turns, rfl⟩ := Prod.mk.inj turned
      obtain rfl := Option.some.inj turns
      have produces : (Workman.calling limit delivery work).produces shared performing =
          [delivery.envelope] := by
        have longer := performed.performed_perm.length_eq
        rw [List.length_cons] at longer
        have one : performing.performed.length - shared.performed.length = 1 := by omega
        simp only [Workman.calling, Workman.produces, Workman.inHand?, one, List.replicate_one]
      have acknowledges : (Workman.calling limit delivery work).acknowledges shared reading = [] :=
        rfl
      unfold Ledger.turn
      rw [produces, acknowledges, List.append_nil]
      exact balances.perform rfl carries performed
    · -- There is no worker after a call that breaks off.
      simp only [Workman.calling, Workman.turn, answered, Option.map_none] at turned
      cases (Prod.mk.inj turned).1
  · obtain ⟨reply, failure, answered, concluded, -⟩ :=
      Collaborators.answer_refused accepts limit reading
    simp only [Workman.calling, Workman.turn, answered, Option.map_some, concluded] at turned
    obtain ⟨turns, rfl⟩ := Prod.mk.inj turned
    obtain rfl := Option.some.inj turns
    have produces : (Workman.calling limit delivery work).produces shared shared = [] := by
      simp only [Workman.calling, Workman.produces, Workman.inHand?, Nat.sub_self,
        List.replicate_zero]
    rw [turn_quiet ledger rfl rfl produces]
    exact balances.goOn (.failed delivery _) rfl rfl

/-- Whatever a worker does in its turn, the balance is kept. -/
theorem turn (balances : ledger.Balances limit shared now (worker :: others)) {reading : Reading}
    {number : Nat} (turned : worker.turn shared reading number = (some next, after))
    (onTime : reading.now = now) :
    (ledger.turn worker next reading shared after).Balances limit after now (next :: others) := by
  have isOver (ended : worker = .stopped ∨ worker = .crashed) :
      (ledger.turn worker next reading shared after).Balances limit after now (next :: others) := by
    rcases ended with rfl | rfl
    all_goals
      obtain ⟨turns, rfl⟩ := Prod.mk.inj turned
      obtain rfl := Option.some.inj turns
      rw [turn_quiet ledger rfl rfl rfl]
      exact balances
  cases balances.engaged worker List.mem_cons_self with
  | free => exact balances.turn_idle (.inl rfl) turned onTime
  | listening alarm => exact balances.turn_idle (.inr ⟨alarm, rfl⟩) turned onTime
  | calling carries => exact balances.turn_calling carries turned
  | failed delivery failure => exact balances.turn_done turned onTime
  | done carries => exact balances.turn_done turned onTime
  | stopped => exact isOver (.inl rfl)
  | crashed => exact isOver (.inr rfl)

/-! ## Other events -/

/-- A worker goes on without an answer to its call, and fails. -/
theorem expire (balances : ledger.Balances limit shared now (worker :: others)) :
    worker.returns worker.unheard = [] ∧
      ledger.Balances limit shared now (worker.unheard :: others) := by
  cases balances.engaged worker List.mem_cons_self with
  | @calling delivery work carries =>
    obtain ⟨reason, concluded⟩ := work.conclude_none limit
    have unheard : (Workman.calling limit delivery work).unheard =
        .working delivery (.done (.error (.handler (.transient reason)))) := by
      simp only [Workman.calling, Workman.unheard, concluded]
      rfl
    rw [unheard]
    exact ⟨rfl, balances.goOn (.failed delivery _) rfl rfl⟩
  | free | listening | failed | done | stopped | crashed => exact ⟨rfl, balances⟩

/-- A worker hears the signal to stop. -/
theorem heed (balances : ledger.Balances limit shared now (worker :: others)) (number : Nat) :
    ledger.Balances limit
      { shared with exchange := (worker.heed number shared.exchange).2.2 } now
      ((worker.heed number shared.exchange).1 :: others) := by
  have same : (worker.heed number shared.exchange).2.2.broker = shared.exchange.broker := by
    cases worker with
    | listening alarm => exact shared.exchange.broker_cancel number
    | free | working | stopped | crashed => rfl
  have tracked : (worker.heed number shared.exchange).2.2.broker.Tracked now
      ((worker :: others).filterMap (·.inHand?)) ledger.accepted ledger.acked := by
    rw [same]
    exact balances.tracked
  have used := balances.use tracked
  cases worker with
  | free | listening => exact used.goOn .stopped rfl rfl
  | working | stopped | crashed => exact used

/-- A worker breaks off, and whatever it had in hand stays there. -/
theorem fall (balances : ledger.Balances limit shared now crew) :
    ledger.Balances limit shared now (.crashed :: crew) :=
  { balances with engaged := List.forall_mem_cons.2 ⟨.crashed, balances.engaged⟩ }

/-- Somebody publishes a task. -/
theorem publish (balances : ledger.Balances limit shared now crew) {envelope : Envelope}
    (isNew : envelope.id ∉ ledger.accepted.map (·.id)) {woken : Option Nat} {exchange : Exchange}
    (published : shared.exchange.publish now envelope = (.ok woken, exchange)) :
    { ledger with accepted := ledger.accepted ++ [envelope] }.Balances limit
      { shared with exchange := exchange } now crew :=
  balances.use (balances.tracked.publish isNew (Exchange.broker_publish published))

/-- A call of a scan is answered. -/
theorem answer (balances : ledger.Balances limit shared now crew) {call : Call}
    (isOfScan : call.IsOfScan) {reading : Reading} (onTime : reading.now = now)
    (isNew : reading.id ∉ ledger.accepted.map (·.id)) {reply : call.Reply}
    (answered : shared.answer reading call = (some reply, after)) :
    { ledger with accepted := ledger.accepted ++ reading.accepts call reply }.Balances limit after
      now crew := by
  have unheard (nothing : reading.accepts call reply = [])
      (same : after.exchange = shared.exchange) (wired : after.dispatcher = shared.dispatcher)
      (performed : after.performed = shared.performed) :
      { ledger with accepted := ledger.accepted ++ reading.accepts call reply }.Balances limit after
        now crew := by
    rw [nothing, List.append_nil]
    exact { balances with
      tracked := same ▸ balances.tracked
      wired := wired.trans balances.wired
      performed_perm := performed ▸ balances.performed_perm }
  cases call with
  | dueReminders time | dueBirthdays time | mark id =>
    obtain ⟨told, rfl⟩ := Prod.mk.inj answered
    obtain rfl := Option.some.inj told
    exact unheard rfl rfl rfl rfl
  | publish type body =>
    rcases published : shared.exchange.publish reading.now
        ⟨reading.id, type, body, reading.brokerWall⟩ with ⟨failure | woken, exchange⟩
    · simp only [Collaborators.answer, published] at answered
      obtain ⟨told, rfl⟩ := Prod.mk.inj answered
      obtain rfl := Option.some.inj told
      exact unheard rfl (Exchange.publish_refused published) rfl rfl
    · simp only [Collaborators.answer, published] at answered
      obtain ⟨told, rfl⟩ := Prod.mk.inj answered
      obtain rfl := Option.some.inj told
      rw [onTime] at published
      exact balances.publish isNew published
  | createNotification | send | handOver => exact isOfScan.elim

end Ledger.Balances

end ReminderDispatch
