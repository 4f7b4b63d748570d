import Mathlib.Data.List.Perm.Subperm
import ReminderDispatch.Proofs.Pipeline.Workshop

/-!
# Where the work is

The invariant of a workshop: what has taken effect and what the broker still holds is together the
work that was expected, where a task that is done but not yet reported counts on both sides. Every
task that runs is in the hands of a worker, and none has failed. A worker breaks off only if more
notifications are expected than can be numbered. The invariant speaks of the workers as a
collection, whatever their order, so that in each turn the worker whose turn it is can be taken for
the first one.
-/

namespace ReminderDispatch

/-- All expected work is accounted for. -/
structure Accounted (limit : Duration) (expected : List TaskPayload) (shared : Collaborators)
    (workers : List Workman) : Prop where
  /-- The workers hold deliveries of different running tasks. -/
  serving : shared.exchange.broker.Serving (workers.filterMap (·.inHand?))
  /-- The broker is open. -/
  isOpen : shared.exchange.broker.closed = false
  /-- No task has failed. -/
  unscheduled : shared.exchange.broker.scheduled = []
  /-- No task was given up. -/
  undead : shared.exchange.broker.deadLetters = []
  /-- The handlers are those of the process. -/
  wired : shared.dispatcher = .wired limit
  /-- The outbox knows the templates of the process. -/
  known : shared.outbox.templates = some Collaborators.templates
  /-- The tasks carry work that can be done. -/
  doable : ∀ envelope ∈ shared.exchange.broker.envelopes, ∃ work : TaskPayload,
    envelope.work? = some work ∧ work.IsDoable
  /-- Every running task is in a worker's hands, unless a worker broke off. -/
  attended : .crashed ∉ workers → ∀ id record, shared.exchange.broker.find? id = some record →
    record.state = .running → id ∈ (workers.filterMap (·.inHand?)).map (·.id)
  /-- Every worker is on duty. -/
  onDuty : ∀ worker ∈ workers, worker.OnDuty limit
  /-- What has taken effect and what is left is what was expected and what is yet to be reported. -/
  places : (shared.performed ++ shared.exchange.broker.envelopes.filterMap (·.work?)).Perm
    (expected ++ workers.filterMap (·.finishedWork?))
  /-- All other tasks were acknowledged. -/
  succeeded_eq : shared.exchange.broker.succeeded + shared.exchange.broker.envelopes.length =
    expected.length
  /-- Nobody has read a notification. -/
  unread : ∀ record ∈ shared.notifications.records, record.status = .unread
  /-- The notifications are numbered. -/
  numbered : shared.IsNumbered
  /-- A worker breaks off only if too many notifications are expected. -/
  exhausted : .crashed ∈ workers → twoTo 63 ≤ (expected.filterMap (·.notification?)).length

open scoped List

namespace Accounted

variable {limit : Duration} {expected : List TaskPayload} {shared after : Collaborators}
  {worker : Workman} {workers others : List Workman} {delivery : Delivery} {work : TaskPayload}

/-- The order of the workers does not matter. -/
theorem perm (accounted : Accounted limit expected shared workers) (perm : workers.Perm others) :
    Accounted limit expected shared others where
  serving := accounted.serving.perm (perm.filterMap _)
  isOpen := accounted.isOpen
  unscheduled := accounted.unscheduled
  undead := accounted.undead
  wired := accounted.wired
  known := accounted.known
  doable := accounted.doable
  attended steady id record found running :=
    ((perm.filterMap _).map _).mem_iff.1
      (accounted.attended (mt perm.mem_iff.1 steady) id record found running)
  onDuty worker member := accounted.onDuty worker (perm.mem_iff.2 member)
  places := accounted.places.trans ((perm.filterMap _).append_left _)
  succeeded_eq := accounted.succeeded_eq
  unread := accounted.unread
  numbered := accounted.numbered
  exhausted brokeOff := accounted.exhausted (perm.mem_iff.2 brokeOff)

/-! ## Turns -/

/-- A worker who has only begun with a task has not done it. -/
theorem finishedWork?_begun (carries : delivery.envelope.work? = some work)
    (doable : work.IsDoable) (limit : Duration) :
    (Workman.begun limit delivery).finishedWork? = none := by
  obtain ⟨next, dispatched, -⟩ := Dispatcher.dispatch_wired carries doable.isValid limit
  unfold Workman.begun
  rw [dispatched]
  rfl

/-- The task in a worker's hands carries work that can be done. -/
theorem inHand (accounted : Accounted limit expected shared workers) (member : worker ∈ workers)
    (holds : worker.inHand? = some delivery) :
    (∃ record, shared.exchange.broker.find? delivery.id = some record ∧
      record.delivery = delivery) ∧
    ∃ work : TaskPayload, delivery.envelope.work? = some work ∧ work.IsDoable := by
  have held : delivery ∈ workers.filterMap (·.inHand?) :=
    List.mem_filterMap.2 ⟨worker, member, holds⟩
  obtain ⟨record, found, -, same⟩ := accounted.serving.running delivery held
  have envelope : record.envelope = delivery.envelope := congrArg (·.envelope) same
  have stored : delivery.envelope ∈ shared.exchange.broker.envelopes := by
    rw [← envelope]
    exact List.mem_map_of_mem (Broker.find?_mem found)
  exact ⟨⟨record, found, same⟩, accounted.doable _ stored⟩

theorem onDuty_cons (accounted : Accounted limit expected shared (worker :: others))
    {next : Workman} (onDuty : next.OnDuty limit) : ∀ other ∈ next :: others, other.OnDuty limit :=
  List.forall_mem_cons.2 ⟨onDuty, (List.forall_mem_cons.1 accounted.onDuty).2⟩

/-- The workers hold different tasks of the broker. -/
theorem hands_subperm (accounted : Accounted limit expected shared workers) :
    (workers.filterMap (·.inHand?)).map (·.envelope) <+~ shared.exchange.broker.envelopes := by
  have distinct : ((workers.filterMap (·.inHand?)).map (·.envelope)).Nodup := by
    refine List.Nodup.of_map (·.id) ?_
    rw [List.map_map]
    exact accounted.serving.held_nodup
  refine distinct.subperm fun envelope member => ?_
  obtain ⟨delivery, held, rfl⟩ := List.mem_map.1 member
  obtain ⟨record, found, -, same⟩ := accounted.serving.running delivery held
  rw [← same]
  exact List.mem_map_of_mem (Broker.find?_mem found)

/-- While a worker is about to create a notification, fewer were created than are expected. -/
theorem records_lt (accounted : Accounted limit expected shared (.begun limit delivery :: others))
    (carries : delivery.envelope.work? = some work) (doable : work.IsDoable)
    (isNotification : work.notification?.isSome = true) :
    shared.notifications.records.length < (expected.filterMap (·.notification?)).length := by
  let creates (envelope : Envelope) : Bool := (envelope.work?.bind (·.notification?)).isSome
  have counted (envelopes : List Envelope) :
      ((envelopes.filterMap (·.work?)).filterMap (·.notification?)).length =
        envelopes.countP creates := by
    rw [List.filterMap_filterMap, List.length_filterMap_eq_countP]
  let done := (others.filterMap (·.finished?)).map (·.envelope)
  have finished : (Workman.begun limit delivery :: others).filterMap (·.finishedWork?) =
      done.filterMap (·.work?) := by
    rw [List.filterMap_cons_none (finishedWork?_begun carries doable limit), List.filterMap_map,
      List.filterMap_filterMap]
    rfl
  -- The task that the worker is about to do stands in the broker beside those that are done.
  have hands : (delivery.envelope :: done).Subperm shared.exchange.broker.envelopes := by
    have held : (Workman.begun limit delivery :: others).filterMap (·.inHand?) =
        delivery :: others.filterMap (·.inHand?) := List.filterMap_cons_some rfl
    have inHand := accounted.hands_subperm
    rw [held] at inHand
    have among := Workman.finished_sublist others
    exact ((among.cons_cons delivery).map _).subperm.trans inHand
  have fewer := hands.countP_le creates
  have isOne : creates delivery.envelope = true := by
    simp only [creates, carries, Option.bind_some, isNotification]
  rw [List.countP_cons_of_pos isOne] at fewer
  have places := (accounted.places.filterMap (·.notification?)).length_eq
  rw [List.filterMap_append, List.filterMap_append, List.length_append, List.length_append,
    Collaborators.notifications_performed, List.length_map, finished, counted, counted] at places
  omega

/-- An idle worker that finds nothing waits. -/
theorem listen (accounted : Accounted limit expected shared (worker :: others))
    (idle : worker.IsIdle) (alarm : Option Moment) (bell : Bell) :
    Accounted limit expected { shared with exchange := ⟨shared.exchange.broker, bell⟩ }
      (.listening alarm :: others) := by
  have held := idle.held_cons others
  have finished := idle.finished_cons others
  refine { accounted with
    serving := ?_, attended := ?_, onDuty := ?_, places := ?_, exhausted := ?_ }
  · exact held ▸ accounted.serving
  · intro steady
    exact held ▸ accounted.attended (mt (Workman.crashed_mem_cons idle.ne_crashed) steady)
  · exact accounted.onDuty_cons (.listening alarm)
  · exact finished ▸ accounted.places
  · exact fun brokeOff => accounted.exhausted (Workman.crashed_mem_cons (by simp) brokeOff)

/-- An idle worker takes the first task of the line. -/
theorem take (accounted : Accounted limit expected shared (worker :: others))
    (idle : worker.IsIdle) {id : TaskId} {line : List TaskId} {record : TaskRecord}
    (first : shared.exchange.broker.ready = id :: line)
    (found : shared.exchange.broker.find? id = some record) (now : Moment) (bell : Bell) :
    Accounted limit expected
      { shared with exchange := ⟨shared.exchange.broker.startFirst now id line, bell⟩ }
      (.begun limit (record.startAttempt now).delivery :: others) := by
  have held := idle.held_cons others
  have finished := idle.finished_cons others
  have envelopes := Broker.envelopes_startFirst shared.exchange.broker now id line
  have lookup := Broker.find?_startFirst now line found
  obtain ⟨work, carries, doable⟩ :=
    accounted.doable record.envelope (List.mem_map_of_mem (Broker.find?_mem found))
  have begun : (Workman.begun limit (record.startAttempt now).delivery).finishedWork? = none :=
    finishedWork?_begun carries doable limit
  refine { accounted with
    serving := ?_, doable := ?_, attended := ?_, onDuty := ?_, places := ?_, succeeded_eq := ?_
    exhausted := ?_ }
  · have serving := (held ▸ accounted.serving).startFirst first found now
    exact serving.perm (List.perm_append_singleton _ _)
  · rw [envelopes]
    exact accounted.doable
  · -- The new running task is the one in the worker's hands.
    intro steady other entry foundOther running
    rw [lookup] at foundOther
    by_cases same : other = id
    · have isOwner : record.id = id := Broker.find?_id found
      have owner : (record.startAttempt now).delivery.id = id := isOwner
      rw [same, ← owner]
      exact List.mem_cons_self
    · rw [Function.update_of_ne same] at foundOther
      have noneFell := mt (Workman.crashed_mem_cons idle.ne_crashed) steady
      have earlier := accounted.attended noneFell other entry foundOther running
      rw [held] at earlier
      exact List.mem_cons_of_mem _ earlier
  · exact accounted.onDuty_cons (.begun (record.startAttempt now).delivery)
  · rw [envelopes, List.filterMap_cons_none begun, ← finished]
    exact accounted.places
  · rw [envelopes]
    exact accounted.succeeded_eq
  · intro brokeOff
    exact accounted.exhausted (Workman.crashed_mem_cons (Workman.begun_ne_crashed limit _) brokeOff)

/-- The work of a task takes effect. -/
theorem perform (accounted : Accounted limit expected shared (.begun limit delivery :: others))
    (carries : delivery.envelope.work? = some work) (doable : work.IsDoable)
    (performed : Collaborators.Performed work shared after) :
    Accounted limit expected after (.working delivery (.done (.ok ())) :: others) := by
  have begun := finishedWork?_begun carries doable limit
  have finished : Workman.finishedWork? (.working delivery (.done (.ok ()))) = some work := carries
  obtain ⟨exchange, reminders, notifications, outbox, dispatcher⟩ := after
  obtain ⟨rfl, rfl, templates, taken, unread, numbered⟩ := performed
  refine { accounted with
    known := templates.trans accounted.known, attended := ?_, onDuty := ?_, places := ?_
    unread := unread accounted.unread, numbered := numbered accounted.numbered, exhausted := ?_ }
  · intro steady
    exact accounted.attended
      (mt (Workman.crashed_mem_cons (Workman.begun_ne_crashed limit delivery)) steady)
  · exact accounted.onDuty_cons (.finished delivery)
  · -- The work comes to both sides: it has taken effect, and it is yet to be reported.
    have places := accounted.places
    rw [List.filterMap_cons_none begun] at places
    rw [List.filterMap_cons_some finished]
    calc Collaborators.performed _ ++ shared.exchange.broker.envelopes.filterMap (·.work?)
      _ ~ work :: shared.performed ++ shared.exchange.broker.envelopes.filterMap (·.work?) :=
        taken.append_right _
      _ ~ work :: (expected ++ others.filterMap (·.finishedWork?)) := places.cons work
      _ ~ expected ++ work :: others.filterMap (·.finishedWork?) := List.perm_middle.symm
  · exact fun brokeOff => accounted.exhausted (Workman.crashed_mem_cons (by simp) brokeOff)

/-- A worker breaks off, since it was to create one notification too many. -/
theorem breakOff (accounted : Accounted limit expected shared (.begun limit delivery :: others))
    (carries : delivery.envelope.work? = some work) (doable : work.IsDoable)
    (breaksOff : shared.BreaksOff work) :
    Accounted limit expected shared (.crashed :: others) := by
  obtain ⟨isNotification, last⟩ := breaksOff
  have held : (Workman.begun limit delivery :: others).filterMap (·.inHand?) =
      delivery :: others.filterMap (·.inHand?) := List.filterMap_cons_some rfl
  have begun := finishedWork?_begun carries doable limit
  refine { accounted with
    serving := ?_, attended := ?_, onDuty := ?_, places := ?_, exhausted := ?_ }
  · have serving := accounted.serving
    rw [held] at serving
    have left := serving.abandon delivery
    rwa [List.erase_cons_head] at left
  · exact fun steady => absurd List.mem_cons_self steady
  · exact accounted.onDuty_cons .crashed
  · have places := accounted.places
    rw [List.filterMap_cons_none begun] at places
    exact places
  · intro _
    have fewer := accounted.records_lt carries doable isNotification
    have numbered := accounted.numbered
    unfold Collaborators.IsNumbered at numbered
    rw [last, Int64.toInt_maxValue] at numbered
    change 2 ^ 63 ≤ _
    omega

/-- A worker reports the task that it has done. -/
theorem report
    (accounted : Accounted limit expected shared (.working delivery (.done (.ok ())) :: others)) :
    Accounted limit expected
      { shared with exchange := { shared.exchange with
        broker := shared.exchange.broker.acknowledged delivery.id } } (.free :: others) := by
  obtain ⟨⟨record, found, same⟩, work, carries, -⟩ := accounted.inHand List.mem_cons_self rfl
  have finished : Workman.finishedWork? (.working delivery (.done (.ok ()))) = some work := carries
  have envelope : record.envelope = delivery.envelope := congrArg (·.envelope) same
  have taken : shared.exchange.broker.envelopes ~
      delivery.envelope :: (shared.exchange.broker.drop delivery.id).envelopes :=
    envelope ▸ Broker.envelopes_drop_perm accounted.serving.distinct found
  have works : (.working delivery (.done (.ok ())) : Workman) ≠ .crashed := by simp
  have held : (.working delivery (.done (.ok ())) :: others : List Workman).filterMap (·.inHand?) =
      delivery :: others.filterMap (·.inHand?) := List.filterMap_cons_some rfl
  have serving := accounted.serving.acknowledged List.mem_cons_self
  rw [held, List.erase_cons_head] at serving
  refine { accounted with
    serving := serving, doable := ?_, attended := ?_, onDuty := ?_, places := ?_
    succeeded_eq := ?_, exhausted := ?_ }
  · intro other member
    exact accounted.doable other (taken.mem_iff.2 (List.mem_cons_of_mem _ member))
  · intro steady id entry foundEntry running
    have lookup := Broker.find?_drop shared.exchange.broker delivery.id
    change (shared.exchange.broker.drop delivery.id).find? id = some entry at foundEntry
    rw [lookup] at foundEntry
    by_cases settled : id = delivery.id
    · rw [settled, Function.update_self] at foundEntry
      contradiction
    · rw [Function.update_of_ne settled] at foundEntry
      have noneFell := mt (Workman.crashed_mem_cons works) steady
      have inHand := accounted.attended noneFell id entry foundEntry running
      rw [held, List.map_cons] at inHand
      exact (List.mem_cons.1 inHand).resolve_left settled
  · exact accounted.onDuty_cons .free
  · -- The work goes from both sides: the broker drops the task, and nothing is left to report.
    have places := accounted.places
    rw [List.filterMap_cons_some finished] at places
    have left : (shared.exchange.broker.envelopes.filterMap (·.work?)) ~
        work :: (shared.exchange.broker.drop delivery.id).envelopes.filterMap (·.work?) := by
      have mapped := taken.filterMap (·.work?)
      rwa [List.filterMap_cons_some carries] at mapped
    refine List.Perm.cons_inv (a := work) ?_
    calc work :: (shared.performed ++
          (shared.exchange.broker.drop delivery.id).envelopes.filterMap (·.work?))
      _ ~ shared.performed ++
          work :: (shared.exchange.broker.drop delivery.id).envelopes.filterMap (·.work?) :=
        List.perm_middle.symm
      _ ~ shared.performed ++ shared.exchange.broker.envelopes.filterMap (·.work?) :=
        left.symm.append_left _
      _ ~ expected ++ work :: others.filterMap (·.finishedWork?) := places
      _ ~ work :: (expected ++ others.filterMap (·.finishedWork?)) := List.perm_middle
  · have all := accounted.succeeded_eq
    rw [taken.length_eq, List.length_cons] at all
    change shared.exchange.broker.succeeded + 1 +
      (shared.exchange.broker.drop delivery.id).envelopes.length = expected.length
    omega
  · exact fun brokeOff => accounted.exhausted (Workman.crashed_mem_cons (by simp) brokeOff)

/-- Whatever the first worker does in its turn, all work stays accounted for. -/
theorem turn (accounted : Accounted limit expected shared (worker :: others)) (reading : Reading)
    (number : Nat) :
    Accounted limit expected (worker.turn shared reading number).2
      ((worker.turn shared reading number).1.getD .crashed :: others) := by
  have ofIdle (idle : worker.IsIdle) :
      Accounted limit expected (worker.turn shared reading number).2
        ((worker.turn shared reading number).1.getD .crashed :: others) := by
    rcases worker.turn_idle idle accounted.serving.toConsistent accounted.isOpen
        accounted.unscheduled accounted.wired reading number with
      ⟨-, alarm, bell, looked⟩ | ⟨id, line, record, bell, first, found, looked⟩
    · rw [looked]
      exact accounted.listen idle alarm bell
    · rw [looked]
      exact accounted.take idle first found reading.now bell
  cases accounted.onDuty worker List.mem_cons_self with
  | free => exact ofIdle (.inl rfl)
  | listening alarm => exact ofIdle (.inr ⟨alarm, rfl⟩)
  | begun delivery =>
    obtain ⟨-, work, carries, doable⟩ := accounted.inHand List.mem_cons_self rfl
    rcases Workman.turn_begun accounted.known carries doable reading number with
      ⟨after, done, performed⟩ | ⟨ended, breaksOff⟩
    · rw [done]
      exact accounted.perform carries doable performed
    · rw [ended]
      exact accounted.breakOff carries doable breaksOff
  | finished delivery =>
    obtain ⟨⟨record, found, -⟩, -⟩ := accounted.inHand List.mem_cons_self rfl
    rw [Workman.turn_finished found]
    exact accounted.report
  | crashed => exact accounted

end Accounted

end ReminderDispatch
