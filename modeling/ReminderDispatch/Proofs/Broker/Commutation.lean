import ReminderDispatch.Proofs.Broker.Indifference
import ReminderDispatch.Proofs.Broker.Presence

/-!
# Settlements commute

Two tasks that are worked on do not concern each other: it does not matter which of the two is
settled first, nor whether a third one is published before or after a settlement. What a report does
is written as an effect, which says what becomes of the record, the schedule, the dead letters and
the count of one task; effects on different tasks commute in all containers but the dead letters.
-/

namespace ReminderDispatch

/-- What a consumer reports of its work on a task. -/
inductive Report where
  /-- The task is done. -/
  | done
  /-- The attempt failed. -/
  | failed (error : String) (kind : FailureKind)
  deriving DecidableEq, Repr

/-- The request by which a delivery is given back. -/
def Report.request (delivery : Delivery) : Report → Request
  | .done => .ack delivery
  | .failed error kind => .fail delivery error kind

/-- What a report on a delivery does. -/
inductive Effect where
  /-- The task has succeeded. -/
  | success (delivery : Delivery)
  /-- The task is given up. -/
  | death (delivery : Delivery) (error : String) (kind : FailureKind)
  /-- The task is scheduled for another attempt. -/
  | retry (delivery : Delivery) (error : String) (kind : FailureKind) (delay : Duration)
  deriving DecidableEq, Repr

/-- What a report on a delivery does under a policy. -/
def RetryPolicy.effect (policy : RetryPolicy) (delivery : Delivery) : Report → Effect
  | .done => .success delivery
  | .failed error kind =>
    if !kind.allowsRetry || policy.isExhausted delivery.attempt then .death delivery error kind
    else .retry delivery error kind (policy.nextDelay delivery.attempt)

namespace Effect

/-- The delivery that is given back. -/
def delivery : Effect → Delivery
  | success delivery | death delivery _ _ | retry delivery _ _ _ => delivery

/-- What has happened. -/
def event : Effect → Event
  | success delivery => .acked delivery
  | death delivery error kind => .failed delivery error kind .deadLettered
  | retry delivery error kind delay => .failed delivery error kind (.retryScheduled delay)

/-- What is answered to the report. -/
def answer : Effect → Answer
  | success _ => .acked (.ok ())
  | death _ _ _ => .failed (.ok .deadLettered)
  | retry _ _ _ delay => .failed (.ok (.retryScheduled delay))

/-- What becomes of the record of the task. -/
def keep (now : Moment) : Effect → TaskRecord → Option TaskRecord
  | success _, _ | death _ _ _, _ => none
  | retry _ error _ delay, record => some (record.scheduleRetry now (now + delay.nanos) error)

/-- What becomes of any record. -/
def touch (now : Moment) (effect : Effect) (record : TaskRecord) : Option TaskRecord :=
  if record.id = effect.delivery.id then effect.keep now record else some record

/-- The schedule after the effect. -/
def schedule (now : Moment) (tasks : List PendingRetry) : Effect → List PendingRetry
  | success _ | death _ _ _ => tasks
  | retry delivery _ _ delay => Broker.schedule ⟨now + delay.nanos, delivery.id⟩ tasks

/-- The letters that the effect leaves. -/
def letters : Effect → List DeadLetter
  | success _ | retry _ _ _ _ => []
  | death delivery error _ => [⟨delivery.envelope, delivery.attempt, error⟩]

/-- How many tasks have succeeded by the effect. -/
def successes : Effect → Nat
  | success _ => 1
  | death _ _ _ | retry _ _ _ _ => 0

/-- The bell rings for another attempt. -/
def rings : Effect → Bool
  | success _ | death _ _ _ => false
  | retry _ _ _ _ => true

variable {one other effect : Effect} {record kept : TaskRecord} {now : Moment}

/-- The records of all other tasks stay as they are. -/
theorem touch_other (different : record.id ≠ effect.delivery.id) :
    effect.touch now record = some record := if_neg different

/-- A record that stays is one of the same task. -/
theorem touch_id (touched : effect.touch now record = some kept) : kept.id = record.id := by
  unfold touch at touched
  split at touched
  · cases effect with
    | success delivery => exact absurd touched (by simp [keep])
    | death delivery error kind => exact absurd touched (by simp [keep])
    | retry delivery error kind delay => exact Option.some.inj touched ▸ rfl
  · rw [Option.some.inj touched]

/-- Effects on different tasks commute on every record. -/
theorem touch_comm (different : one.delivery.id ≠ other.delivery.id) (now : Moment)
    (record : TaskRecord) :
    (one.touch now record).bind (other.touch now) =
      (other.touch now record).bind (one.touch now) := by
  by_cases ofOne : record.id = one.delivery.id
  · have notOther : record.id ≠ other.delivery.id := ofOne ▸ different
    rw [touch_other notOther, Option.bind_some]
    cases touched : one.touch now record with
    | none => rfl
    | some kept => rw [Option.bind_some, touch_other (touch_id touched ▸ notOther)]
  · rw [touch_other ofOne, Option.bind_some]
    cases touched : other.touch now record with
    | none => rfl
    | some kept => rw [Option.bind_some, touch_other (touch_id touched ▸ ofOne)]

end Effect

/-! ## Effects on brokers -/

namespace Broker

variable {broker after : Broker} {one other effect : Effect} {id : TaskId} {record : TaskRecord}
  {now : Moment} {delivery : Delivery}

/-- The order in which two tasks are scheduled does not matter, even when both are due at one
time. -/
theorem schedule_comm {task other : PendingRetry} (different : task.id ≠ other.id)
    (tasks : List PendingRetry) :
    schedule task (schedule other tasks) = schedule other (schedule task tasks) := by
  have either : task.before other ∧ ¬ other.before task ∨
      other.before task ∧ ¬ task.before other := by
    simp only [PendingRetry.before_iff]
    exact (lt_or_gt_of_ne (PendingRetry.place_ne different)).imp
      (fun less => ⟨less, less.asymm⟩) fun less => ⟨less, less.asymm⟩
  induction tasks with
  | nil =>
    rcases either with ⟨before, after⟩ | ⟨before, after⟩ <;> simp [schedule, before, after]
  | cons first more ih =>
    by_cases early : task.before first <;> by_cases otherEarly : other.before first
    · rcases either with ⟨before, after⟩ | ⟨before, after⟩ <;>
        simp [schedule, before, after, early, otherEarly]
    · have after : ¬ other.before task := fun before =>
        otherEarly (PendingRetry.before_trans before early)
      simp [schedule, after, early, otherEarly]
    · have after : ¬ task.before other := fun before =>
        early (PendingRetry.before_trans before otherEarly)
      simp [schedule, after, early, otherEarly]
    · simp [schedule, early, otherEarly, ih]

/-- Effects on different tasks commute on the schedule. -/
theorem effect_schedule_comm (different : one.delivery.id ≠ other.delivery.id) (now : Moment)
    (tasks : List PendingRetry) :
    one.schedule now (other.schedule now tasks) = other.schedule now (one.schedule now tasks) := by
  cases one with
  | success delivery | death delivery error kind => rfl
  | retry delivery error kind delay =>
    cases other with
    | success other | death other error kind => rfl
    | retry other error kind delay => exact schedule_comm different tasks

/-- The broker after an effect. -/
def bear (broker : Broker) (now : Moment) (effect : Effect) : Broker :=
  { broker with
    records := broker.records.filterMap (effect.touch now)
    scheduled := effect.schedule now broker.scheduled
    deadLetters := broker.deadLetters ++ effect.letters
    succeeded := broker.succeeded + effect.successes }

/-- Effects on different tasks commute, but for the order of the dead letters. -/
theorem bear_comm (broker : Broker) (now : Moment)
    (different : one.delivery.id ≠ other.delivery.id) :
    ((broker.bear now one).bear now other).bare = ((broker.bear now other).bear now one).bare := by
  have records : (broker.records.filterMap (one.touch now)).filterMap (other.touch now) =
      (broker.records.filterMap (other.touch now)).filterMap (one.touch now) := by
    rw [List.filterMap_filterMap, List.filterMap_filterMap]
    exact List.filterMap_congr fun record _ => Effect.touch_comm different now record
  have scheduled := effect_schedule_comm different.symm now broker.scheduled
  have succeeded := Nat.add_right_comm broker.succeeded one.successes other.successes
  unfold bear bare
  rw [records, scheduled, succeeded]

/-- An effect is not seen at other tasks. -/
theorem find?_bear (broker : Broker) (now : Moment) (different : id ≠ effect.delivery.id) :
    (broker.bear now effect).find? id = broker.find? id := by
  unfold find? bear
  induction broker.records with
  | nil => rfl
  | cons record more ih =>
    rw [List.filterMap_cons, List.find?_cons]
    by_cases owner : record.id = id
    · have other : record.id ≠ effect.delivery.id := owner ▸ different
      simp [Effect.touch_other other, owner]
    · cases touched : effect.touch now record with
      | none => simpa [owner] using ih
      | some kept =>
        have keptOwner : kept.id ≠ id := Effect.touch_id touched ▸ owner
        simpa [owner, keptOwner] using ih

/-- An effect and the removal of another task's record commute. -/
theorem drop_bear (broker : Broker) (now : Moment) (effect : Effect) (id : TaskId) :
    ((broker.bear now effect).drop id).records =
      (broker.drop id).records.filterMap (effect.touch now) := by
  change (broker.records.filterMap (effect.touch now)).filter (·.id ≠ id) =
    (broker.records.filter (·.id ≠ id)).filterMap (effect.touch now)
  rw [List.filter_filterMap, List.filterMap_filter]
  refine List.filterMap_congr fun record _ => ?_
  cases touched : effect.touch now record with
  | none => simp
  | some kept =>
    have same := Effect.touch_id touched
    by_cases owner : record.id = id <;> simp [same, owner]

/-- An effect on a task and the publication of another one commute. -/
theorem publish_bear (broker : Broker) (now : Moment) {envelope : Envelope}
    (different : envelope.id ≠ effect.delivery.id) :
    (broker.bear now effect).publish now envelope =
      ((broker.publish now envelope).1, (broker.publish now envelope).2.bear now effect) := by
  have isNew : effect.touch now (TaskRecord.new envelope broker.policy.maxAttempts now) =
      some (.new envelope broker.policy.maxAttempts now) := Effect.touch_other different
  have records : ((broker.bear now effect).drop envelope.id).records ++
        [TaskRecord.new envelope broker.policy.maxAttempts now] =
      ((broker.drop envelope.id).records ++
        [TaskRecord.new envelope broker.policy.maxAttempts now]).filterMap (effect.touch now) := by
    rw [drop_bear, List.filterMap_append, List.filterMap_cons, isNew]
    rfl
  unfold publish
  change (if broker.closed then _ else _) = _
  split
  · rfl
  · exact congrArg (fun records => (Except.ok (), { broker.bear now effect with
      records := records, ready := broker.ready ++ [envelope.id] })) records

/-! ## Settlements as effects -/

/-- To drop a record is to keep all others. -/
theorem filter_eq_filterMap_touch (effect : Effect) (records : List TaskRecord) (now : Moment)
    (gone : ∀ record, effect.keep now record = none) :
    records.filter (·.id ≠ effect.delivery.id) = records.filterMap (effect.touch now) := by
  rw [← List.filterMap_eq_filter]
  refine List.filterMap_congr fun record _ => ?_
  unfold Effect.touch
  by_cases owner : record.id = effect.delivery.id <;> simp [owner, gone, Option.guard]

/-- An acknowledged task has succeeded. -/
theorem acknowledged_eq_bear (broker : Broker) (now : Moment) (delivery : Delivery) :
    broker.acknowledged delivery.id = broker.bear now (.success delivery) := by
  have records : broker.records.filter (·.id ≠ delivery.id) =
      broker.records.filterMap (Effect.touch now (.success delivery)) :=
    filter_eq_filterMap_touch (.success delivery) broker.records now fun _ => rfl
  have letters := List.append_nil broker.deadLetters
  unfold acknowledged drop bear
  rw [← records, Effect.letters, letters]
  rfl

/-- A task that is given up has died. -/
theorem givenUp_eq_bear (broker : Broker) (now : Moment) (delivery : Delivery) (error : String)
    (kind : FailureKind) :
    broker.givenUp ⟨delivery.envelope, delivery.attempt, error⟩ =
      broker.bear now (.death delivery error kind) := by
  have records : broker.records.filter (·.id ≠ delivery.id) =
      broker.records.filterMap (Effect.touch now (.death delivery error kind)) :=
    filter_eq_filterMap_touch (.death delivery error kind) broker.records now fun _ => rfl
  unfold givenUp drop bear
  rw [← records]
  rfl

/-- A task that is postponed is scheduled for another attempt. -/
theorem postponed_eq_bear (broker : Broker) (now : Moment) (delivery : Delivery) (error : String)
    (kind : FailureKind) (delay : Duration) :
    broker.postponed now ⟨now + delay.nanos, delivery.id⟩ error =
      broker.bear now (.retry delivery error kind delay) := by
  have records : broker.records.map (fun record => if record.id = delivery.id then
        record.scheduleRetry now (now + delay.nanos) error else record) =
      broker.records.filterMap (Effect.touch now (.retry delivery error kind delay)) := by
    rw [← List.filterMap_eq_map]
    refine List.filterMap_congr fun record _ => ?_
    unfold Effect.touch
    by_cases owner : record.id = delivery.id <;> simp [owner, Effect.delivery, Effect.keep]
  have letters := List.append_nil broker.deadLetters
  unfold postponed update bear
  rw [records, Effect.letters, letters]
  rfl

/-- What a broker does with the report on a running task. -/
theorem Running.ack_eq (running : broker.Running delivery) (now : Moment) :
    broker.ack delivery = .ok (broker.bear now (.success delivery)) := by
  obtain ⟨record, found, -⟩ := running
  rw [Broker.ack_eq found, acknowledged_eq_bear broker now]

/-- A running task has died whose failure is the last one. -/
theorem Running.fail_eq_dead (running : broker.Running delivery) (now : Moment) (error : String)
    {kind : FailureKind}
    (last : (!kind.allowsRetry || broker.policy.isExhausted delivery.attempt) = true) :
    broker.fail now delivery error kind =
      .ok (.deadLettered, broker.bear now (.death delivery error kind)) := by
  obtain ⟨record, found, -, rfl⟩ := running
  change (!kind.allowsRetry || broker.policy.isExhausted record.attempts) = true at last
  have isLast : broker.IsLast record kind := by simpa [IsLast] using last
  rw [Broker.fail_eq_dead found isLast, ← givenUp_eq_bear]
  rfl

/-- A running task is scheduled for another attempt whose failure is not the last one. -/
theorem Running.fail_eq_retry (running : broker.Running delivery) (now : Moment) (error : String)
    {kind : FailureKind}
    (goesOn : (!kind.allowsRetry || broker.policy.isExhausted delivery.attempt) = false) :
    broker.fail now delivery error kind =
      .ok (.retryScheduled (broker.policy.nextDelay delivery.attempt), broker.bear now
        (.retry delivery error kind (broker.policy.nextDelay delivery.attempt))) := by
  obtain ⟨record, found, -, rfl⟩ := running
  change (!kind.allowsRetry || broker.policy.isExhausted record.attempts) = false at goesOn
  have notLast : ¬ broker.IsLast record kind := by simpa [IsLast] using goesOn
  rw [Broker.fail_eq_retry found notLast, ← postponed_eq_bear]
  rfl

end Broker

/-! ## Effects in halls -/

namespace Consumers

variable {consumers : Consumers} {broker : Broker} {now : Moment} {effect : Effect}

/-- The bell has rung, or it has not, while nobody listens. -/
def rungAlone (consumers : Consumers) (rings : Bool) : Consumers :=
  { consumers with exchange := { consumers.exchange with
      bell := { consumers.exchange.bell with rung := consumers.exchange.bell.rung || rings } } }

/-- Rings that nobody hears commute. -/
theorem rungAlone_comm (consumers : Consumers) (one other : Bool) :
    (consumers.rungAlone one).rungAlone other = (consumers.rungAlone other).rungAlone one := by
  have rung := Bool.or_right_comm consumers.exchange.bell.rung one other
  unfold rungAlone
  rw [rung]

/-- Without a ring nothing has changed. -/
theorem rungAlone_false (consumers : Consumers) : consumers.rungAlone false = consumers := by
  have rung := Bool.or_false consumers.exchange.bell.rung
  unfold rungAlone
  rw [rung]

/-- A ring that nobody hears is left over. -/
theorem ring_eq_rungAlone (alone : consumers.row = []) :
    consumers.ring = consumers.rungAlone true := by
  have nobody : consumers.exchange.bell.listeners = [] := alone
  unfold ring rungAlone Exchange.ring Bell.ring
  simp only [nobody, Bool.or_true]
  rfl

/-- The consumers after an effect, while nobody listens. -/
def bear (consumers : Consumers) (now : Moment) (effect : Effect) : Consumers :=
  (consumers.serve (consumers.broker.bear now effect)).rungAlone effect.rings

end Consumers

namespace Hall

variable {hall : Hall} {one other effect : Effect} {delivery : Delivery}

/-- The hall after an effect, while nobody listens. -/
def bear (hall : Hall) (effect : Effect) : Hall where
  consumers := hall.consumers.bear hall.now effect
  now := hall.now
  held := hall.held.erase effect.delivery
  history := hall.history ++ [effect.event]

/-- Effects on different tasks commute, but for the order of the dead letters and of the events. -/
theorem bear_comm (hall : Hall) (different : one.delivery.id ≠ other.delivery.id) :
    ((hall.bear one).bear other).bare = ((hall.bear other).bear one).bare := by
  have broker := Broker.bear_comm hall.consumers.broker hall.now different
  have rung := Consumers.rungAlone_comm
    (hall.consumers.serve ((hall.consumers.broker.bear hall.now one).bear hall.now other).bare)
    one.rings other.rings
  have held := List.erase_comm one.delivery other.delivery (l := hall.held)
  change Hall.mk (((hall.consumers.serve
      ((hall.consumers.broker.bear hall.now one).bear hall.now other).bare).rungAlone
        one.rings).rungAlone other.rings) hall.now
    ((hall.held.erase one.delivery).erase other.delivery) [] = _
  rw [rung, broker, held]
  rfl

/-- What a report on a delivery does in a hall. -/
def effectOf (hall : Hall) (delivery : Delivery) (report : Report) : Effect :=
  hall.consumers.broker.policy.effect delivery report

/-- A request has an effect, and is answered accordingly. -/
structure Bears (hall : Hall) (request : Request) (effect : Effect) : Prop where
  /-- The hall after the request. -/
  ask_eq : hall.ask request = hall.bear effect
  /-- The answer. -/
  reply_eq : hall.reply request = effect.answer

/-- Without listeners a report on a running task has its effect. -/
theorem bears_report (alone : hall.consumers.row = [])
    (running : hall.consumers.broker.Running delivery) (report : Report) :
    hall.Bears (report.request delivery) (hall.effectOf delivery report) := by
  unfold effectOf
  cases report with
  | done =>
    have silent := Consumers.rungAlone_false
      (hall.consumers.serve (hall.consumers.broker.bear hall.now (.success delivery)))
    constructor
    · simp only [Report.request, ask, Consumers.ack_eq, running.ack_eq hall.now, Except.map]
      rw [← silent]
      rfl
    · simp only [Report.request, reply, Consumers.ack_eq, running.ack_eq hall.now]
      rfl
  | failed error kind =>
    cases guard : !kind.allowsRetry ||
        hall.consumers.broker.policy.isExhausted delivery.attempt with
    | true =>
      have failed := running.fail_eq_dead hall.now error guard
      have silent := Consumers.rungAlone_false
        (hall.consumers.serve (hall.consumers.broker.bear hall.now (.death delivery error kind)))
      have effect : hall.consumers.broker.policy.effect delivery (.failed error kind) =
          .death delivery error kind := if_pos guard
      rw [effect]
      constructor
      · simp only [Report.request, ask, Consumers.fail_eq_dead failed]
        rw [← silent]
        rfl
      · simp only [Report.request, reply, Consumers.fail_eq_dead failed]
        rfl
    | false =>
      have failed := running.fail_eq_retry hall.now error guard
      have rung (broker : Broker) : (hall.consumers.serve broker).ring = _ :=
        Consumers.ring_eq_rungAlone alone
      have effect : hall.consumers.broker.policy.effect delivery (.failed error kind) =
          .retry delivery error kind (hall.consumers.broker.policy.nextDelay delivery.attempt) :=
        if_neg (by rw [guard]; exact Bool.false_ne_true)
      rw [effect]
      constructor
      · simp only [Report.request, ask, Consumers.fail_eq_retry failed, rung]
        rfl
      · simp only [Report.request, reply, Consumers.fail_eq_retry failed]
        rfl

/-- The hall after a publication, while nobody listens. -/
def accept (hall : Hall) (broker : Broker) (envelope : Envelope) : Hall :=
  { hall with consumers := (hall.consumers.serve broker).rungAlone true }.record
    (.accepted envelope)

/-- Without listeners a task is published, and the ring is left over. -/
theorem ask_publish (hall : Hall) (alone : hall.consumers.row = []) {envelope : Envelope}
    {broker : Broker}
    (published : hall.consumers.broker.publish hall.now envelope = (.ok (), broker)) :
    hall.ask (.publish envelope) = hall.accept broker envelope ∧
      hall.reply (.publish envelope) = .published (.ok ()) := by
  have rung : (hall.consumers.serve broker).ring = _ := Consumers.ring_eq_rungAlone alone
  simp only [ask, reply, Consumers.publish_eq published, rung]
  exact ⟨rfl, trivial⟩

/-- A task that is refused changes nothing. -/
theorem ask_refused (hall : Hall) {envelope : Envelope} {failure : BrokerError}
    (refused : hall.consumers.broker.publish hall.now envelope =
      (.error failure, hall.consumers.broker)) :
    hall.ask (.publish envelope) = hall ∧
      hall.reply (.publish envelope) = .published (.error failure) := by
  constructor
  · simp only [ask, Consumers.publish_error refused]
  · simp only [reply, Consumers.publish_error refused]

/-- An effect on a task and the publication of another one commute, but for the order of the
events. -/
theorem accept_bear (hall : Hall) (broker : Broker) (envelope : Envelope) (effect : Effect) :
    ((hall.bear effect).accept (broker.bear hall.now effect) envelope).bare =
      ((hall.accept broker envelope).bear effect).bare := by
  have rung := Consumers.rungAlone_comm
    (hall.consumers.serve (broker.bear hall.now effect).bare) effect.rings true
  change Hall.mk (((hall.consumers.serve (broker.bear hall.now effect).bare).rungAlone
    effect.rings).rungAlone true) hall.now (hall.held.erase effect.delivery) [] = _
  rw [rung]
  rfl

/-- A report accepts no task. -/
theorem accepted_bear (hall : Hall) (effect : Effect) :
    (hall.bear effect).session.accepted = hall.session.accepted := by
  have other : effect.event.accepted? = none := by cases effect <;> rfl
  exact Session.accepted_record_other hall.session other

/-! ## Commuting requests -/

/-- It does not matter in which order two requests are made at one time. -/
structure Commute (hall : Hall) (one other : Request) : Prop where
  /-- They may be made in one order. -/
  allowed : turning.AllowsAll hall [.move (.ask one), .move (.ask other)]
  /-- They may be made in the other order. -/
  allowed_swapped : turning.AllowsAll hall [.move (.ask other), .move (.ask one)]
  /-- The first one is answered in the same way. -/
  one_eq : (hall.ask other).reply one = hall.reply one
  /-- The other one is answered in the same way. -/
  other_eq : (hall.ask one).reply other = hall.reply other
  /-- Nobody can tell the two orders apart. -/
  alike : ((hall.ask one).ask other).Alike ((hall.ask other).ask one)
  /-- The letters of tasks that are given up are in the order of the requests. -/
  letters : ∃ first second,
    (hall.ask one).deadLetters = hall.deadLetters ++ first ∧
      (hall.ask other).deadLetters = hall.deadLetters ++ second ∧
      ((hall.ask one).ask other).deadLetters = hall.deadLetters ++ first ++ second ∧
      ((hall.ask other).ask one).deadLetters = hall.deadLetters ++ second ++ first

/-- A delivery in hand can be given back. -/
theorem allows_report {report : Report} :
    hall.session.Allows (report.request delivery) ↔ delivery ∈ hall.held := by
  cases report <;> exact .rfl

/-- A report gives its delivery back. -/
theorem effectOf_delivery (hall : Hall) (delivery : Delivery) (report : Report) :
    (hall.effectOf delivery report).delivery = delivery := by
  cases report with
  | done => rfl
  | failed error kind =>
    simp only [effectOf, RetryPolicy.effect]
    split_ifs <;> rfl

/-- A task is running after the effect on another one. -/
theorem running_bear (running : hall.consumers.broker.Running delivery)
    (different : delivery.id ≠ effect.delivery.id) :
    (hall.bear effect).consumers.broker.Running delivery :=
  running.of_find?_eq (Broker.find?_bear hall.consumers.broker hall.now different)

/-- After the effect on one task, a report on another one does what it would have done before. -/
theorem bears_after (alone : hall.consumers.row = [])
    (running : hall.consumers.broker.Running delivery)
    (different : delivery.id ≠ effect.delivery.id) (report : Report) :
    (hall.bear effect).Bears (report.request delivery) (hall.effectOf delivery report) := by
  have stillAlone : (hall.bear effect).consumers.row = [] := alone
  exact bears_report stillAlone (running_bear running different) report

/-- Halls are alike after two effects on different tasks in either order. -/
theorem alike_bear (hall : Hall) (different : one.delivery.id ≠ other.delivery.id) :
    ((hall.bear one).bear other).Alike ((hall.bear other).bear one) := by
  refine alike_of_bare (bear_comm hall different) ?_ ?_
  · rw [accepted_bear, accepted_bear, accepted_bear, accepted_bear]
  · change (hall.deadLetters ++ one.letters ++ other.letters).length =
      (hall.deadLetters ++ other.letters ++ one.letters).length
    simp only [List.length_append]
    exact Nat.add_right_comm _ _ _

/-- Two reports may be made one after the other on different deliveries in hand. -/
theorem allows_reports {first second : Delivery} {one other : Report} {effect : Effect}
    (inHand : first ∈ hall.held) (alsoInHand : second ∈ hall.held) (apart : second ≠ first)
    (bears : hall.Bears (one.request first) effect) (returns : effect.delivery = first) :
    turning.AllowsAll hall [.move (.ask (one.request first)), .move (.ask (other.request second))]
    := by
  have stillInHand : second ∈ (hall.bear effect).held := by
    change second ∈ hall.held.erase effect.delivery
    rw [returns]
    exact (List.mem_erase_of_ne apart).2 alsoInHand
  have next : (hall.ask (one.request first)).session.Allows (other.request second) := by
    rw [bears.ask_eq]
    exact allows_report.2 stillInHand
  exact ⟨allows_report.2 inHand, next, trivial⟩

/-- Reports on different running tasks commute, while nobody listens. -/
theorem commute_reports (alone : hall.consumers.row = []) {first second : Delivery}
    (runs : hall.consumers.broker.Running first) (otherRuns : hall.consumers.broker.Running second)
    (inHand : first ∈ hall.held) (alsoInHand : second ∈ hall.held)
    (different : first.id ≠ second.id) (one other : Report) :
    hall.Commute (one.request first) (other.request second) := by
  have apart : first ≠ second := fun same => different (congrArg Delivery.id same)
  have oneOf := effectOf_delivery hall first one
  have otherOf := effectOf_delivery hall second other
  have bears := bears_report alone runs one
  have otherBears := bears_report alone otherRuns other
  have later := bears_after alone otherRuns (oneOf.symm ▸ different.symm) other
  have otherLater := bears_after alone runs (otherOf.symm ▸ different) one
  refine {
    allowed := allows_reports inHand alsoInHand apart.symm bears oneOf
    allowed_swapped := allows_reports alsoInHand inHand apart otherBears otherOf
    one_eq := ?_
    other_eq := ?_
    alike := ?_
    letters := ⟨(hall.effectOf first one).letters, (hall.effectOf second other).letters, ?_⟩ }
  · rw [otherBears.ask_eq, otherLater.reply_eq, bears.reply_eq]
  · rw [bears.ask_eq, later.reply_eq, otherBears.reply_eq]
  · rw [bears.ask_eq, otherBears.ask_eq, later.ask_eq, otherLater.ask_eq]
    exact alike_bear hall (by rw [oneOf, otherOf]; exact different)
  · rw [bears.ask_eq, otherBears.ask_eq, later.ask_eq, otherLater.ask_eq]
    exact ⟨rfl, rfl, rfl, rfl⟩

/-- The letters of a hall are the same after a publication. -/
theorem deadLetters_accept {envelope : Envelope} {broker : Broker}
    (published : hall.consumers.broker.publish hall.now envelope = (.ok (), broker)) :
    (hall.accept broker envelope).deadLetters = hall.deadLetters := by
  obtain ⟨-, rfl⟩ := Broker.publish_eq_ok published
  rfl

/-- After the publication of a new task, a report on another one does what it would have done
before. -/
theorem bears_accept (alone : hall.consumers.row = [])
    (running : hall.consumers.broker.Running delivery) {envelope : Envelope} {broker : Broker}
    (published : hall.consumers.broker.publish hall.now envelope = (.ok (), broker))
    (different : delivery.id ≠ envelope.id) (report : Report) :
    (hall.accept broker envelope).Bears (report.request delivery)
      (hall.effectOf delivery report) := by
  have stillAlone : (hall.accept broker envelope).consumers.row = [] := alone
  have stillRunning : (hall.accept broker envelope).consumers.broker.Running delivery :=
    running.of_update (Broker.find?_publish published) different
  have policy : broker.policy = hall.consumers.broker.policy := by
    obtain ⟨-, rfl⟩ := Broker.publish_eq_ok published
    rfl
  have same : (hall.accept broker envelope).effectOf delivery report =
      hall.effectOf delivery report := congrArg (·.effect delivery report) policy
  exact same ▸ bears_report stillAlone stillRunning report

/-- Halls are alike after an effect on a task and the publication of another one in either order. -/
theorem alike_accept (hall : Hall) (broker : Broker) (envelope : Envelope) (effect : Effect) :
    ((hall.bear effect).accept (broker.bear hall.now effect) envelope).Alike
      ((hall.accept broker envelope).bear effect) := by
  refine alike_of_bare (accept_bear hall broker envelope effect) ?_ rfl
  rw [accepted_bear]
  have first := Session.accepted_record (hall.bear effect).session (.accepted envelope)
  have second := Session.accepted_record hall.session (.accepted envelope)
  rw [accepted_bear] at first
  exact first.trans second.symm

/-- A report on a running task and the publication of a new one commute, while nobody listens. -/
theorem commute_publish (alone : hall.consumers.row = [])
    (runs : hall.consumers.broker.Running delivery) (inHand : delivery ∈ hall.held)
    (report : Report) {envelope : Envelope} (different : envelope.id ≠ delivery.id)
    (fresh : hall.session.Allows (.publish envelope)) :
    hall.Commute (report.request delivery) (.publish envelope) := by
  have isOf := effectOf_delivery hall delivery report
  have bears := bears_report alone runs report
  have commutes : (hall.bear (hall.effectOf delivery report)).consumers.broker.publish hall.now
      envelope = _ := Broker.publish_bear hall.consumers.broker hall.now (isOf.symm ▸ different)
  have stillFresh : (hall.ask (report.request delivery)).session.Allows (.publish envelope) := by
    rw [bears.ask_eq]
    change envelope.id ∉ (hall.bear (hall.effectOf delivery report)).session.accepted.map (·.id)
    rw [accepted_bear]
    exact fresh
  rcases hall.consumers.broker.publish_cases hall.now envelope with ⟨broker, published⟩ | closed
  · rw [published] at commutes
    obtain ⟨accepted, reply⟩ := ask_publish hall alone published
    obtain ⟨acceptedLater, replyLater⟩ :=
      ask_publish (hall.bear (hall.effectOf delivery report)) alone commutes
    have later := bears_accept alone runs published different.symm report
    have letters := deadLetters_accept published
    refine {
      allowed := ⟨allows_report.2 inHand, stillFresh, trivial⟩
      allowed_swapped := ⟨fresh, ?_, trivial⟩
      one_eq := by rw [accepted, later.reply_eq, bears.reply_eq]
      other_eq := by rw [bears.ask_eq, replyLater, reply]
      alike := ?_
      letters := ⟨(hall.effectOf delivery report).letters, [], ?_⟩ }
    · change (hall.ask (.publish envelope)).session.Allows (report.request delivery)
      rw [accepted]
      exact allows_report.2 inHand
    · rw [accepted, bears.ask_eq, acceptedLater, later.ask_eq]
      exact alike_accept hall broker envelope _
    · rw [accepted, bears.ask_eq, acceptedLater, later.ask_eq, List.append_nil, List.append_nil]
      have both : broker.deadLetters ++ (hall.effectOf delivery report).letters = _ :=
        congrArg (· ++ (hall.effectOf delivery report).letters) letters
      exact ⟨rfl, letters, both, both⟩
  · rw [closed] at commutes
    obtain ⟨refused, reply⟩ := ask_refused hall closed
    obtain ⟨refusedLater, replyLater⟩ :=
      ask_refused (hall.bear (hall.effectOf delivery report)) commutes
    refine {
      allowed := ⟨allows_report.2 inHand, stillFresh, trivial⟩
      allowed_swapped := ⟨fresh, ?_, trivial⟩
      one_eq := by rw [refused]
      other_eq := by rw [bears.ask_eq, replyLater, reply]
      alike := ?_
      letters := ⟨(hall.effectOf delivery report).letters, [], ?_⟩ }
    · change (hall.ask (.publish envelope)).session.Allows (report.request delivery)
      rw [refused]
      exact allows_report.2 inHand
    · rw [refused, bears.ask_eq, refusedLater]
      exact alike_of_bare rfl rfl rfl
    · rw [refused, bears.ask_eq, refusedLater, List.append_nil, List.append_nil]
      exact ⟨rfl, rfl, rfl, rfl⟩

/-- Nobody listens where nobody waits. -/
theorem row_eq_nil (present : hall.consumers.Present) (alone : hall.consumers.waiting = []) :
    hall.consumers.row = [] := by
  rw [List.eq_nil_iff_forall_not_mem]
  intro number inRow
  have waits := present.row_waits number inRow
  unfold Consumers.numbers at waits
  rw [alone] at waits
  exact List.not_mem_nil waits

/-- Settlements commute. While no consumer waits, the reports on two deliveries of different tasks
are answered in the same way in either order, and nobody can tell the two orders apart later, but
for the order of the dead letters; and so it is with a report and the publication of a new task. -/
theorem settlements_commute {policy : RetryPolicy} {begin : Moment}
    (run : (start policy begin).Turns hall) (alone : hall.consumers.waiting = []) :
    (∀ first ∈ hall.held, ∀ second ∈ hall.held, first.id ≠ second.id → ∀ one other : Report,
      hall.Commute (one.request first) (other.request second)) ∧
    ∀ delivery ∈ hall.held, ∀ (report : Report) (envelope : Envelope),
      hall.session.Allows (.publish envelope) →
        hall.Commute (report.request delivery) (.publish envelope) := by
  have sound := turns_sound run
  have silent := row_eq_nil (turns_present run) alone
  have running : ∀ delivery ∈ hall.held, hall.consumers.broker.Running delivery :=
    sound.serving.running
  constructor
  · intro first inHand second alsoInHand different one other
    exact commute_reports silent (running first inHand) (running second alsoInHand) inHand
      alsoInHand different one other
  · intro delivery inHand report envelope fresh
    have isRunning := running delivery inHand
    have known : delivery.id ∈ hall.session.accepted.map (·.id) := by
      obtain ⟨record, found, -⟩ := isRunning
      refine sound.known delivery.id (Decidable.not_not.1 fun unknown => ?_)
      have absent : hall.consumers.broker.find? delivery.id = none :=
        Broker.find?_eq_none_iff.2 unknown
      exact absurd (absent.symm.trans found) nofun
    have different : envelope.id ≠ delivery.id := fun same => fresh (same ▸ known)
    exact commute_publish silent isRunning inHand report different fresh

/-- Two tasks are worked on, and both have been refused once. -/
def twoAgain : List Turn :=
  [.move (.ask (.publish (Session.mail 1))), .move (.ask (.publish (Session.mail 2))),
    .move (.ask .lease), .move (.ask .lease),
    .move (.ask (.fail ⟨Session.mail 1, 1⟩ "refused" .transient)),
    .move (.ask (.fail ⟨Session.mail 2, 1⟩ "refused" .transient)),
    .move (.ask (.advance (.ofSeconds 2))), .move (.ask .lease), .move (.ask .lease)]

/-- A second refusal and a rejection commute, and so do a rejection and a publication. -/
theorem settlements_commute_twoAgain :
    (start .default 0).Turns (turning.run (start .default 0) twoAgain) ∧
      (turning.run (start .default 0) twoAgain).consumers.waiting = [] ∧
      (turning.run (start .default 0) twoAgain).Commute
        (.fail ⟨Session.mail 1, 2⟩ "refused" .transient)
        (.fail ⟨Session.mail 2, 2⟩ "rejected" .permanent) ∧
      (turning.run (start .default 0) twoAgain).Commute
        (.fail ⟨Session.mail 2, 2⟩ "rejected" .permanent) (.publish (Session.mail 3)) := by
  have run := turning.leads_run (start .default 0) twoAgain (by decide +kernel)
  have alone : (turning.run (start .default 0) twoAgain).consumers.waiting = [] := by
    decide +kernel
  obtain ⟨reports, publication⟩ := settlements_commute run alone
  have first := reports ⟨Session.mail 1, 2⟩ (by decide +kernel) ⟨Session.mail 2, 2⟩
    (by decide +kernel) (by decide) (.failed "refused" .transient) (.failed "rejected" .permanent)
  have second := publication ⟨Session.mail 2, 2⟩ (by decide +kernel) (.failed "rejected" .permanent)
    (Session.mail 3) (by decide +kernel)
  exact ⟨run, alone, first, second⟩

end Hall

end ReminderDispatch
