import ReminderDispatch.Proofs.Broker.Session

/-!
# Sound sessions

In every session the broker is consistent and serves the deliveries in hand. A request that the
session allows makes one of a few changes, which are listed once with all that is known about them;
what a session keeps is then shown change by change.

The main result is that the line and the schedule of every broker in use agree with its records, so
that its guards against stale tasks never take effect.
-/

namespace ReminderDispatch.Session

/-- The broker serves the deliveries in hand, and holds no task that was not accepted. -/
structure Sound (session : Session) : Prop where
  /-- The broker serves the deliveries in hand. -/
  serving : session.broker.Serving session.held
  /-- Every task that is held was accepted. -/
  known : ∀ id ∈ session.broker.taskIds, id ∈ session.accepted.map (·.id)

/-- What one request can do to a session. -/
inductive Change (before : Session) : Session → Prop where
  /-- Nothing has changed. -/
  | nothing : Change before before
  /-- A new task was accepted. -/
  | accept {envelope : Envelope} {broker : Broker}
      (fresh : envelope.id ∉ before.accepted.map (·.id))
      (published : before.broker.publish before.now envelope = (.ok (), broker)) :
      Change before ({ before with broker := broker }.record (.accepted envelope))
  /-- A look for work found no task, after the due ones had joined the line. -/
  | promote (isOpen : before.broker.closed = false)
      (empty : (before.broker.promote before.now).ready = []) :
      Change before { before with broker := before.broker.promote before.now }
  /-- A look for work found the first task of the line. -/
  | handOut {id : TaskId} {line : List TaskId} {record : TaskRecord}
      (isOpen : before.broker.closed = false)
      (first : (before.broker.promote before.now).ready = id :: line)
      (found : (before.broker.promote before.now).find? id = some record) :
      Change before ({ before with
        broker := (before.broker.promote before.now).startFirst before.now id line
        held := before.held ++ [(record.startAttempt before.now).delivery] }.record
        (.leased (record.startAttempt before.now).delivery))
  /-- A task in hand was acknowledged. -/
  | acknowledge {delivery : Delivery} (inHand : delivery ∈ before.held) :
      Change before (({ before with
        broker := before.broker.acknowledged delivery.id }.giveBack delivery).record
        (.acked delivery))
  /-- A task in hand was given up. -/
  | giveUp {delivery : Delivery} {record : TaskRecord} {error : String} {kind : FailureKind}
      (inHand : delivery ∈ before.held) (found : before.broker.find? delivery.id = some record)
      (last : before.broker.IsLast record kind) :
      Change before (({ before with
        broker := before.broker.givenUp ⟨delivery.envelope, record.attempts, error⟩
        }.giveBack delivery).record (.failed delivery error kind .deadLettered))
  /-- A task in hand was scheduled for another attempt. -/
  | retry {delivery : Delivery} {record : TaskRecord} {error : String} {kind : FailureKind}
      (inHand : delivery ∈ before.held) (found : before.broker.find? delivery.id = some record)
      (goesOn : ¬ before.broker.IsLast record kind) :
      Change before (({ before with
        broker := before.broker.postponed before.now
          (before.broker.nextAttempt before.now record) error }.giveBack delivery).record
        (.failed delivery error kind
          (.retryScheduled (before.broker.policy.nextDelay record.attempts))))
  /-- A delivery was thrown away. -/
  | abandon {delivery : Delivery} (inHand : delivery ∈ before.held) :
      Change before (before.giveBack delivery)
  /-- The broker was closed. -/
  | close : Change before { before with broker := before.broker.close }
  /-- Time has passed. -/
  | advance (span : Duration) : Change before { before with now := before.now + span.nanos }

variable {session before after : Session}

/-- Every request that a sound session allows makes one of the listed changes. -/
theorem Sound.change (sound : before.Sound) (step : before.Step after) : before.Change after := by
  obtain ⟨request, allowed, rfl⟩ := step
  change before.Allows request at allowed
  change before.Change (before.perform request)
  cases request with
  | publish envelope =>
    rcases before.broker.publish_cases before.now envelope with ⟨broker, published⟩ | refused
    · simpa only [perform, published] using Change.accept allowed published
    · simpa only [perform, refused] using Change.nothing
  | lease =>
    rcases sound.serving.lease_cases before.now with ⟨-, looked⟩ | ⟨isOpen, empty, looked⟩ |
      ⟨id, line, record, isOpen, first, found, looked⟩
    · simpa only [perform, looked] using Change.nothing
    · simpa only [perform, looked] using Change.promote isOpen empty
    · simpa only [perform, looked] using Change.handOut isOpen first found
  | ack delivery =>
    obtain ⟨record, found, -⟩ := sound.serving.running delivery allowed
    simpa only [perform, Broker.ack_eq found] using Change.acknowledge allowed
  | fail delivery error kind =>
    obtain ⟨record, found, -⟩ := sound.serving.running delivery allowed
    by_cases last : before.broker.IsLast record kind
    · simpa only [perform, Broker.fail_eq_dead found last] using Change.giveUp allowed found last
    · simpa only [perform, Broker.fail_eq_retry found last] using Change.retry allowed found last
  | abandon delivery => exact .abandon allowed
  | close => exact .close
  | advance span => exact .advance span

/-- A session starts with a broker that serves nobody. -/
theorem start_sound (policy : RetryPolicy) (now : Moment) : (start policy now).Sound where
  serving := Broker.new_serving policy
  known := by simp [start, Broker.new, Broker.taskIds, Broker.envelopes]

/-- An event that is recorded counts as the last acceptance if it is one. -/
theorem accepted_record (session : Session) (event : Event) :
    (session.record event).accepted = session.accepted ++ event.accepted?.toList := by
  simp only [accepted, record, List.filterMap_append]
  cases isAccepted : event.accepted? <;> simp [isAccepted]

/-- Other events than acceptances leave the accepted tasks as they are. -/
theorem accepted_record_other (session : Session) {event : Event} (other : event.accepted? = none) :
    (session.record event).accepted = session.accepted := by
  rw [accepted_record, other, Option.toList_none, List.append_nil]

/-- A session is sound in which no task was added. -/
theorem Sound.of_sublist (sound : before.Sound) (serving : after.broker.Serving after.held)
    (tasks : after.broker.taskIds.Sublist before.broker.taskIds)
    (accepted : after.accepted = before.accepted) : after.Sound where
  serving := serving
  known id member := by
    rw [accepted]
    exact sound.known id (tasks.subset member)

/-- A session is sound that holds the same tasks. -/
theorem Sound.of_envelopes_eq (sound : before.Sound) (serving : after.broker.Serving after.held)
    (tasks : after.broker.envelopes = before.broker.envelopes)
    (accepted : after.accepted = before.accepted) : after.Sound := by
  have same : after.broker.taskIds = before.broker.taskIds := congrArg (·.map (·.id)) tasks
  exact sound.of_sublist serving (same ▸ .refl _) accepted

/-- A look for work neither adds nor drops a task. -/
theorem Sound.envelopes_promote (sound : session.Sound) :
    (session.broker.promote session.now).envelopes = session.broker.envelopes :=
  (sound.serving.promote_admitted session.now).envelopes_eq

/-- Every change of a sound session keeps it sound. -/
theorem Sound.of_change (sound : before.Sound) (change : before.Change after) : after.Sound := by
  cases change with
  | nothing => exact sound
  | @accept envelope broker fresh published =>
    have new : envelope.id ∉ before.broker.taskIds := fun member => fresh (sound.known _ member)
    refine ⟨sound.serving.publish new published, fun id member => ?_⟩
    change id ∈ broker.taskIds at member
    rw [Broker.taskIds, Broker.envelopes_publish new published, List.map_append, List.mem_append,
      List.map_singleton, List.mem_singleton] at member
    rw [accepted_record, List.map_append, List.mem_append]
    rcases member with earlier | rfl
    · exact .inl (sound.known id earlier)
    · exact .inr (by simp [Event.accepted?])
  | promote isOpen empty =>
    exact sound.of_envelopes_eq (sound.serving.promote before.now) sound.envelopes_promote rfl
  | @handOut id line record isOpen first found =>
    have tasks := Broker.envelopes_startFirst (before.broker.promote before.now) before.now id line
    rw [sound.envelopes_promote] at tasks
    exact sound.of_envelopes_eq
      ((sound.serving.promote before.now).startFirst first found before.now) tasks
      (accepted_record_other _ rfl)
  | @acknowledge delivery inHand =>
    exact sound.of_sublist (sound.serving.acknowledged inHand)
      (Broker.taskIds_drop_sublist before.broker delivery.id)
      (accepted_record_other _ rfl)
  | @giveUp delivery record error kind inHand found last =>
    exact sound.of_sublist (sound.serving.givenUp inHand rfl)
      (Broker.taskIds_drop_sublist before.broker delivery.id)
      (accepted_record_other _ rfl)
  | @retry delivery record error kind inHand found goesOn =>
    have owner : record.id = delivery.id := Broker.find?_id found
    exact sound.of_envelopes_eq (sound.serving.postponed inHand before.now owner error)
      (Broker.envelopes_postponed _ before.now _ error) (accepted_record_other _ rfl)
  | @abandon delivery inHand =>
    exact sound.of_envelopes_eq (sound.serving.abandon delivery) rfl rfl
  | close => exact sound.of_envelopes_eq sound.serving.close rfl rfl
  | advance span => exact sound.of_envelopes_eq sound.serving rfl rfl

/-- Every session that begins with a broker without tasks is sound. -/
theorem leads_sound {policy : RetryPolicy} {now : Moment}
    (run : (start policy now).Leads session) : session.Sound := by
  induction run with
  | refl => exact start_sound policy now
  | tail _ step sound => exact sound.of_change (sound.change step)

end ReminderDispatch.Session

namespace ReminderDispatch.Broker

/-- A look for work passes over a due task: at the turn of the task, after some others have joined
the line, its record is gone or does not wait for another attempt. -/
def PassesOver (broker : Broker) (now : Moment) : Prop :=
  ∃ front task back, broker.dueTasks now = front ++ task :: back ∧
    (front.foldl (admitTask now) { broker with scheduled := broker.laterTasks now }).state?
      task.id ≠ some .retryScheduled

/-- A look for work loses the first task of the line: the record of the task is gone. -/
def LosesFirst (broker : Broker) (now : Moment) : Prop :=
  ∃ id line, (broker.promote now).ready = id :: line ∧ (broker.promote now).find? id = none

/-- The line and the schedule of a broker in use hold exactly the queued tasks and those that wait
for another attempt, each once and with the time of its record; and whenever somebody looks for
work, no due task is passed over and no task of the line is lost. -/
theorem containers_agree {policy : RetryPolicy} {begin : Moment} {session : Session}
    (run : (Session.start policy begin).Leads session) :
    session.broker.Consistent ∧
      ∀ now, ¬ session.broker.PassesOver now ∧ ¬ session.broker.LosesFirst now := by
  have consistent := (Session.leads_sound run).serving.toConsistent
  refine ⟨consistent, fun now => ⟨?_, ?_⟩⟩
  · rintro ⟨front, task, back, split, skipped⟩
    exact skipped (consistent.waits_at_turn split)
  · rintro ⟨id, line, first, lost⟩
    obtain ⟨record, found, -⟩ := (consistent.promote now).first_queued first
    rw [found] at lost
    contradiction

/-- The containers agree while one task waits in line and another one for its second attempt. -/
theorem containers_agree_failedOnce :
    (Session.start .default 0).Leads ((Session.start .default 0).run Session.failedOnce) ∧
      ((Session.start .default 0).run Session.failedOnce).broker.Consistent ∧
      ∀ now, ¬ ((Session.start .default 0).run Session.failedOnce).broker.PassesOver now ∧
        ¬ ((Session.start .default 0).run Session.failedOnce).broker.LosesFirst now := by
  have run := Session.machine.leads_run (.start .default 0) Session.failedOnce (by decide)
  exact ⟨run, containers_agree run⟩

end ReminderDispatch.Broker
