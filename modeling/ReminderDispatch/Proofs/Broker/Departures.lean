import ReminderDispatch.Proofs.Broker.Hall

/-!
# Departures

Consumers that wait may be cancelled while others go on waiting for the same broker. A departure
concerns no task, so that the deliveries in hand are always for different tasks that are running,
whoever came and went.
-/

namespace ReminderDispatch

/-- What can happen in a hall from which consumers may depart. -/
inductive Turn where
  /-- Anything that happens in a hall. -/
  | move (move : Move)
  /-- A consumer that waits for a task is cancelled. -/
  | depart (number : Nat)
  deriving DecidableEq, Repr

namespace Hall

/-- The hall after a consumer was cancelled. -/
def depart (hall : Hall) (number : Nat) : Hall :=
  { hall with consumers := hall.consumers.cancel number }

/-- The hall after a turn. -/
def turn (hall : Hall) : Turn → Hall
  | .move move => hall.perform move
  | .depart number => hall.depart number

/-- Anyone may depart who waits or is awake. -/
def AllowsTurn (hall : Hall) : Turn → Prop
  | .move move => hall.Allows move
  | .depart number => number ∈ hall.consumers.numbers ∨ number ∈ hall.consumers.awake

instance (hall : Hall) (turn : Turn) : Decidable (hall.AllowsTurn turn) :=
  match turn with
  | .move move => inferInstanceAs (Decidable (hall.Allows move))
  | .depart number => inferInstanceAs
      (Decidable (number ∈ hall.consumers.numbers ∨ number ∈ hall.consumers.awake))

/-- Halls from which consumers may depart. -/
def turning : Machine Hall Turn := ⟨AllowsTurn, turn⟩

instance (hall : Hall) (turn : Turn) : Decidable (turning.Allows hall turn) :=
  inferInstanceAs (Decidable (hall.AllowsTurn turn))

/-- A hall after any number of turns. -/
def Turns (before after : Hall) : Prop := turning.Leads before after

end Hall

/-! ## Departures and tasks -/

namespace Consumers

/-- A departure leaves the broker as it is. -/
theorem broker_cancel (consumers : Consumers) (number : Nat) :
    (consumers.cancel number).broker = consumers.broker := by
  unfold cancel broker
  split
  · change (Consumers.after _ _ _).exchange.broker = _
    rw [after_frame]
    exact consumers.exchange.broker_cancel number
  · rfl

end Consumers

namespace Hall

variable {hall before after : Hall} {number : Nat}

/-- A departure changes nothing in the session. -/
theorem session_depart (hall : Hall) (number : Nat) :
    (hall.depart number).session = hall.session := by
  unfold session depart
  rw [Consumers.broker_cancel]

/-- A turn in a hall is at most one request in the session. -/
theorem session_turn (step : turning.Step before after) : before.session.Leads after.session := by
  obtain ⟨turn, allowed, rfl⟩ := step
  cases turn with
  | move move => exact Step.session ⟨move, allowed, rfl⟩
  | depart number =>
    have same : (turning.perform before (.depart number)).session = before.session :=
      session_depart before number
    exact same ▸ .refl

/-- A hall from which consumers may have departed is one of a sound session. -/
theorem turns_sound {policy : RetryPolicy} {now : Moment} (run : (start policy now).Turns hall) :
    hall.session.Sound := by
  have session : (Session.start policy now).Leads hall.session := by
    induction run with
    | refl => exact .refl
    | tail _ step earlier => exact earlier.trans (session_turn step)
  exact Session.leads_sound session

/-- The deliveries in hand are those of different running tasks, and all can be settled. -/
structure Exclusive (hall : Hall) : Prop where
  /-- No two deliveries in hand are for one task. -/
  distinct : (hall.held.map (·.id)).Nodup
  /-- The task is running, in the attempt and with the envelope that the delivery tells. -/
  running : ∀ delivery ∈ hall.held, ∃ record,
    hall.consumers.exchange.broker.find? delivery.id = some record ∧ record.state = .running ∧
      record.attempts = delivery.attempt ∧ record.envelope = delivery.envelope
  /-- The task is neither in the line nor in the schedule. -/
  outside : ∀ delivery ∈ hall.held, delivery.id ∉ hall.consumers.exchange.broker.ready ∧
    delivery.id ∉ hall.consumers.exchange.broker.scheduled.map (·.id)
  /-- The task can be acknowledged. -/
  acks : ∀ delivery ∈ hall.held, ∃ consumers, hall.consumers.ack delivery = .ok consumers
  /-- A failure of the attempt can be reported at any time. -/
  fails : ∀ delivery ∈ hall.held, ∀ now error kind, ∃ verdict consumers,
    hall.consumers.fail now delivery error kind = .ok (verdict, consumers)

/-- No two consumers have one task in hand, whatever was asked of the broker and whoever came, waited
or departed; and every delivery in hand can be settled. -/
theorem leases_exclusive {policy : RetryPolicy} {begin : Moment}
    (run : (start policy begin).Turns hall) : hall.Exclusive := by
  have serving : hall.consumers.broker.Serving hall.held := (turns_sound run).serving
  refine {
    distinct := serving.held_nodup
    running := fun delivery inHand => ?_
    outside := fun delivery inHand => ?_
    acks := fun delivery inHand => ?_
    fails := fun delivery inHand now error kind => ?_ }
  all_goals obtain ⟨record, found, running, told⟩ := serving.running delivery inHand
  · exact ⟨record, found, running, congrArg (·.attempt) told, congrArg (·.envelope) told⟩
  · exact serving.agree.running_outside found running
  · rw [Consumers.ack_eq, Broker.ack_eq found]
    exact ⟨_, rfl⟩
  · by_cases last : hall.consumers.broker.IsLast record kind
    · exact ⟨_, _, Consumers.fail_eq_dead (Broker.fail_eq_dead found last)⟩
    · exact ⟨_, _, Consumers.fail_eq_retry (Broker.fail_eq_retry found last)⟩

/-- Three consumers wait for two tasks. One of them departs, and the broker is closed while the two
tasks are worked on, one of them for the second time. -/
def twoAtWork : List Turn :=
  [.move (.join 1), .move (.join 2), .move (.join 3), .move (.look 1), .move (.look 2),
    .move (.look 3), .move (.ask (.publish (Session.mail 1))), .depart 1, .move (.look 2),
    .move (.ask (.fail ⟨Session.mail 1, 1⟩ "refused" .transient)),
    .move (.ask (.publish (Session.mail 2))), .move (.look 3),
    .move (.ask (.advance (.ofSeconds 2))), .move (.join 4), .move (.look 4),
    .move (.ask .close)]

/-- The tasks of two consumers are different ones at the closed broker. -/
theorem leases_exclusive_twoAtWork :
    (start .default 0).Turns (turning.run (start .default 0) twoAtWork) ∧
      (turning.run (start .default 0) twoAtWork).Exclusive ∧
      (turning.run (start .default 0) twoAtWork).held =
        [⟨Session.mail 2, 1⟩, ⟨Session.mail 1, 2⟩] := by
  have run := turning.leads_run (start .default 0) twoAtWork (by decide +kernel)
  exact ⟨run, leases_exclusive run, by decide +kernel⟩

end Hall

end ReminderDispatch
