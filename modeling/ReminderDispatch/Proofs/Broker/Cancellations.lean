import ReminderDispatch.Proofs.Broker.Wakeups

/-!
# Cancellations

Consumers that wait may be cancelled while others go on waiting for the same broker. This concerns
no task, but the others may miss the one that has gone. The alarm for a scheduled attempt is set by
the consumer that looked last, and nobody else hears of the attempt if this consumer goes. A consumer
that has learned of its ring and is on the way to its next look takes the ring with it, although
nobody else was woken. No wake-up is lost as long as nobody goes who would look before one that has
listened longer.
-/

namespace ReminderDispatch.Lobby

/-- A guest that nobody misses may be cancelled in a mindful run. -/
theorem mindful_cancel {lobby : Lobby} {number : Nat} (allowed : lobby.Allows (.cancel number))
    (spared : lobby.Spared number) : mindful.Step lobby (lobby.perform (.cancel number)) := by
  refine ⟨.cancel number, ⟨allowed, fun other same => ?_⟩, rfl⟩
  obtain rfl : number = other := Act.cancel.inj same
  exact spared

/-- A cancellation concerns no task. No wake-up is lost by cancellations as long as nobody goes who
trails others and would look before one of them: when everyone who was woken has looked again and a
consumer still rests, then the broker is open, its line is empty and nothing is due. -/
theorem cancellations_harmless (lobby : Lobby) :
    (∀ number, (lobby.perform (.cancel number)).session = lobby.session) ∧
      ∀ (policy : RetryPolicy) (begin : Moment), mindful.Leads (start policy begin) lobby →
        lobby.Settled → (∃ guest ∈ lobby.guests, guest.rests = true) →
        lobby.session.broker.closed = false ∧ lobby.session.broker.ready = [] ∧
          ∀ task ∈ lobby.session.broker.scheduled, lobby.session.now < task.due := by
  refine ⟨fun number => ?_, fun policy begin run settled waits => ?_⟩
  · change ((lobby.guest? number).elim lobby lobby.depart).session = lobby.session
    cases lobby.guest? number with
    | none => rfl
    | some guest => exact session_passOn (lobby.without guest) guest
  · obtain ⟨isOpen, idle⟩ := (mindful_attended run).idle settled waits
    exact ⟨isOpen, Broker.demandBy_eq_zero idle⟩

/-- While three consumers rest, another task comes, and its ring reaches the first one. -/
def reachedOne : List Act := outOfTurn ++ [.ask (.publish (Session.mail 2)), .ring]

/-- The ring that was passed on has reached the second one, which takes the task. -/
def reachedNext : List Act := [.hear 3, .register 3, .check 3, .leave 3]

/-- No wake-up is lost when a consumer is cancelled that a ring has reached: the ring goes to the next
one, and the last one waits for the next attempt. -/
theorem cancellations_harmless_reachedNext :
    mindful.Leads (start .default 0)
        (staying.run ((staying.run (start .default 0) reachedOne).perform (.cancel 2))
          reachedNext) ∧
      (staying.run ((staying.run (start .default 0) reachedOne).perform (.cancel 2))
          reachedNext).guests =
        [⟨1, .resting .listening (some 2000000000), true⟩] ∧
      ∀ task ∈ (staying.run ((staying.run (start .default 0) reachedOne).perform (.cancel 2))
          reachedNext).session.broker.scheduled,
        (staying.run ((staying.run (start .default 0) reachedOne).perform (.cancel 2))
          reachedNext).session.now < task.due := by
  have reached := staying.leads_run (start .default 0) reachedOne (by decide +kernel)
  have spared : (staying.run (start .default 0) reachedOne).Spared 2 := by
    intro front guest back split isSecond trails
    have called : ∀ guest ∈ (staying.run (start .default 0) reachedOne).guests,
        guest.number = 2 → guest.trails = false := by decide +kernel
    have isHere : guest ∈ (staying.run (start .default 0) reachedOne).guests :=
      split ▸ List.mem_append_right front List.mem_cons_self
    exact absurd ((called guest isHere isSecond).symm.trans trails) Bool.false_ne_true
  have cancelled : mindful.Step (staying.run (start .default 0) reachedOne)
      ((staying.run (start .default 0) reachedOne).perform (.cancel 2)) :=
    mindful_cancel (by decide +kernel) spared
  have next := staying.leads_run
    ((staying.run (start .default 0) reachedOne).perform (.cancel 2)) reachedNext
    (by decide +kernel)
  have run := ((mindful_of_staying reached).tail cancelled).trans (mindful_of_staying next)
  exact ⟨run, by decide +kernel, ((cancellations_harmless _).2 _ _ run (by decide +kernel)
    (by decide +kernel)).2.2⟩

/-- Two consumers rest when a task is scheduled for another attempt. The first one is woken, sets its
alarm behind the second one, and is cancelled; then the attempt is due. -/
def alarmLost : List Act :=
  [.ask (.publish (Session.mail 1)), .ring, .join 9, .register 9, .check 9, .leave 9,
    .join 1, .register 1, .check 1, .join 2, .register 2, .check 2,
    .ask (.fail ⟨Session.mail 1, 1⟩ "refused" .transient), .ring, .hear 1, .register 1, .check 1,
    .cancel 1, .ask (.advance (.ofSeconds 2))]

/-- Two consumers rest when a task comes. The first one learns of its ring, and is cancelled while it
waits for its turn to look. -/
def ringLost : List Act :=
  [.join 1, .register 1, .check 1, .join 2, .register 2, .check 2,
    .ask (.publish (Session.mail 1)), .ring, .hear 1, .register 1, .cancel 1]

/-- A cancellation can leave another consumer resting although a task is due or in the line: neither
the bell nor an alarm will wake it. -/
theorem cancellation_strands :
    (machine.Leads (start .default 0) (machine.run (start .default 0) alarmLost) ∧
      (machine.run (start .default 0) alarmLost).Settled ∧
      (machine.run (start .default 0) alarmLost).guests =
        [⟨2, .resting .listening none, true⟩] ∧
      ∃ task ∈ (machine.run (start .default 0) alarmLost).session.broker.scheduled,
        task.due ≤ (machine.run (start .default 0) alarmLost).session.now) ∧
    machine.Leads (start .default 0) (machine.run (start .default 0) ringLost) ∧
      (machine.run (start .default 0) ringLost).Settled ∧
      (machine.run (start .default 0) ringLost).guests =
        [⟨2, .resting .listening none, true⟩] ∧
      (machine.run (start .default 0) ringLost).session.broker.ready = [.ofNat 1] := by
  have alarmRun := machine.leads_run (start .default 0) alarmLost (by decide +kernel)
  have ringRun := machine.leads_run (start .default 0) ringLost (by decide +kernel)
  exact ⟨⟨alarmRun, by decide +kernel, by decide +kernel, by decide +kernel⟩,
    ringRun, by decide +kernel, by decide +kernel, by decide +kernel⟩

end ReminderDispatch.Lobby
