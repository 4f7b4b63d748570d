import ReminderDispatch.Proofs.Broker.Departures
import ReminderDispatch.Proofs.Lists

/-!
# Presence

Where the consumers of a broker are, whoever came, waited or departed. Each consumer that waits
listens or is awake, and nobody listens to a closed broker: the last ring has woken all who
listened, and a look at a closed broker comes back at once. Departures may leave a consumer
uncovered, but they never leave it behind in the row of a closed broker.
-/

namespace ReminderDispatch

namespace Consumers

variable {consumers : Consumers} {consumer : Consumer} {broker : Broker} {number : Nat}

/-- The waiting consumers are those that listen and those that the bell has woken. -/
structure Seated (consumers : Consumers) : Prop where
  /-- No two consumers have one number. -/
  numbers_nodup : consumers.numbers.Nodup
  /-- No consumer listens twice. -/
  row_nodup : consumers.row.Nodup
  /-- Those who listen are waiting. -/
  row_waits : ∀ number ∈ consumers.row, number ∈ consumers.numbers
  /-- Those who wait listen, or they are awake. -/
  attends : ∀ number ∈ consumers.numbers, number ∈ consumers.row ∨ number ∈ consumers.awake

/-- Nobody waits at first. -/
theorem new_seated (policy : RetryPolicy) : (new policy).Seated where
  numbers_nodup := List.nodup_nil
  row_nodup := List.nodup_nil
  row_waits := by simp [new, Exchange.new, Bell.silent, row]
  attends := by simp [new, numbers]

/-- Who waits does not depend on the broker. -/
theorem Seated.serve (seated : consumers.Seated) (broker : Broker) :
    (consumers.serve broker).Seated :=
  ⟨seated.numbers_nodup, seated.row_nodup, seated.row_waits, seated.attends⟩

/-- Who waits does not depend on a left-over ring. -/
theorem Seated.hush (seated : consumers.Seated) : consumers.hush.Seated :=
  ⟨seated.numbers_nodup, seated.row_nodup, seated.row_waits, seated.attends⟩

/-- A consumer that wakes by its alarm still listens. -/
theorem Seated.wake (seated : consumers.Seated) (number : Nat) :
    (consumers.wake number).Seated := by
  rw [wake_frame]
  exact ⟨seated.numbers_nodup, seated.row_nodup, seated.row_waits, fun other waits =>
    (seated.attends other waits).imp_right fun isAwake => mem_wake.2 (.inl isAwake)⟩

/-- A ring wakes the consumer that has listened longest. -/
theorem ring_frame (consumers : Consumers) :
    consumers.ring.row = consumers.row.tail ∧ consumers.ring.waiting = consumers.waiting ∧
      ∀ number, number ∈ consumers.awake ∨ number ∈ consumers.row.head? →
        number ∈ consumers.ring.awake := by
  unfold ring row Exchange.ring Bell.ring
  cases listeners : consumers.exchange.bell.listeners with
  | nil =>
    refine ⟨rfl, rfl, fun number isAwake => ?_⟩
    simpa [after] using isAwake
  | cons first more =>
    refine ⟨?_, ?_, fun number isAwake => ?_⟩
    · rw [after_frame]
      rfl
    · rw [after_frame]
    · rw [mem_after]
      simpa [eq_comm] using isAwake

/-- After a ring the waiting consumers are still those that listen and those that were woken. -/
theorem Seated.ring (seated : consumers.Seated) : consumers.ring.Seated := by
  obtain ⟨row, waiting, awake⟩ := ring_frame consumers
  have numbers : consumers.ring.numbers = consumers.numbers := congrArg (·.map (·.number)) waiting
  refine ⟨?_, ?_, fun number inRow => ?_, fun number waits => ?_⟩
  · exact numbers ▸ seated.numbers_nodup
  · exact row ▸ seated.row_nodup.tail
  · rw [row] at inRow
    rw [numbers]
    exact seated.row_waits number (List.mem_of_mem_tail inRow)
  · rw [numbers] at waits
    rw [row]
    rcases seated.attends number waits with inRow | isAwake
    · cases listens : consumers.row with
      | nil => simp [listens] at inRow
      | cons first more =>
        rw [listens] at inRow awake
        rcases List.mem_cons.1 inRow with rfl | behind
        · exact .inr (awake number (.inr rfl))
        · exact .inl behind
    · exact .inr (awake number (.inl isAwake))

/-- The consumers that wait when one has left. -/
theorem numbers_leave (consumers : Consumers) (number : Nat) :
    (consumers.leave number).numbers = consumers.numbers.filter (· ≠ number) := by
  unfold numbers leave
  rw [List.filter_map]
  rfl

/-- The consumers that listen when one has left. -/
theorem row_leave (consumers : Consumers) (number : Nat) :
    (consumers.leave number).row = consumers.row.filter (· ≠ number) := rfl

/-- When a consumer has left, all others are where they were. -/
theorem Seated.leave (seated : consumers.Seated) (number : Nat) :
    (consumers.leave number).Seated where
  numbers_nodup := numbers_leave consumers number ▸ seated.numbers_nodup.filter _
  row_nodup := row_leave consumers number ▸ seated.row_nodup.filter _
  row_waits other inRow := by
    rw [row_leave, List.mem_filter] at inRow
    rw [numbers_leave, List.mem_filter]
    exact ⟨seated.row_waits other inRow.1, inRow.2⟩
  attends other waits := by
    rw [numbers_leave, List.mem_filter] at waits
    have different : other ≠ number := of_decide_eq_true waits.2
    rw [row_leave, List.mem_filter]
    refine (seated.attends other waits.1).imp (⟨·, waits.2⟩) fun isAwake => ?_
    exact (List.mem_erase_of_ne different).2 isAwake

/-- A consumer that begins to wait listens behind all others. -/
theorem row_wait (consumers : Consumers) (consumer : Consumer) :
    (consumers.wait consumer).row = consumers.row ++ [consumer.number] := rfl

/-- A consumer that begins to wait is the last of those that wait. -/
theorem numbers_wait (consumers : Consumers) (consumer : Consumer) :
    (consumers.wait consumer).numbers = consumers.numbers ++ [consumer.number] := List.map_append

/-- When a consumer begins to wait, all others are where they were. -/
theorem Seated.wait (seated : consumers.Seated) (isAway : consumer.number ∉ consumers.numbers) :
    (consumers.wait consumer).Seated := by
  have isSilent : consumer.number ∉ consumers.row := fun inRow =>
    isAway (seated.row_waits consumer.number inRow)
  refine ⟨?_, ?_, fun other inRow => ?_, fun other waits => ?_⟩
  · rw [numbers_wait]
    exact nodup_append_singleton seated.numbers_nodup isAway
  · rw [row_wait]
    exact nodup_append_singleton seated.row_nodup isSilent
  · rw [row_wait] at inRow
    rw [numbers_wait]
    exact (List.mem_append.1 inRow).elim (fun early => List.mem_append_left _
      (seated.row_waits other early)) (List.mem_append_right _)
  · rw [numbers_wait] at waits
    rw [row_wait]
    rcases List.mem_append.1 waits with early | isLast
    · exact (seated.attends other early).imp_left (List.mem_append_left _)
    · exact .inl (List.mem_append_right _ isLast)

/-! ## Departures -/

/-- A consumer is neither waiting nor awake any more and does not listen, and nobody hears of it. -/
def withdraw (consumers : Consumers) (number : Nat) : Consumers where
  exchange := consumers.exchange.leave number
  waiting := consumers.waiting.filter fun consumer => consumer.number ≠ number
  awake := consumers.awake.filter (· ≠ number)

/-- Some consumer that waits has a number that is in use. -/
theorem any_number_iff :
    consumers.waiting.any (·.number == number) = true ↔ number ∈ consumers.numbers := by
  unfold numbers
  simp

/-- A consumer that does not listen leaves the bell as it is. -/
theorem leave_away (away : number ∉ consumers.row) :
    consumers.exchange.leave number = consumers.exchange := by
  have row : consumers.exchange.bell.listeners.filter (· ≠ number) =
      consumers.exchange.bell.listeners := by
    rw [List.filter_eq_self]
    intro other listens
    exact decide_eq_true fun same => away (same ▸ listens)
  unfold Exchange.leave Bell.leave
  rw [row]

/-- A consumer departs that the bell did not wake. -/
theorem cancel_eq_withdraw
    (unrung : number ∈ consumers.numbers → number ∈ consumers.row)
    (listens : number ∈ consumers.row → number ∈ consumers.numbers) :
    consumers.cancel number = consumers.withdraw number := by
  unfold cancel
  by_cases waits : number ∈ consumers.numbers
  · have inRow : number ∈ consumers.exchange.bell.listeners := unrung waits
    simp only [any_number_iff.2 waits, if_true, Exchange.cancel, if_pos inRow]
    rfl
  · have notAny := mt any_number_iff.1 waits
    rw [if_neg notAny]
    unfold withdraw
    rw [leave_away fun inRow => waits (listens inRow)]

/-- A consumer departs that the bell has woken: the ring goes to the next one. -/
theorem cancel_eq_ring (waits : number ∈ consumers.numbers) (away : number ∉ consumers.row) :
    consumers.cancel number = (consumers.withdraw number).ring := by
  have notInRow : number ∉ consumers.exchange.bell.listeners := away
  unfold cancel ring withdraw
  simp only [any_number_iff.2 waits, if_true, Exchange.cancel, if_neg notInRow, leave_away away]

/-- The consumers that wait when one has departed. -/
theorem numbers_withdraw (consumers : Consumers) (number : Nat) :
    (consumers.withdraw number).numbers = consumers.numbers.filter (· ≠ number) :=
  numbers_leave consumers number

/-- When a consumer has departed, all others are where they were. -/
theorem Seated.withdraw (seated : consumers.Seated) (number : Nat) :
    (consumers.withdraw number).Seated where
  numbers_nodup := (seated.leave number).numbers_nodup
  row_nodup := (seated.leave number).row_nodup
  row_waits := (seated.leave number).row_waits
  attends other waits := by
    rw [numbers_withdraw, List.mem_filter] at waits
    have isAwake := (seated.attends other waits.1)
    exact isAwake.imp (fun inRow => List.mem_filter.2 ⟨inRow, waits.2⟩)
      fun isAwake => List.mem_filter.2 ⟨isAwake, waits.2⟩

/-! ## Presence -/

/-- The waiting consumers are where they should be, and nobody listens to a closed broker. -/
structure Present (consumers : Consumers) : Prop extends Seated consumers where
  /-- Nobody listens to a closed broker. -/
  deserted : consumers.broker.closed = true → consumers.row = []

/-- Nobody waits at first. -/
theorem new_present (policy : RetryPolicy) : (new policy).Present where
  toSeated := new_seated policy
  deserted _ := rfl

/-- Who is present does not depend on the tasks of the broker. -/
theorem Present.serve (present : consumers.Present)
    (closed : broker.closed = consumers.broker.closed) : (consumers.serve broker).Present where
  toSeated := present.toSeated.serve broker
  deserted isClosed := present.deserted (closed ▸ isClosed)

/-- Who is present does not depend on a left-over ring. -/
theorem Present.hush (present : consumers.Present) : consumers.hush.Present :=
  ⟨present.toSeated.hush, present.deserted⟩

/-- A consumer that wakes changes nothing for the others. -/
theorem Present.wake (present : consumers.Present) (number : Nat) :
    (consumers.wake number).Present where
  toSeated := present.toSeated.wake number
  deserted isClosed := by
    rw [wake_frame] at isClosed ⊢
    exact present.deserted isClosed

/-- A ring leaves everybody present. -/
theorem Present.ring (present : consumers.Present) : consumers.ring.Present where
  toSeated := present.toSeated.ring
  deserted isClosed := by
    rw [broker_ring] at isClosed
    rw [(ring_frame consumers).1, present.deserted isClosed, List.tail_nil]

/-- A consumer that leaves was the only one to go. -/
theorem Present.leave (present : consumers.Present) (number : Nat) :
    (consumers.leave number).Present where
  toSeated := present.toSeated.leave number
  deserted isClosed := by
    rw [row_leave, present.deserted isClosed, List.filter_nil]

/-- A consumer that begins to wait listens to an open broker. -/
theorem Present.wait (present : consumers.Present) {consumer : Consumer}
    (isAway : consumer.number ∉ consumers.numbers) (isOpen : consumers.broker.closed = false) :
    (consumers.wait consumer).Present where
  toSeated := present.toSeated.wait isAway
  deserted isClosed := absurd (isOpen.symm.trans isClosed) Bool.false_ne_true

/-- A consumer that departs was the only one to go. -/
theorem Present.withdraw (present : consumers.Present) (number : Nat) :
    (consumers.withdraw number).Present where
  toSeated := present.toSeated.withdraw number
  deserted isClosed := by
    change consumers.row.filter _ = []
    rw [present.deserted isClosed, List.filter_nil]

/-- Those who stay are present when a consumer departs. -/
theorem Present.cancel (present : consumers.Present) (number : Nat) :
    (consumers.cancel number).Present := by
  by_cases unrung : number ∈ consumers.numbers → number ∈ consumers.row
  · rw [cancel_eq_withdraw unrung (present.row_waits number)]
    exact present.withdraw number
  · obtain ⟨waits, away⟩ := Classical.not_imp.1 unrung
    rw [cancel_eq_ring waits away]
    exact (present.withdraw number).ring

/-- Closing empties the row and nothing else: all who listened are awake. -/
theorem close_frame (consumers : Consumers) :
    consumers.close.row = [] ∧ consumers.close.waiting = consumers.waiting ∧
      ∀ number, number ∈ consumers.close.awake ↔
        number ∈ consumers.awake ∨ number ∈ consumers.row := by
  have frame := after_frame consumers consumers.exchange.close.2 consumers.exchange.close.1
  have waiting := congrArg Consumers.waiting frame
  exact ⟨congrArg row frame, waiting, fun _ => mem_after⟩

/-- Closing wakes everyone who listens. -/
theorem Present.close (present : consumers.Present) : consumers.close.Present := by
  obtain ⟨row, waiting, awake⟩ := close_frame consumers
  have numbers : consumers.close.numbers = consumers.numbers := congrArg (·.map (·.number)) waiting
  refine ⟨⟨?_, ?_, ?_, fun number waits => ?_⟩, fun _ => row⟩
  · exact numbers ▸ present.numbers_nodup
  · exact row ▸ List.nodup_nil
  · simp [row]
  · rw [numbers] at waits
    exact .inr ((awake number).2 (present.attends number waits).symm)

end Consumers

namespace Hall

variable {hall before after : Hall}

/-- A look for work does not change whether the broker is closed. -/
theorem closed_lease (sound : hall.session.Sound) :
    (hall.consumers.broker.lease hall.now).2.closed = hall.consumers.broker.closed := by
  have consistent : hall.consumers.broker.Consistent := sound.serving.toConsistent
  have promoted := congrArg (·.closed) (consistent.promote_admitted hall.now).frame
  rcases consistent.lease_cases hall.now with ⟨-, looked⟩ | ⟨-, -, looked⟩ |
    ⟨id, line, record, -, -, -, looked⟩
  · rw [looked]
  · rw [looked]
    exact promoted
  · rw [looked]
    exact promoted

/-- A look that finds nothing and does not come back was one at an open broker. -/
theorem open_of_nothing (sound : hall.session.Sound) {alarm : Option Moment} {broker : Broker}
    (looked : hall.consumers.broker.lease hall.now = (.nothing alarm, broker)) :
    broker.closed = false := by
  have closed := closed_lease sound
  rw [looked] at closed
  refine closed.trans ?_
  unfold Broker.lease at looked
  split at looked
  · simp at looked
  · rename_i isOpen
    exact Bool.not_eq_true _ ▸ isOpen

/-- Every request leaves the consumers present. -/
theorem ask_present (present : hall.consumers.Present) (sound : hall.session.Sound)
    {request : Request} (allowed : hall.session.Allows request) :
    (hall.ask request).consumers.Present := by
  cases request with
  | publish envelope =>
    rcases hall.consumers.broker.publish_cases hall.now envelope with
      ⟨broker, published⟩ | refused
    · have closed := congrArg (·.closed) (Broker.publish_eq_ok published).2
      simp only [ask, Consumers.publish_eq published]
      exact (present.serve closed).ring
    · simp only [ask, Consumers.publish_error refused]
      exact present
  | lease =>
    have looked := (present.serve (closed_lease sound)).hush
    simp only [ask, Consumers.glance_eq]
    cases (hall.consumers.broker.lease hall.now).1 <;> exact looked
  | ack delivery =>
    obtain ⟨record, found, -⟩ := sound.serving.running delivery allowed
    have acked : hall.consumers.broker.ack delivery = _ := Broker.ack_eq found
    simp only [ask, Consumers.ack_eq, acked]
    exact present.serve rfl
  | fail delivery error kind =>
    obtain ⟨record, found, -⟩ := sound.serving.running delivery allowed
    by_cases last : hall.consumers.broker.IsLast record kind
    · have failed : hall.consumers.broker.fail hall.now delivery error kind = _ :=
        Broker.fail_eq_dead found last
      simp only [ask, Consumers.fail_eq_dead failed]
      exact present.serve rfl
    · have failed : hall.consumers.broker.fail hall.now delivery error kind = _ :=
        Broker.fail_eq_retry found last
      simp only [ask, Consumers.fail_eq_retry failed]
      exact Consumers.Present.ring (present.serve rfl)
  | abandon delivery => exact present
  | close => exact present.close
  | advance span => exact present

/-- A look of a consumer leaves all others present. -/
theorem look_present (present : hall.consumers.Present) (sound : hall.session.Sound)
    (number : Nat) : (hall.look number).consumers.Present := by
  have left := ((present.leave number).serve (closed_lease sound)).hush
  have isAway : number ∉ (hall.consumers.leave number).numbers := by
    simp [Consumers.numbers_leave]
  simp only [look, Consumers.step_call]
  rcases looked : hall.consumers.broker.lease hall.now with ⟨found, broker⟩
  rw [looked] at left
  cases found with
  | closed | leased delivery => exact left
  | nothing alarm => exact left.wait isAway (open_of_nothing sound looked)

/-- Every turn leaves the consumers present. -/
theorem turn_present (present : before.consumers.Present) (sound : before.session.Sound)
    (step : turning.Step before after) : after.consumers.Present := by
  obtain ⟨turn, allowed, rfl⟩ := step
  cases turn with
  | depart number => exact present.cancel number
  | move move =>
    cases move with
    | ask request => exact ask_present present sound allowed
    | join number | alarm number => exact present.wake number
    | ring => exact present.ring
    | look number => exact look_present present sound number

/-- In every hall that begins without tasks and consumers the consumers are present, whoever
departs. -/
theorem turns_present {policy : RetryPolicy} {now : Moment} (run : (start policy now).Turns hall) :
    hall.consumers.Present := by
  induction run with
  | refl => exact Consumers.new_present policy
  | tail earlier step present => exact turn_present present (turns_sound earlier) step

end Hall

end ReminderDispatch
