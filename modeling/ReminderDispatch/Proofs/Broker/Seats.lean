import ReminderDispatch.Proofs.Broker.Attendance
import ReminderDispatch.Proofs.Broker.Presence
import ReminderDispatch.Proofs.Broker.Steps

/-!
# Consumers as guests

Which guests are the consumers of a broker, each look of which is taken as a whole. A consumer that
waits is a guest that rests, and listens for the bell in the same place of the row or has been woken;
a consumer that is awake and has not waited before is a guest that is about to begin.
-/

namespace ReminderDispatch

/-- Where a guest stands who is one of the consumers: it is awake and has yet to look for the first
time, or it waits, and listens or is awake. -/
inductive Stands (consumers : Consumers) : Guest → Prop where
  /-- The consumer has come and has yet to look. -/
  | entering {number : Nat} (away : number ∉ consumers.numbers) :
    Stands consumers ⟨number, .entering, false⟩
  /-- The consumer waits and listens. -/
  | listening {number : Nat} {alarm : Option Moment} {again : Bool}
    (waits : ⟨number, alarm⟩ ∈ consumers.waiting) :
    Stands consumers ⟨number, .resting .listening alarm, again⟩
  /-- The bell has woken the consumer. -/
  | woken {number : Nat} {ear : Ear} {alarm : Option Moment} {again : Bool}
    (waits : ⟨number, alarm⟩ ∈ consumers.waiting) (isAwake : number ∈ consumers.awake)
    (rang : ear = .called ∨ ear = .summoned ∧ consumers.broker.closed = true) :
    Stands consumers ⟨number, .resting ear alarm, again⟩

/-- The guests are the consumers that wait or are awake. -/
structure Seats (consumers : Consumers) (now : Moment) (guests : List Guest) : Prop where
  /-- No two guests have one number. -/
  distinct : Lobby.Distinct guests
  /-- No consumer is awake twice. -/
  awake_nodup : consumers.awake.Nodup
  /-- Every consumer is a guest. -/
  known : ∀ number, number ∈ guests.map (·.number) ↔
    number ∈ consumers.numbers ∨ number ∈ consumers.awake
  /-- Those who listen stand in one order. -/
  row : (guests.filter (·.listens)).map (·.number) = consumers.row
  /-- Every guest stands where the consumer is. -/
  stands : ∀ guest ∈ guests, Stands consumers guest
  /-- A consumer that listens and is awake was woken by its alarm. -/
  alarms : ∀ consumer ∈ consumers.waiting, consumer.number ∈ consumers.row →
    consumer.number ∈ consumers.awake → ∃ time ∈ consumer.alarm, time ≤ now

namespace Seats

variable {consumers other : Consumers} {now later : Moment} {guests front back : List Guest}
  {guest : Guest} {number : Nat} {alarm : Option Moment}

/-- Where a guest stands does not depend on the broker, unless it is opened again. -/
theorem stands_congr (stands : Stands consumers guest) (waiting : other.waiting = consumers.waiting)
    (awake : ∀ number ∈ consumers.awake, number ∈ other.awake)
    (closed : consumers.broker.closed = true → other.broker.closed = true) :
    Stands other guest := by
  cases stands with
  | entering away => exact .entering (by rwa [Consumers.numbers, waiting])
  | listening waits => exact .listening (waiting ▸ waits)
  | woken waits isAwake rang =>
    exact .woken (waiting ▸ waits) (awake _ isAwake) (rang.imp_right (·.imp_right closed))

/-- The guests are where they were when time has passed or the broker has changed. -/
theorem congr (seats : Seats consumers now guests) (isLater : now ≤ later)
    (waiting : other.waiting = consumers.waiting) (row : other.row = consumers.row)
    (awake : other.awake = consumers.awake)
    (closed : consumers.broker.closed = true → other.broker.closed = true) :
    Seats other later guests where
  distinct := seats.distinct
  awake_nodup := awake ▸ seats.awake_nodup
  known number := by rw [seats.known, Consumers.numbers, Consumers.numbers, waiting, awake]
  row := seats.row.trans row.symm
  stands guest isHere :=
    stands_congr (seats.stands guest isHere) waiting (fun _ isAwake => awake ▸ isAwake) closed
  alarms consumer waits inRow isAwake := by
    rw [waiting] at waits
    rw [row] at inRow
    rw [awake] at isAwake
    obtain ⟨time, sets, due⟩ := seats.alarms consumer waits inRow isAwake
    exact ⟨time, sets, Nat.le_trans due isLater⟩

/-- Two guests of one number are one. -/
theorem guest_unique (seats : Seats consumers now guests) {one another : Guest}
    (isHere : one ∈ guests) (isThere : another ∈ guests) (same : one.number = another.number) :
    one = another :=
  List.inj_on_of_nodup_map seats.distinct isHere isThere same

/-- A guest listens if the consumer does. -/
theorem listens_iff (seats : Seats consumers now guests) (isHere : guest ∈ guests) :
    guest.listens = true ↔ guest.number ∈ consumers.row := by
  rw [← seats.row]
  constructor
  · intro listens
    exact List.mem_map_of_mem (List.mem_filter.2 ⟨isHere, listens⟩)
  · intro inRow
    obtain ⟨other, listening, same⟩ := List.mem_map.1 inRow
    obtain ⟨isThere, listens⟩ := List.mem_filter.1 listening
    exact seats.guest_unique isThere isHere same ▸ listens

/-- One guest has gone, and its consumer with it. -/
theorem gone (seats : Seats consumers now (front ++ guest :: back))
    (waiting : other.waiting =
      consumers.waiting.filter fun consumer => consumer.number ≠ guest.number)
    (row : other.row = consumers.row.filter (· ≠ guest.number)) (nodup : other.awake.Nodup)
    (awake : ∀ number, number ∈ other.awake ↔ number ∈ consumers.awake ∧ number ≠ guest.number)
    (closed : other.broker.closed = consumers.broker.closed) :
    Seats other now (front ++ back) := by
  have apart : guest.number ∉ (front ++ back).map (·.number) ∧
      Lobby.Distinct (front ++ back) := by
    have distinct := seats.distinct
    rw [Lobby.Distinct, List.map_append, List.map_cons, List.nodup_middle, ← List.map_append,
      List.nodup_cons] at distinct
    exact distinct
  have different : ∀ one ∈ front ++ back, one.number ≠ guest.number :=
    fun one isHere same => apart.1 (same ▸ List.mem_map_of_mem isHere)
  have numbers : ∀ number, number ∈ other.numbers ↔
      number ∈ consumers.numbers ∧ number ≠ guest.number := by
    intro number
    have filtered : other.numbers = consumers.numbers.filter (· ≠ guest.number) := by
      rw [Consumers.numbers, waiting, Consumers.numbers, List.filter_map]
      rfl
    simp [filtered, List.mem_filter]
  refine ⟨apart.2, nodup, fun number => ?_, ?_, fun one isHere => ?_, fun consumer waits inRow isAwake => ?_⟩
  · rw [numbers, awake, ← or_and_right, ← seats.known]
    simp only [List.map_append, List.map_cons, List.mem_append, List.mem_cons]
    constructor
    · intro isHere
      refine ⟨isHere.imp_right .inr, ?_⟩
      rintro rfl
      exact apart.1 (by simpa using isHere)
    · rintro ⟨inFront | same | inBack, isOther⟩
      · exact .inl inFront
      · exact absurd same isOther
      · exact .inr inBack
  · have kept : ∀ part ⊆ front ++ back, (part.filter (·.listens)).filter
        (fun one => decide (one.number ≠ guest.number)) = part.filter (·.listens) := by
      intro part sub
      rw [List.filter_eq_self]
      intro one member
      exact decide_eq_true (different one (sub (List.mem_of_mem_filter member)))
    have goes : ((guest :: back).filter (·.listens)).filter
        (fun one => decide (one.number ≠ guest.number)) = back.filter (·.listens) := by
      rw [List.filter_cons]
      split
      · rw [List.filter_cons_of_neg (by simp)]
        exact kept back (List.subset_append_right front back)
      · exact kept back (List.subset_append_right front back)
    have inFront := kept front (List.subset_append_left front back)
    rw [row, ← seats.row, List.filter_map, List.filter_append, List.filter_append,
      List.filter_append]
    exact congrArg (List.map _) (congrArg₂ _ inFront goes).symm
  · have isThere : one ∈ front ++ guest :: back :=
      List.mem_append.2 ((List.mem_append.1 isHere).imp_right (List.mem_cons_of_mem _))
    have isOther := different one isHere
    have stays : ∀ alarm, ⟨one.number, alarm⟩ ∈ consumers.waiting →
        ⟨one.number, alarm⟩ ∈ other.waiting := fun alarm waits => by
      rw [waiting]
      exact List.mem_filter.2 ⟨waits, decide_eq_true isOther⟩
    cases seats.stands one isThere with
    | entering away => exact .entering fun waits => away ((numbers _).1 waits).1
    | listening waits => exact .listening (stays _ waits)
    | woken waits isAwake rang =>
      exact .woken (stays _ waits) ((awake _).2 ⟨isAwake, isOther⟩) (closed ▸ rang)
  · rw [waiting] at waits
    rw [row] at inRow
    exact seats.alarms consumer (List.mem_of_mem_filter waits) (List.mem_of_mem_filter inRow)
      ((awake _).1 isAwake).1

/-- A consumer has left, and its guest has gone. -/
theorem leave (seats : Seats consumers now (front ++ guest :: back)) :
    Seats (consumers.leave guest.number) now (front ++ back) :=
  seats.gone rfl (consumers.row_leave guest.number) (seats.awake_nodup.erase _)
    (fun _ => (seats.awake_nodup.mem_erase_iff).trans and_comm) rfl

/-- A consumer was cancelled to which no ring was given, and its guest has gone. -/
theorem withdraw (seats : Seats consumers now (front ++ guest :: back)) :
    Seats (consumers.withdraw guest.number) now (front ++ back) :=
  seats.gone rfl rfl (seats.awake_nodup.filter _)
    (fun _ => List.mem_filter.trans (and_congr_right fun _ => decide_eq_true_iff)) rfl

/-- A consumer waits, and its guest rests behind all others. -/
theorem wait (seats : Seats consumers now guests) (isNew : number ∉ guests.map (·.number)) :
    Seats (consumers.wait ⟨number, alarm⟩) now
      (guests ++ [⟨number, .resting .listening alarm, true⟩]) := by
  have away : number ∉ consumers.numbers ∧ number ∉ consumers.awake :=
    not_or.1 (mt (seats.known number).2 isNew)
  refine ⟨?_, seats.awake_nodup, fun other => ?_, ?_, fun guest isHere => ?_,
    fun consumer waits inRow isAwake => ?_⟩
  · rw [Lobby.Distinct, List.map_append]
    exact nodup_append_singleton seats.distinct isNew
  · rw [List.map_append, List.mem_append, seats.known, Consumers.numbers_wait, List.mem_append]
    exact or_right_comm
  · rw [List.filter_append, List.map_append, seats.row, Consumers.row_wait]
    rfl
  · have stays : ∀ consumer ∈ consumers.waiting,
        consumer ∈ (consumers.wait ⟨number, alarm⟩).waiting :=
      fun consumer waits => List.mem_append_left _ waits
    rcases List.mem_append.1 isHere with early | isLast
    · cases seats.stands guest early with
      | entering notWaits =>
        refine .entering fun waits => ?_
        rw [Consumers.numbers_wait] at waits
        refine (List.mem_append.1 waits).elim notWaits fun isLast => ?_
        obtain rfl := List.mem_singleton.1 isLast
        exact isNew (List.mem_map_of_mem early)
      | listening waits => exact .listening (stays _ waits)
      | woken waits isAwake rang => exact .woken (stays _ waits) isAwake rang
    · rw [List.mem_singleton.1 isLast]
      exact .listening (List.mem_append_right _ (List.mem_singleton_self _))
  · rcases List.mem_append.1 waits with early | isLast
    · rw [Consumers.row_wait] at inRow
      rcases List.mem_append.1 inRow with listened | isLast
      · exact seats.alarms consumer early listened isAwake
      · rw [List.mem_singleton.1 isLast] at isAwake
        exact absurd isAwake away.2
    · rw [List.mem_singleton.1 isLast] at isAwake
      exact absurd isAwake away.2

/-- A consumer has come, and is a guest that is about to begin. -/
theorem join (seats : Seats consumers now guests) (isNew : number ∉ guests.map (·.number)) :
    Seats (consumers.wake number) now (guests ++ [⟨number, .entering, false⟩]) := by
  have away : number ∉ consumers.numbers ∧ number ∉ consumers.awake :=
    not_or.1 (mt (seats.known number).2 isNew)
  have woken : consumers.wake number = { consumers with awake := consumers.awake ++ [number] } :=
    if_neg away.2
  rw [woken]
  refine ⟨?_, nodup_append_singleton seats.awake_nodup away.2, fun other => ?_, ?_,
    fun guest isHere => ?_, fun consumer waits inRow isAwake => ?_⟩
  · rw [Lobby.Distinct, List.map_append]
    exact nodup_append_singleton seats.distinct isNew
  · rw [List.map_append, List.mem_append, seats.known]
    exact or_assoc.trans (or_congr_right List.mem_append.symm)
  · rw [List.filter_append, List.map_append, seats.row]
    exact List.append_nil _
  · rcases List.mem_append.1 isHere with early | isLast
    · exact stands_congr (seats.stands guest early) rfl (fun _ => List.mem_append_left _) id
    · rw [List.mem_singleton.1 isLast]
      exact .entering away.1
  · rcases List.mem_append.1 isAwake with early | isLast
    · exact seats.alarms consumer waits inRow early
    · exact absurd (List.mem_map_of_mem waits) (List.mem_singleton.1 isLast ▸ away.1)

/-- A consumer is woken that waits, by its alarm or by the bell. -/
theorem wake (seats : Seats consumers now guests) (waits : number ∈ consumers.numbers)
    (alarms : ∀ consumer ∈ consumers.waiting, consumer.number ∈ consumers.row →
      consumer.number = number → ∃ time ∈ consumer.alarm, time ≤ now) :
    Seats (consumers.wake number) now guests := by
  by_cases isAwake : number ∈ consumers.awake
  · rw [Consumers.wake, if_pos isAwake]
    exact seats
  rw [Consumers.wake, if_neg isAwake]
  refine ⟨seats.distinct, nodup_append_singleton seats.awake_nodup isAwake, fun other => ?_,
    seats.row, fun guest isHere => ?_, fun consumer isWaiting inRow wakes => ?_⟩
  · have known : other ∈ consumers.awake ++ [number] ↔ other ∈ consumers.awake ∨ other = number := by
      simp
    change _ ↔ other ∈ consumers.numbers ∨ other ∈ consumers.awake ++ [number]
    rw [seats.known, known]
    constructor
    · exact fun either => either.imp_right .inl
    · rintro (isWaiting | early | rfl)
      · exact .inl isWaiting
      · exact .inr early
      · exact .inl waits
  · exact stands_congr (seats.stands guest isHere) rfl (fun _ => List.mem_append_left _) id
  · rcases List.mem_append.1 wakes with early | isLast
    · exact seats.alarms consumer isWaiting inRow early
    · exact alarms consumer isWaiting inRow (List.mem_singleton.1 isLast)

/-- Who waits is awake at most once when others have woken. -/
theorem nodup_after (nodup : consumers.awake.Nodup) (exchange : Exchange) (woken : List Nat) :
    (consumers.after exchange woken).awake.Nodup := by
  unfold Consumers.after
  induction woken using List.reverseRecOn with
  | nil => exact nodup
  | append_singleton woken last ih =>
    rw [List.foldl_append, List.foldl_cons, List.foldl_nil, Consumers.wake]
    split
    · exact ih
    · rename_i asleep
      exact nodup_append_singleton ih asleep

/-- A guest that learns something of the bell keeps its number. -/
theorem number_hears (guest : Guest) (ear : Ear) : (guest.hears ear).number = guest.number := by
  cases stage : guest.stage <;> simp [Guest.hears, stage]

/-- A guest that listens is one of a consumer that waits. -/
theorem exists_alarm (seats : Seats consumers now guests) (isHere : guest ∈ guests)
    (listens : guest.listens = true) : ∃ alarm again,
      guest = ⟨guest.number, .resting .listening alarm, again⟩ ∧
        ⟨guest.number, alarm⟩ ∈ consumers.waiting := by
  cases seats.stands guest isHere with
  | entering away => exact absurd listens Bool.false_ne_true
  | listening waits => exact ⟨_, _, rfl, waits⟩
  | woken waits isAwake rang =>
    rcases rang with rfl | ⟨rfl, -⟩ <;> exact absurd listens Bool.false_ne_true

/-- The first guest that listens is the first in the row. -/
theorem row_of_first (seats : Seats consumers now (front ++ guest :: back))
    (listens : guest.listens = true) (isFirst : ∀ one ∈ front, one.listens = false) :
    consumers.row = guest.number :: (back.filter (·.listens)).map (·.number) := by
  have nobody : front.filter (·.listens) = [] := by simpa using isFirst
  rw [← seats.row, List.filter_append, nobody, List.nil_append, List.filter_cons_of_pos listens,
    List.map_cons]

/-- The bell has woken the consumer that has listened longest, and its guest is called. -/
theorem call {before : Consumers} (seats : Seats before now (front ++ guest :: back))
    (listens : guest.listens = true) (isFirst : ∀ one ∈ front, one.listens = false)
    (seated : before.Seated) (waiting : consumers.waiting = before.waiting)
    (row : consumers.row = before.row.tail) (nodup : consumers.awake.Nodup)
    (awake : ∀ number, number ∈ consumers.awake ↔
      number ∈ before.awake ∨ number = guest.number)
    (closed : consumers.broker.closed = before.broker.closed) :
    Seats consumers now (front ++ guest.hears .called :: back) := by
  have nobody : front.filter (·.listens) = [] := by simpa using isFirst
  have rowIs := seats.row_of_first listens isFirst
  have deaf : (guest.hears .called).listens = false := Guest.listens_called listens
  obtain ⟨alarm, again, isGuest, waits⟩ := seats.exists_alarm (by simp) listens
  have number_waits : guest.number ∈ before.numbers := List.mem_map_of_mem waits
  refine ⟨Lobby.distinct_changed seats.distinct (number_hears guest .called), nodup,
    fun number => ?_, ?_, fun one isHere => ?_, fun consumer isWaiting inRow isAwake => ?_⟩
  · have same : (front ++ guest.hears .called :: back).map (·.number) =
        (front ++ guest :: back).map (·.number) := by simp [number_hears]
    have numbers : consumers.numbers = before.numbers := congrArg (·.map (·.number)) waiting
    rw [same, seats.known, awake, numbers]
    constructor
    · exact fun either => either.imp_right .inl
    · rintro (isWaiting | early | rfl)
      · exact .inl isWaiting
      · exact .inr early
      · exact .inl number_waits
  · rw [row, rowIs, List.tail_cons, List.filter_append, nobody, List.nil_append,
      List.filter_cons_of_neg (by simp [deaf])]
  · have stays : one ∈ front ++ guest :: back → Stands consumers one := fun isThere =>
      stands_congr (seats.stands one isThere) waiting (fun _ early => (awake _).2 (.inl early))
        (closed.trans ·)
    rcases List.mem_append.1 isHere with inFront | inBack
    · exact stays (by simp [inFront])
    rcases List.mem_cons.1 inBack with rfl | isBehind
    · rw [isGuest]
      exact .woken (waiting ▸ waits) ((awake _).2 (.inr rfl)) (.inl rfl)
    · exact stays (by simp [isBehind])
  · rw [waiting] at isWaiting
    have listened : consumer.number ∈ before.row := List.mem_of_mem_tail (row ▸ inRow)
    rcases (awake _).1 isAwake with early | same
    · exact seats.alarms consumer isWaiting listened early
    · have once := seated.row_nodup
      rw [rowIs] at once
      rw [row, rowIs, List.tail_cons, same] at inRow
      exact absurd inRow (List.nodup_cons.1 once).1

/-- The bell has rung once. -/
theorem ring {lobby : Lobby} (seats : Seats consumers now lobby.guests) (seated : consumers.Seated) :
    Seats consumers.ring now lobby.rung.guests ∧
      (lobby.leftover = consumers.exchange.bell.rung →
        lobby.rung.leftover = consumers.ring.exchange.bell.rung) := by
  obtain ⟨ringRow, waiting, -⟩ := Consumers.ring_frame consumers
  have ringExchange : consumers.ring.exchange = consumers.exchange.ring.2 :=
    congrArg (·.exchange) (Consumers.after_frame ..)
  rcases Lobby.rung_cases lobby with ⟨front, first, back, split, listens, isFirst, rang⟩ |
    ⟨nobody, rang⟩
  · rw [rang]
    rw [split] at seats
    have row : consumers.exchange.bell.listeners = _ := seats.row_of_first listens isFirst
    have ringBell : consumers.exchange.ring = (some first.number, { consumers.exchange with
        bell := ⟨(back.filter (·.listens)).map (·.number), consumers.exchange.bell.rung⟩ }) := by
      unfold Exchange.ring Bell.ring
      rw [row]
    refine ⟨seats.call listens isFirst seated waiting ringRow
      (nodup_after seats.awake_nodup _ _) (fun number => ?_)
      (congrArg (·.closed) (Consumers.broker_ring consumers)), fun same => ?_⟩
    · unfold Consumers.ring
      rw [Consumers.mem_after, ringBell]
      simp
    · rw [ringExchange, ringBell]
      exact same
  · rw [rang]
    have row : consumers.exchange.bell.listeners = [] := by
      have none : lobby.guests.filter (·.listens) = [] := by simpa using nobody
      change consumers.row = _
      rw [← seats.row, none, List.map_nil]
    have ringBell : consumers.exchange.ring = (none, { consumers.exchange with
        bell := ⟨[], true⟩ }) := by
      unfold Exchange.ring Bell.ring
      rw [row]
    have same : consumers.ring = { consumers with exchange := consumers.exchange.ring.2 } := by
      unfold Consumers.ring
      rw [ringBell]
      rfl
    refine ⟨seats.congr (Nat.le_refl now) waiting ?_ (by rw [same]) ?_, fun _ => ?_⟩
    · rw [ringRow, Consumers.row, row, List.tail_nil]
    · rw [Consumers.broker_ring]
      exact id
    · rw [ringExchange, ringBell]

/-- The broker was closed, and the bell has rung for all. -/
theorem close {lobby : Lobby} (seats : Seats consumers now lobby.guests) :
    Seats consumers.close now lobby.rungForAll.guests := by
  obtain ⟨row, waiting, awake⟩ := Consumers.close_frame consumers
  have numbers : consumers.close.numbers = consumers.numbers := congrArg (·.map (·.number)) waiting
  have isClosed : consumers.close.broker.closed = true := by
    rw [Consumers.broker_close]
    rfl
  have same : lobby.rungForAll.guests.map (·.number) = lobby.guests.map (·.number) := by
    unfold Lobby.rungForAll
    rw [List.map_map]
    refine List.map_congr_left fun guest _ => ?_
    change (if guest.listens then guest.hears .summoned else guest).number = guest.number
    split
    · exact number_hears guest .summoned
    · rfl
  refine ⟨?_, nodup_after seats.awake_nodup _ _, fun number => ?_, ?_, fun one isHere => ?_,
    fun consumer _ inRow => ?_⟩
  · unfold Lobby.Distinct
    rw [same]
    exact seats.distinct
  · have listening : number ∈ consumers.row → number ∈ consumers.numbers := by
      intro inRow
      rw [← seats.row] at inRow
      obtain ⟨guest, isListening, rfl⟩ := List.mem_map.1 inRow
      obtain ⟨isHere, listens⟩ := List.mem_filter.1 isListening
      obtain ⟨alarm, again, -, waits⟩ := seats.exists_alarm isHere listens
      exact List.mem_map_of_mem waits
    rw [same, seats.known, awake, numbers]
    constructor
    · exact fun either => either.imp_right .inl
    · rintro (isWaiting | early | inRow)
      · exact .inl isWaiting
      · exact .inr early
      · exact .inl (listening inRow)
  · have deaf : lobby.rungForAll.guests.filter (·.listens) = [] := by
      rw [List.filter_eq_nil_iff]
      exact fun guest isHere => Lobby.deaf_rungForAll isHere
    rw [row, deaf, List.map_nil]
  · obtain ⟨guest, wasHere, rfl⟩ := List.mem_map.1 isHere
    split
    · rename_i listens
      obtain ⟨alarm, again, isGuest, waits⟩ := seats.exists_alarm wasHere listens
      rw [isGuest]
      exact .woken (waiting ▸ waits)
        ((awake _).2 (.inr ((seats.listens_iff wasHere).1 listens))) (.inr ⟨rfl, isClosed⟩)
    · exact stands_congr (seats.stands guest wasHere) waiting
        (fun _ early => (awake _).2 (.inl early)) fun _ => isClosed
  · rw [row] at inRow
    exact absurd inRow List.not_mem_nil

end Seats

end ReminderDispatch
