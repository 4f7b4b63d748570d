import ReminderDispatch.Proofs.Broker.Demand
import ReminderDispatch.Proofs.Broker.Lobby
import ReminderDispatch.Proofs.Lists

/-!
# Attendance

Why no ring of the bell is lost. A ring wakes one guest only, which may find that others have taken
the task; and a guest that rests knows only the times that were scheduled when it last looked.
Therefore the demand until the alarm of a resting guest is covered without this guest: by the rings
that are due, by the guests that were woken and have yet to listen again or to pass their ring on,
and by those that have begun to listen after it, have looked before and are not done. A guest of the
last kind either looks once more or has an alarm that is set at what it saw.
-/

namespace ReminderDispatch

namespace Guest

/-- The guest was woken, and has yet to listen again or to pass its ring on. -/
def isWoken (guest : Guest) : Bool := guest.isCalled || (guest.stage = .entering && guest.again)

/-- The guest listens, has looked before, and is not done. -/
def trails (guest : Guest) : Bool := guest.listens && guest.again && !guest.leaves

/-- The guest rests, and neither the bell nor its alarm has woken it until a time. -/
structure Dozes (guest : Guest) (time : Moment) : Prop where
  /-- The guest has found nothing. -/
  rests : guest.rests = true
  /-- The bell has not rung for it. -/
  listens : guest.listens = true
  /-- Its alarm goes off later. -/
  sleeps : ∀ alarm ∈ guest.alarm?, time < alarm

variable {guest : Guest} {ear : Ear} {alarm : Option Moment} {time : Moment}

/-- Who listens has not been called. -/
theorem isCalled_of_listens (listens : guest.listens = true) : guest.isCalled = false := by
  simp only [Guest.listens, isCalled, decide_eq_true_eq, decide_eq_false_iff_not] at listens ⊢
  simp [listens]

/-- Who listens is at the bell. -/
theorem not_entering_of_listens (listens : guest.listens = true) : guest.stage ≠ .entering := by
  intro enters
  simp [Guest.listens, ear?, enters] at listens

/-- A guest that listens was not woken. -/
theorem isWoken_of_listens (listens : guest.listens = true) : guest.isWoken = false := by
  simp [isWoken, isCalled_of_listens listens, not_entering_of_listens listens]

/-- Whether a guest that is about to begin was woken. -/
theorem isWoken_of_entering (enters : guest.stage = .entering) : guest.isWoken = guest.again := by
  simp [isWoken, isCalled, ear?, enters]

/-- A guest that is about to begin does not listen. -/
theorem listens_of_entering (enters : guest.stage = .entering) : guest.listens = false := by
  simp [listens, ear?, enters]

/-- A guest that begins to listen trails those in front of it if it has looked before. -/
theorem trails_queue (guest : Guest) : (guest.queue .listening).trails = guest.again :=
  Bool.and_true guest.again

/-- A guest counts once, unless its ring does. -/
theorem weight_le (guest : Guest) :
    (if guest.isWoken then 1 else 0) + (if guest.trails then 1 else 0) ≤ 1 := by
  cases listens : guest.listens with
  | true =>
    simp only [isWoken_of_listens listens, Bool.false_eq_true, if_false]
    split <;> decide
  | false =>
    simp only [trails, listens, Bool.false_and, Bool.false_eq_true, if_false]
    split <;> decide

/-- A guest that does not listen trails nobody. -/
theorem trails_of_deaf (deaf : guest.listens = false) : guest.trails = false := by
  simp [trails, deaf]

/-- A guest that does not listen does not doze. -/
theorem not_dozes_of_deaf (deaf : guest.listens = false) : ¬ guest.Dozes time :=
  fun dozes => Bool.false_ne_true (deaf.symm.trans dozes.listens)

/-- A guest that begins anew does not listen. -/
theorem listens_rise (guest : Guest) : guest.rise.listens = false := by
  simp [listens, ear?, rise]

/-- A guest that begins anew was woken. -/
theorem isWoken_rise (guest : Guest) : guest.rise.isWoken = true := by
  simp [isWoken, rise]

/-- A guest that has been called does not listen any more. -/
theorem listens_called (listens : guest.listens = true) : (guest.hears .called).listens = false := by
  cases stage : guest.stage <;> simp_all [Guest.listens, ear?, hears]

/-- A guest that has been called was woken. -/
theorem isWoken_called (listens : guest.listens = true) : (guest.hears .called).isWoken = true := by
  cases stage : guest.stage <;> simp_all [Guest.listens, isWoken, isCalled, ear?, hears]

/-- A guest that rests has learned nothing new. -/
theorem listens_rest (guest : Guest) (alarm : Option Moment) :
    (guest.rest alarm).listens = guest.listens := by
  cases stage : guest.stage <;> simp [listens, ear?, rest, stage]

/-- A guest that begins to rest was woken as before. -/
theorem isWoken_rest (guest : Guest) (alarm : Option Moment) :
    (guest.rest alarm).isWoken = guest.isWoken := by
  cases stage : guest.stage <;> simp [isWoken, isCalled, ear?, rest, stage]

/-- A guest that begins to rest trails those in front of it if it did so before. -/
theorem trails_rest (queues : guest.queues = true) (alarm : Option Moment) :
    (if guest.trails then 1 else 0) ≤ if (guest.rest alarm).trails then 1 else 0 := by
  cases trails : guest.trails with
  | false => exact Nat.zero_le _
  | true =>
    have still : (guest.rest alarm).trails = true := by
      cases stage : guest.stage <;>
        simp_all [Guest.queues, Guest.trails, listens, leaves, ear?, rest]
    rw [still]

/-- A guest that is done has learned nothing new. -/
theorem listens_leave (guest : Guest) : guest.leave.listens = guest.listens := by
  cases stage : guest.stage <;> simp [listens, ear?, leave, stage]

/-- A guest that is done was woken as before. -/
theorem isWoken_leave (guest : Guest) : guest.leave.isWoken = guest.isWoken := by
  cases stage : guest.stage <;> simp [isWoken, isCalled, ear?, leave, stage]

/-- A guest that leaves trails nobody. -/
theorem trails_of_leaves (leaves : guest.leaves = true) : guest.trails = false := by
  simp [trails, leaves]

/-- Whether a guest that leaves was woken. -/
theorem isWoken_of_leaves (leaves : guest.leaves = true) : guest.isWoken = guest.isCalled := by
  have stage : guest.stage ≠ .entering := fun enters => by simp [Guest.leaves, enters] at leaves
  simp [isWoken, stage]

/-- A guest that leaves does not rest. -/
theorem rests_of_leaves (leaves : guest.leaves = true) : guest.rests = false := by
  cases stage : guest.stage <;> simp_all [Guest.leaves, rests]

/-- A guest that leaves does not doze. -/
theorem not_dozes_of_leaves (leaves : guest.leaves = true) : ¬ guest.Dozes time :=
  fun dozes => Bool.false_ne_true ((rests_of_leaves leaves).symm.trans dozes.rests)

/-- A guest that waited for its turn to look leaves when it is done. -/
theorem leaves_leave (queues : guest.queues = true) : guest.leave.leaves = true := by
  cases stage : guest.stage <;> simp_all [Guest.queues, Guest.leaves, leave]

/-- The alarm of a guest that begins to rest. -/
theorem alarm?_rest (queues : guest.queues = true) (alarm : Option Moment) :
    (guest.rest alarm).alarm? = alarm := by
  cases stage : guest.stage <;> simp_all [Guest.queues, alarm?, rest]

end Guest

open Guest

/-- Until a guest that dozes wakes, the demand can be met without it. -/
def Covered (guests : List Guest) (rings : Nat) (demand : Moment → Nat) (now : Moment) : Prop :=
  ∀ front guest back, guests = front ++ guest :: back → ∀ time, now ≤ time → guest.Dozes time →
    demand time ≤ rings + guests.countP isWoken + back.countP trails

namespace Covered

variable {front back guests : List Guest} {guest : Guest} {rings rings' : Nat}
  {demand demand' : Moment → Nat} {now now' : Moment}

/-- Some guests are replaced. Those in front of them stay covered if these count for as much as
before, and those behind them if as many of these were woken. -/
theorem swap (old new : List Guest) (covered : Covered (front ++ (old ++ back)) rings demand now)
    (later : now ≤ now')
    (ahead : ∀ guest ∈ front, ∀ time, now' ≤ time → guest.Dozes time →
      demand' time + rings + (old.countP isWoken + old.countP trails) ≤
        demand time + rings' + (new.countP isWoken + new.countP trails))
    (behind : ∀ guest ∈ back, ∀ time, now' ≤ time → guest.Dozes time →
      demand' time + rings + old.countP isWoken ≤ demand time + rings' + new.countP isWoken)
    (inside : ∀ guest ∈ new, ∀ time, now' ≤ time → guest.Dozes time → demand' time = 0) :
    Covered (front ++ (new ++ back)) rings' demand' now' := by
  intro before guest after split time isThen dozes
  have isLater := Nat.le_trans later isThen
  rcases append_eq_append_cons split with ⟨rest, rfl, rfl⟩ | ⟨skipped, rfl, placed⟩
  · have met := covered before guest (rest ++ (old ++ back)) (by simp) time isLater dozes
    have counts := ahead guest (by simp) time isThen dozes
    simp only [List.countP_append] at met ⊢
    omega
  rcases append_eq_append_cons placed with ⟨rest, rfl, rfl⟩ | ⟨skipped, rfl, rfl⟩
  · have none := inside guest (by simp) time isThen dozes
    omega
  · have met := covered (front ++ old ++ skipped) guest after (by simp) time isLater dozes
    have counts := behind guest (by simp) time isThen dozes
    simp only [List.countP_append] at met ⊢
    omega

/-- The demand grows by no more than there are new rings. -/
theorem weaken (covered : Covered guests rings demand now) (later : now ≤ now')
    (grown : ∀ time, now' ≤ time → demand' time + rings ≤ demand time + rings') :
    Covered guests rings' demand' now' := by
  intro front guest back split time isThen dozes
  have met := covered front guest back split time (Nat.le_trans later isThen) dozes
  have more := grown time isThen
  omega

/-- One guest changes and counts for as much as before. -/
theorem change {changed : Guest} (covered : Covered (front ++ guest :: back) rings demand now)
    (ahead : (if guest.isWoken then 1 else 0) + (if guest.trails then 1 else 0) + rings ≤
      (if changed.isWoken then 1 else 0) + (if changed.trails then 1 else 0) + rings')
    (behind : (if guest.isWoken then 1 else 0) + rings ≤ (if changed.isWoken then 1 else 0) + rings')
    (inside : ∀ time, now ≤ time → changed.Dozes time → demand time = 0) :
    Covered (front ++ changed :: back) rings' demand now := by
  refine swap [guest] [changed] covered (Nat.le_refl now) ?_ ?_ ?_
  · intro _ _ time _ _
    simp only [List.countP_singleton]
    omega
  · intro _ _ time _ _
    simp only [List.countP_singleton]
    omega
  · intro other member time isThen dozes
    exact inside time isThen (List.mem_singleton.1 member ▸ dozes)

/-- A guest goes, and the demand that it leaves behind is met by more rings. -/
theorem remove (covered : Covered (front ++ guest :: back) rings demand now)
    (enough : ∀ time, now ≤ time → demand' time + rings +
      ((if guest.isWoken then 1 else 0) + if guest.trails then 1 else 0) ≤ demand time + rings') :
    Covered (front ++ back) rings' demand' now := by
  refine swap [guest] [] covered (Nat.le_refl now) ?_ ?_ ?_
  · intro _ _ time isThen _
    have met := enough time isThen
    simp only [List.countP_singleton, List.countP_nil]
    omega
  · intro _ _ time isThen _
    have met := enough time isThen
    simp only [List.countP_singleton, List.countP_nil]
    omega
  · simp

/-- A guest comes, or comes back, behind all others. -/
theorem add (covered : Covered guests rings demand now) (deaf : guest.rests = false)
    (ahead : ∀ other ∈ guests, other.listens = true →
      rings ≤ rings' + ((if guest.isWoken then 1 else 0) + if guest.trails then 1 else 0)) :
    Covered (guests ++ [guest]) rings' demand now := by
  have placed : Covered (guests ++ ([] ++ [])) rings demand now := by simpa using covered
  refine swap [] [guest] placed (Nat.le_refl now) ?_ (by simp) ?_
  · intro other member time _ dozes
    have counts := ahead other member dozes.listens
    simp only [List.countP_singleton, List.countP_nil]
    omega
  · intro other member time _ dozes
    rw [List.mem_singleton.1 member] at dozes
    exact absurd dozes.rests (by simp [deaf])

end Covered

/-! ## Requests -/

namespace Session

variable {session : Session} {request : Request}

/-- What a request other than a look for work does: the demand grows by no more than there are rings
due for it. -/
theorem Sound.asked (sound : session.Sound) (allowed : session.Allows request)
    (other : request ≠ .lease) :
    session.now ≤ (session.perform request).now ∧
      (session.perform request).broker.closed =
        (session.broker.closed || decide (0 < request.closings)) ∧
      ∀ time, (session.perform request).broker.demandBy time ≤
        session.broker.demandBy time + session.rings request := by
  have stays : session.broker.closed = (session.broker.closed || decide (0 < 0)) :=
    (Bool.or_false _).symm
  cases request with
  | lease => exact absurd rfl other
  | publish envelope =>
    rcases session.broker.publish_cases session.now envelope with ⟨broker, published⟩ | refused
    · have closed := congrArg (·.closed) (Broker.publish_eq_ok published).2
      simp only [perform, rings, published]
      exact ⟨Nat.le_refl _, closed.trans stays,
        fun time => Nat.le_of_eq (Broker.demandBy_publish published time)⟩
    · simp only [perform, refused]
      exact ⟨Nat.le_refl _, stays, fun time => Nat.le_add_right _ _⟩
  | ack delivery =>
    obtain ⟨record, found, -⟩ := sound.serving.running delivery allowed
    simp only [perform, Broker.ack_eq found]
    exact ⟨Nat.le_refl _, stays, fun time => Nat.le_refl _⟩
  | fail delivery error kind =>
    obtain ⟨record, found, -⟩ := sound.serving.running delivery allowed
    by_cases last : session.broker.IsLast record kind
    · simp only [perform, rings, Broker.fail_eq_dead found last]
      exact ⟨Nat.le_refl _, stays, fun time => Nat.le_refl _⟩
    · simp only [perform, rings, Broker.fail_eq_retry found last]
      exact ⟨Nat.le_refl _, stays,
        fun time => Broker.demandBy_postponed _ session.now time _ error⟩
  | abandon delivery => exact ⟨Nat.le_refl _, stays, fun time => Nat.le_refl _⟩
  | close => exact ⟨Nat.le_refl _, (Bool.or_true _).symm, fun time => Nat.le_refl _⟩
  | advance span => exact ⟨Nat.le_add_right _ _, stays, fun time => Nat.le_refl _⟩

/-- What a look for work does: if it finds nothing, the broker is open and there is no demand until the
next task is due; a task that is handed out is one less to be taken. -/
theorem Sound.looked (sound : session.Sound) :
    (session.perform .lease).now = session.now ∧
      (session.perform .lease).broker.closed = session.broker.closed ∧
      ((∃ alarm, (session.broker.lease session.now).1 = .nothing alarm ∧
          session.broker.closed = false ∧
          (∀ time, session.now ≤ time → (session.perform .lease).broker.demandBy time =
            session.broker.demandBy time) ∧
          ∀ time, (∀ due ∈ alarm, time < due) →
            (session.perform .lease).broker.demandBy time = 0) ∨
        (∀ alarm, (session.broker.lease session.now).1 ≠ .nothing alarm) ∧
          (session.broker.closed = false → ∀ time, session.now ≤ time →
            (session.perform .lease).broker.demandBy time + 1 = session.broker.demandBy time)) := by
  have consistent : session.broker.Consistent := sound.serving.toConsistent
  have promoted := congrArg (·.closed) (consistent.promote_admitted session.now).frame
  rcases consistent.lease_cases session.now with ⟨isClosed, looked⟩ | ⟨isOpen, empty, looked⟩ |
    ⟨id, line, record, isOpen, first, found, looked⟩
  · simp only [perform, looked]
    exact ⟨trivial, trivial, .inr ⟨by simp, fun isOpen => absurd isClosed (by simp [isOpen])⟩⟩
  · simp only [perform, looked]
    refine ⟨trivial, promoted, .inl ⟨_, rfl, isOpen, fun time isThen => ?_, fun time sleeps => ?_⟩⟩
    · exact consistent.demandBy_promote isThen
    · exact (consistent.promote session.now).demandBy_idle empty sleeps
  · simp only [perform, looked]
    refine ⟨rfl, promoted, .inr ⟨by simp, fun _ time isThen => ?_⟩⟩
    have less := Broker.demandBy_startFirst first session.now time
    exact less.trans (consistent.demandBy_promote isThen)

end Session

/-! ## Lobbies -/

namespace Lobby

variable {lobby : Lobby} {guest : Guest} {rings : Nat} {demand : Moment → Nat}
  {now : Moment}

/-- If nobody listens, nobody is to be covered. -/
theorem covered_of_deaf {guests : List Guest} (deaf : ∀ guest ∈ guests, guest.listens = false) :
    Covered guests rings demand now := by
  intro front guest back split time _ dozes
  exact absurd dozes (not_dozes_of_deaf (deaf guest (by simp [split])))

/-- A ring makes up for one that was due. -/
theorem covered_rung (lobby : Lobby) (covered : Covered lobby.guests (rings + 1) demand now) :
    Covered lobby.rung.guests rings demand now := by
  rcases rung_cases lobby with ⟨front, first, back, split, listens, before, rang⟩ | ⟨nobody, rang⟩
  · rw [rang]
    rw [split] at covered
    refine Covered.swap [first] [first.hears .called] covered (Nat.le_refl now) ?_ ?_ ?_
    · intro other inFront time _ dozes
      exact absurd dozes (not_dozes_of_deaf (before other inFront))
    · intro other _ time _ _
      simp only [List.countP_singleton, isWoken_of_listens listens, isWoken_called listens,
        Bool.false_eq_true, if_false, if_true]
      omega
    · intro other isFirst time _ dozes
      rw [List.mem_singleton.1 isFirst] at dozes
      exact absurd dozes (not_dozes_of_deaf (listens_called listens))
  · rw [rang]
    exact covered_of_deaf nobody

/-- Where the guests of a lobby are who listen, after a ring. -/
theorem rung_frame (lobby : Lobby) :
    lobby.rung = { lobby with guests := lobby.rung.guests, leftover := lobby.rung.leftover } ∧
      ∀ guest ∈ lobby.rung.guests, guest.listens = true →
        guest ∈ lobby.guests ∧ (lobby.leftover = false → lobby.rung.leftover = false) := by
  rcases rung_cases lobby with ⟨front, first, back, split, listened, -, rang⟩ | ⟨nobody, rang⟩
  · rw [rang]
    refine ⟨rfl, fun guest isHere listens => ⟨?_, id⟩⟩
    rcases List.mem_append.1 isHere with inFront | inBack
    · simp [split, inFront]
    rcases List.mem_cons.1 inBack with rfl | isBehind
    · exact absurd listens (by simp [listens_called listened])
    · simp [split, isBehind]
  · rw [rang]
    refine ⟨rfl, fun guest isHere listens => ?_⟩
    exact absurd listens (by simp [nobody guest isHere])

/-- After a ring for all nobody listens. -/
theorem deaf_rungForAll (isHere : guest ∈ lobby.rungForAll.guests) : ¬ guest.listens = true := by
  obtain ⟨other, -, rfl⟩ := List.mem_map.1 isHere
  split
  · cases stage : other.stage <;> simp_all [listens, ear?, hears]
  · assumption

/-- Nobody in front of a guest dozes longer than this one, if it trails them. -/
def Spared (lobby : Lobby) (number : Nat) : Prop :=
  ∀ front guest back, lobby.guests = front ++ guest :: back → guest.number = number →
    guest.trails = true → ∀ other ∈ front, ∀ time, other.Dozes time → guest.Dozes time

/-- The guests that stay are covered when one that is done has left the bell. -/
theorem covered_leave {front back : List Guest}
    (covered : Covered (front ++ guest :: back) rings demand now) (leaves : guest.leaves = true) :
    Covered (front ++ back) (rings + if guest.isCalled then 1 else 0) demand now := by
  refine covered.remove fun time _ => ?_
  rw [isWoken_of_leaves leaves, trails_of_leaves leaves, if_neg Bool.false_ne_true]
  omega

/-- The guests that stay are covered when one is cancelled whom nobody in front of it misses. -/
theorem covered_cancel {front back : List Guest}
    (covered : Covered (front ++ guest :: back) rings demand now)
    (canGo : guest.stage = .entering → guest.again = false)
    (spared : guest.trails = true → ∀ other ∈ front, ∀ time, other.Dozes time → guest.Dozes time) :
    Covered (front ++ back) (rings + if guest.isCalled then 1 else 0) demand now := by
  have woken : guest.isWoken = guest.isCalled := by
    by_cases enters : guest.stage = .entering
    · simp [isWoken, canGo enters]
    · simp [isWoken, enters]
  by_cases trails : guest.trails = true
  · have listens : guest.listens = true := by
      simp only [Guest.trails, Bool.and_eq_true] at trails
      exact trails.1.1
    have quiet := isWoken_of_listens listens
    intro before other after split time isThen dozes
    rcases append_eq_append_cons split with ⟨rest, rfl, rfl⟩ | ⟨skipped, rfl, rfl⟩
    · -- Who has left had looked later, and those behind it cover what it covered.
      have met := covered _ guest back rfl time isThen
        (spared trails other (by simp) time dozes)
      simp only [List.countP_append, List.countP_cons, quiet, Bool.false_eq_true, if_false] at met ⊢
      omega
    · have met := covered (front ++ guest :: skipped) other after (by simp) time isThen dozes
      simp only [List.countP_append, List.countP_cons, quiet, Bool.false_eq_true, if_false] at met ⊢
      omega
  · refine covered.remove fun time _ => ?_
    simp only [woken, trails, Bool.false_eq_true, if_false]
    omega

end Lobby

end ReminderDispatch
