import ReminderDispatch.Proofs.Broker.Attendance

/-!
# Wake-ups

No wake-up is lost in a lobby. Whatever is asked of the broker, and however the steps of the looks
follow one another, the guests attend to the broker; so when all rings and alarms have been followed
by looks, the guests that still rest have nothing to wait for but the future. A guest that is
cancelled must not be missed by others, who may have no alarm for what it saw.
-/

namespace ReminderDispatch.Lobby

open Guest

variable {lobby before after : Lobby} {guest : Guest} {front back : List Guest}

/-- The guests attend to the broker. -/
structure Attended (lobby : Lobby) : Prop where
  /-- The bell is due to ring for all only at a closed broker. -/
  closes : 0 < lobby.closings → lobby.session.broker.closed = true
  /-- Nobody who listens rests at a closed broker when the bell has rung for all. -/
  deserted : lobby.session.broker.closed = true → lobby.closings = 0 →
    ∀ guest ∈ lobby.guests, guest.listens = true → guest.rests = false
  /-- No ring is left over if somebody listens. -/
  heard : ∀ guest ∈ lobby.guests, guest.listens = true → lobby.leftover = false
  /-- The demand is covered. -/
  covered : lobby.session.broker.closed = false →
    Covered lobby.guests lobby.rings lobby.session.broker.demandBy lobby.session.now

/-- Nobody is there at first. -/
theorem start_attended (policy : RetryPolicy) (now : Moment) : (start policy now).Attended where
  closes due := absurd due (Nat.lt_irrefl 0)
  deserted _ _ := by simp [start]
  heard _ _ := by simp [start]
  covered _ := covered_of_deaf (by simp [start])

/-- The guests attend to a broker of which they learn nothing new: those that listen have done so
before, or do not rest. -/
theorem Attended.of_listeners (attended : before.Attended)
    (closed : after.session.broker.closed = before.session.broker.closed)
    (closings : after.closings = before.closings)
    (listeners : ∀ guest ∈ after.guests, guest.listens = true →
      (guest.rests = false ∧ after.leftover = false) ∨
        guest ∈ before.guests ∧ after.leftover = before.leftover)
    (covered : before.session.broker.closed = false →
      Covered after.guests after.rings after.session.broker.demandBy after.session.now) :
    after.Attended where
  closes due := closed ▸ attended.closes (closings ▸ due)
  deserted isClosed done guest isHere listens := by
    rcases listeners guest isHere listens with ⟨rests, -⟩ | ⟨wasHere, -⟩
    · exact rests
    · exact attended.deserted (closed ▸ isClosed) (closings ▸ done) guest wasHere listens
  heard guest isHere listens := by
    rcases listeners guest isHere listens with ⟨-, heard⟩ | ⟨wasHere, same⟩
    · exact heard
    · exact same ▸ attended.heard guest wasHere listens
  covered isOpen := covered (closed ▸ isOpen)

/-- Who is there after one guest has changed is this one or was there before. -/
theorem mem_of_replaced {front back : List Guest} {changed other : Guest}
    (split : lobby.guests = front ++ guest :: back) (isHere : other ∈ front ++ changed :: back) :
    other = changed ∨ other ∈ lobby.guests := by
  simp only [split, List.mem_append, List.mem_cons] at isHere ⊢
  tauto

/-- Who listens has listened before, if one guest has changed that does not. -/
theorem mem_of_changed {front back : List Guest} {changed other : Guest}
    (split : lobby.guests = front ++ guest :: back) (deaf : changed.listens = false)
    (isHere : other ∈ front ++ changed :: back) (listens : other.listens = true) :
    other ∈ lobby.guests := by
  refine (mem_of_replaced split isHere).resolve_left ?_
  rintro rfl
  exact Bool.false_ne_true (deaf.symm.trans listens)

/-- The guests attend to the broker after a ring that was due. -/
theorem Attended.rung (attended : { lobby with rings := lobby.rings + 1 }.Attended) :
    lobby.rung.Attended := by
  obtain ⟨frame, stayed⟩ := rung_frame lobby
  have covered := fun isOpen => covered_rung lobby (attended.covered isOpen)
  rw [frame]
  refine ⟨attended.closes, fun isClosed done guest isHere listens => ?_,
    fun guest isHere listens => ?_, covered⟩
  · exact attended.deserted isClosed done guest (stayed guest isHere listens).1 listens
  · obtain ⟨wasHere, left⟩ := stayed guest isHere listens
    exact left (attended.heard guest wasHere listens)

/-- The guests attend to the broker when a guest that has left the bell passes its ring on. -/
theorem Attended.passOn (attended : { lobby with
      rings := lobby.rings + if guest.isCalled then 1 else 0 }.Attended) :
    (lobby.passOn guest).Attended := by
  unfold Lobby.passOn
  split
  · rename_i called
    rw [if_pos called] at attended
    exact attended.rung
  · rename_i called
    rw [if_neg called] at attended
    exact attended

/-! ## Acts -/

/-- A request may bring new demand, for which the bell is due to ring. -/
theorem Attended.ask (attended : lobby.Attended) (sound : lobby.session.Sound) {request : Request}
    (other : request ≠ .lease) (allowed : lobby.session.Allows request) :
    (lobby.ask request).Attended := by
  obtain ⟨later, same, demand⟩ := sound.asked allowed other
  have closed : (lobby.ask request).session.broker.closed = true ↔
      lobby.session.broker.closed = true ∨ 0 < request.closings := by
    change (lobby.session.perform request).broker.closed = true ↔ _
    rw [same, Bool.or_eq_true, decide_eq_true_eq]
  refine ⟨fun due => ?_, fun isClosed done => ?_, attended.heard, fun isOpen => ?_⟩
  · rw [closed]
    exact (Nat.add_pos_iff_pos_or_pos.1 due).imp attended.closes id
  · obtain ⟨early, now⟩ := Nat.add_eq_zero_iff.1 done
    rw [closed, now] at isClosed
    exact attended.deserted (isClosed.resolve_right (Nat.lt_irrefl 0)) early
  · rw [← Bool.not_eq_true, closed, not_or, Bool.not_eq_true] at isOpen
    refine (attended.covered isOpen.1).weaken later fun time _ => ?_
    have grown := demand time
    change (lobby.session.perform request).broker.demandBy time + lobby.rings ≤
      lobby.session.broker.demandBy time + (lobby.rings + lobby.session.rings request)
    omega

/-- The bell has rung for all, because the broker was closed. -/
theorem Attended.rungForAll (attended : lobby.Attended) (due : 0 < lobby.closings) :
    lobby.rungForAll.Attended where
  closes _ := attended.closes due
  deserted _ _ _ isHere listens := absurd listens (deaf_rungForAll isHere)
  heard _ isHere listens := absurd listens (deaf_rungForAll isHere)
  covered isOpen := absurd (attended.closes due) (Bool.not_eq_true _ ▸ isOpen)

/-- A guest has come. -/
theorem Attended.join (attended : lobby.Attended) (number : Nat) :
    ({ lobby with guests := lobby.guests ++ [⟨number, .entering, false⟩] } : Lobby).Attended := by
  refine attended.of_listeners rfl rfl (fun guest isHere listens => .inr ⟨?_, rfl⟩) fun isOpen => ?_
  · refine (List.mem_append.1 isHere).resolve_right fun isLast => ?_
    rw [List.mem_singleton.1 isLast] at listens
    exact Bool.false_ne_true listens
  · exact (attended.covered isOpen).add rfl fun _ _ _ => Nat.le_add_right _ _

/-- Who stays when a guest goes was there before. -/
theorem mem_of_stays (split : lobby.guests = front ++ guest :: back) {other : Guest}
    (stays : other ∈ front ++ back) : other ∈ lobby.guests := by
  rw [split]
  exact List.mem_append.2 ((List.mem_append.1 stays).imp_right (List.mem_cons_of_mem _))

/-- A guest has begun to listen, behind all others. If it was woken, it counts as one that trails
them, or else nobody is left to be covered. -/
theorem Attended.register (attended : lobby.Attended)
    (split : lobby.guests = front ++ guest :: back) (enters : guest.stage = .entering) :
    { lobby with
      guests := front ++ back ++ [guest.queue (if lobby.leftover then .prompted else .listening)]
      leftover := false }.Attended := by
  have heard : ∀ other ∈ front ++ back, other.listens = true → lobby.leftover = false :=
    fun other stays => attended.heard other (mem_of_stays split stays)
  refine attended.of_listeners rfl rfl (fun other isHere listens => ?_) fun isOpen => ?_
  · rcases List.mem_append.1 isHere with stays | isLast
    · exact .inr ⟨mem_of_stays split stays, (heard other stays listens).symm⟩
    · rw [List.mem_singleton.1 isLast]
      exact .inl ⟨rfl, rfl⟩
  · have left : Covered (front ++ back) (lobby.rings + if guest.isWoken then 1 else 0)
        lobby.session.broker.demandBy lobby.session.now := by
      refine (split ▸ attended.covered isOpen).remove fun time _ => ?_
      rw [trails_of_deaf (listens_of_entering enters)]
      simp only [Bool.false_eq_true, if_false]
      omega
    refine left.add rfl fun other stays listens => ?_
    rw [heard other stays listens, if_neg Bool.false_ne_true, isWoken_of_entering enters,
      trails_queue]
    change lobby.rings + _ ≤ lobby.rings + _
    omega

/-- A guest has looked, and listens in its place as before. The guests attend to the broker if those
that are left to be covered are, and if this one does not rest at a closed broker. -/
theorem Attended.checked (attended : lobby.Attended)
    (split : lobby.guests = front ++ guest :: back) {changed : Guest}
    (closed : (lobby.session.perform .lease).broker.closed = lobby.session.broker.closed)
    (listens : changed.listens = guest.listens)
    (rests : lobby.session.broker.closed = true → changed.rests = false)
    (covered : lobby.session.broker.closed = false →
      Covered (front ++ changed :: back) lobby.rings
        (lobby.session.perform .lease).broker.demandBy (lobby.session.perform .lease).now) :
    { lobby with
      session := lobby.session.perform .lease
      guests := front ++ changed :: back }.Attended := by
  refine ⟨fun due => closed ▸ attended.closes due, fun isClosed done other isHere heeds => ?_,
    fun other isHere heeds => ?_, fun isOpen => covered (closed ▸ isOpen)⟩
  · rcases mem_of_replaced split isHere with rfl | wasHere
    · exact rests (closed ▸ isClosed)
    · exact attended.deserted (closed ▸ isClosed) done other wasHere heeds
  · rcases mem_of_replaced split isHere with rfl | wasHere
    · exact attended.heard guest (by simp [split]) (listens ▸ heeds)
    · exact attended.heard other wasHere heeds

/-- A guest has looked and found nothing. It rests in its place, and until its alarm there is no
demand. -/
theorem Attended.rest (attended : lobby.Attended) (sound : lobby.session.Sound)
    (split : lobby.guests = front ++ guest :: back) (queues : guest.queues = true)
    {alarm : Option Moment}
    (looked : (lobby.session.broker.lease lobby.session.now).1 = .nothing alarm) :
    { lobby with
      session := lobby.session.perform .lease
      guests := front ++ guest.rest alarm :: back }.Attended := by
  obtain ⟨sameTime, sameClosed, ⟨due, nothing, isOpen, same, idle⟩ | ⟨something, -⟩⟩ := sound.looked
  · obtain rfl : due = alarm := LeaseOutcome.nothing.inj (nothing.symm.trans looked)
    refine attended.checked split sameClosed (listens_rest guest due)
      (fun isClosed => absurd isClosed (by simp [isOpen])) fun _ => ?_
    have stays : Covered (front ++ guest.rest due :: back) lobby.rings
        lobby.session.broker.demandBy lobby.session.now := by
      refine (split ▸ attended.covered isOpen).change ?_ ?_ fun time isThen dozes => ?_
      · have trails := trails_rest queues due
        rw [isWoken_rest]
        omega
      · rw [isWoken_rest]
      · exact (same time isThen).symm.trans (idle time (alarm?_rest queues due ▸ dozes.sleeps))
    exact stays.weaken (Nat.le_of_eq sameTime.symm) fun time isThen =>
      Nat.le_of_eq (congrArg (· + lobby.rings) (same time (sameTime ▸ isThen)))
  · exact absurd looked (something alarm)

/-- A guest has looked and is done. It was of use for one task at most, and that one it has taken; if
a ring has reached it, it has yet to pass that on. -/
theorem Attended.found (attended : lobby.Attended) (sound : lobby.session.Sound)
    (split : lobby.guests = front ++ guest :: back) (queues : guest.queues = true)
    (looked : ∀ alarm, (lobby.session.broker.lease lobby.session.now).1 ≠ .nothing alarm) :
    { lobby with
      session := lobby.session.perform .lease
      guests := front ++ guest.leave :: back }.Attended := by
  obtain ⟨sameTime, sameClosed, ⟨due, nothing, -⟩ | ⟨-, less⟩⟩ := sound.looked
  · exact absurd nothing (looked due)
  have leaves : guest.leave.leaves = true := leaves_leave queues
  refine attended.checked split sameClosed (listens_leave guest) (fun _ => rests_of_leaves leaves)
    fun isOpen => ?_
  have few := weight_le guest
  rw [sameTime]
  refine Covered.swap [guest] [guest.leave] (split ▸ attended.covered isOpen) (Nat.le_refl _)
    (fun _ _ time isThen _ => ?_) (fun _ _ time isThen _ => ?_) fun other isLast time _ dozes => ?_
  · have one := less isOpen time isThen
    simp only [List.countP_singleton, isWoken_leave, trails_of_leaves leaves]
    omega
  · have one := less isOpen time isThen
    simp only [List.countP_singleton, isWoken_leave]
    omega
  · exact absurd (List.mem_singleton.1 isLast ▸ dozes) (not_dozes_of_leaves leaves)

/-- A guest that rests and does not listen has learned of its ring. -/
theorem Attended.hear (attended : lobby.Attended) (split : lobby.guests = front ++ guest :: back)
    (rang : guest.listens = false) :
    { lobby with guests := front ++ guest.rise :: back }.Attended := by
  refine attended.of_listeners rfl rfl (fun other isHere listens => .inr ⟨?_, rfl⟩) fun isOpen => ?_
  · exact mem_of_changed split (listens_rise guest) isHere listens
  · refine (split ▸ attended.covered isOpen).change ?_ ?_ fun _ _ dozes => ?_
    · simp only [isWoken_rise, trails_of_deaf rang, if_true, Bool.false_eq_true, if_false]
      split <;> omega
    · simp only [isWoken_rise, if_true]
      split <;> omega
    · exact absurd dozes (not_dozes_of_deaf (listens_rise guest))

/-- A guest has been woken by its alarm, and passes a ring on that has reached it as well. -/
theorem Attended.alarm (attended : lobby.Attended)
    (split : lobby.guests = front ++ guest :: back) :
    ({ lobby with guests := front ++ guest.rise :: back }.passOn guest).Attended := by
  refine Attended.passOn (attended.of_listeners rfl rfl
    (fun other isHere listens => .inr ⟨?_, rfl⟩) fun isOpen => ?_)
  · exact mem_of_changed split (listens_rise guest) isHere listens
  · have few := weight_le guest
    refine (split ▸ attended.covered isOpen).change ?_ ?_ fun _ _ dozes => ?_
    · simp only [isWoken_rise, if_true]
      omega
    · simp only [isWoken_rise, if_true]
      omega
    · exact absurd dozes (not_dozes_of_deaf (listens_rise guest))

/-- A guest that is done has left the bell, and passes a ring on that has reached it. -/
theorem Attended.leave (attended : lobby.Attended) (split : lobby.guests = front ++ guest :: back)
    (leaves : guest.leaves = true) : ({ lobby with guests := front ++ back }.passOn guest).Attended :=
  Attended.passOn (attended.of_listeners rfl rfl
    (fun _ stays _ => .inr ⟨mem_of_stays split stays, rfl⟩) fun isOpen =>
      covered_leave (split ▸ attended.covered isOpen) leaves)

/-- A guest has been cancelled that nobody misses. -/
theorem Attended.cancel (attended : lobby.Attended) (split : lobby.guests = front ++ guest :: back)
    (canGo : guest.stage = .entering → guest.again = false) (spared : lobby.Spared guest.number) :
    ({ lobby with guests := front ++ back }.passOn guest).Attended :=
  Attended.passOn (attended.of_listeners rfl rfl
    (fun _ stays _ => .inr ⟨mem_of_stays split stays, rfl⟩) fun isOpen =>
      covered_cancel (split ▸ attended.covered isOpen) canGo (spared _ _ _ split rfl))

/-- Every act leaves the guests attending, unless a guest is cancelled that others miss. -/
theorem Attended.step {act : Act} (attended : before.Attended) (sound : before.session.Sound)
    (happened : before.Happens act after)
    (spared : ∀ number, act = .cancel number → before.Spared number) : after.Attended := by
  cases happened with
  | ask other allowed => exact attended.ask sound other allowed
  | ring due =>
    have owed : before.rings - 1 + 1 = before.rings := Nat.sub_add_cancel due
    exact Attended.rung (by simpa only [owed] using attended)
  | ringAll due => exact attended.rungForAll due
  | join isNew => exact attended.join _
  | register split enters => exact attended.register split enters
  | rest split queues looked => exact attended.rest sound split queues looked
  | found split queues looked => exact attended.found sound split queues looked
  | hear split rests rang => exact attended.hear split rang
  | alarm split sets due => exact attended.alarm split
  | leave split leaves => exact attended.leave split leaves
  | cancel split stays canGo => exact attended.cancel split canGo (spared _ rfl)

/-! ## Runs -/

/-- What may happen if nobody is cancelled whom others would miss. -/
def AllowsMindful (lobby : Lobby) (act : Act) : Prop :=
  lobby.Allows act ∧ ∀ number, act = .cancel number → lobby.Spared number

/-- Lobbies from which nobody is cancelled whom others would miss. -/
def mindful : Machine Lobby Act := ⟨AllowsMindful, perform⟩

/-- What happens in a mindful run can happen in any. -/
theorem leads_of_mindful (run : mindful.Leads before after) : machine.Leads before after :=
  Relation.ReflTransGen.mono
    (fun _ _ step => step.imp fun _ performed => ⟨performed.1.1, performed.2⟩) _ _ run

/-- In a mindful run from a lobby without tasks and guests all guests attend to the broker. -/
theorem mindful_attended {policy : RetryPolicy} {begin : Moment}
    (run : mindful.Leads (start policy begin) lobby) : lobby.Attended := by
  induction run with
  | refl => exact start_attended policy begin
  | tail earlier step attended =>
    obtain ⟨act, allowed, rfl⟩ := step
    exact attended.step (leads_sound (leads_of_mindful earlier)) (happens allowed.1) allowed.2

/-- Everyone who was to be woken has looked again: the bell has rung as often as it should, and no
guest was woken, by the bell or its alarm, since it looked last. -/
structure Settled (lobby : Lobby) : Prop where
  /-- No ring is due. -/
  rung : lobby.rings = 0
  /-- No ring for all is due. -/
  rungForAll : lobby.closings = 0
  /-- No guest was woken that has yet to look again. -/
  looked : ∀ guest ∈ lobby.guests, ¬ guest.Stirs lobby.session.now

instance (lobby : Lobby) : Decidable lobby.Settled :=
  decidable_of_iff (lobby.rings = 0 ∧ lobby.closings = 0 ∧
      ∀ guest ∈ lobby.guests, ¬ guest.Stirs lobby.session.now)
    ⟨fun settled => ⟨settled.1, settled.2.1, settled.2.2⟩,
      fun settled => ⟨settled.rung, settled.rungForAll, settled.looked⟩⟩

/-- A guest that rests and does not stir dozes. -/
theorem dozes_of_still {now : Moment} (rests : guest.rests = true) (still : ¬ guest.Stirs now) :
    guest.Dozes now := by
  obtain ⟨number, stage, again⟩ := guest
  cases stage with
  | entering | queueing ear | leaving ear => exact absurd rests Bool.false_ne_true
  | resting ear alarm =>
    simp only [Stirs, not_or, not_exists, not_and, Nat.not_le, ne_eq, not_not] at still
    exact ⟨rfl, by simp [listens, ear?, still.1], still.2⟩

/-- A guest that does not stir was not woken, and trails others only if it rests. -/
theorem weightless_of_still {now : Moment} (still : ¬ guest.Stirs now) :
    guest.isWoken = false ∧ (guest.trails = true → guest.rests = true) := by
  obtain ⟨number, stage, again⟩ := guest
  cases stage <;>
    simp_all [Stirs, isWoken, isCalled, trails, listens, leaves, ear?, rests]

/-- Guests that attend to a broker and have all looked have nothing to do. -/
theorem Attended.idle (attended : lobby.Attended) (settled : lobby.Settled)
    (waits : ∃ guest ∈ lobby.guests, guest.rests = true) :
    lobby.session.broker.closed = false ∧
      lobby.session.broker.demandBy lobby.session.now = 0 := by
  have dozes : ∀ guest ∈ lobby.guests, guest.rests = true → guest.Dozes lobby.session.now :=
    fun guest isHere rests => dozes_of_still rests (settled.looked guest isHere)
  have isOpen : lobby.session.broker.closed = false := by
    obtain ⟨guest, isHere, rests⟩ := waits
    by_contra isClosed
    have away := attended.deserted (Bool.eq_true_of_not_eq_false isClosed) settled.rungForAll guest
      isHere (dozes guest isHere rests).listens
    exact Bool.false_ne_true (away.symm.trans rests)
  -- The last guest that rests has nobody behind it that trails it.
  obtain ⟨front, guest, back, split, rests, last⟩ := exists_last waits
  have met := attended.covered isOpen front guest back split lobby.session.now (Nat.le_refl _)
    (dozes guest (by simp [split]) rests)
  have nobodyWoken : lobby.guests.countP isWoken = 0 := by
    rw [List.countP_eq_zero]
    intro other isHere
    simp [(weightless_of_still (settled.looked other isHere)).1]
  have nobodyTrails : back.countP trails = 0 := by
    rw [List.countP_eq_zero]
    intro other isBehind trails
    have isHere : other ∈ lobby.guests := by simp [split, isBehind]
    exact last other isBehind ((weightless_of_still (settled.looked other isHere)).2 trails)
  rw [settled.rung, nobodyWoken, nobodyTrails] at met
  exact ⟨isOpen, Nat.le_zero.1 met⟩

/-! ## Nobody is cancelled -/

/-- The act is a cancellation. -/
def cancels : Act → Bool
  | .cancel _ => true
  | .ask _ | .ring | .ringAll | .join _ | .register _ | .check _ | .hear _ | .alarm _
  | .leave _ => false

/-- Lobbies in which everyone stays until it has a task or the broker is closed. -/
def staying : Machine Lobby Act := ⟨fun lobby act => lobby.Allows act ∧ cancels act = false, perform⟩

instance (lobby : Lobby) (act : Act) : Decidable (staying.Allows lobby act) :=
  inferInstanceAs (Decidable (lobby.Allows act ∧ cancels act = false))

/-- If nobody is cancelled, nobody is missed. -/
theorem mindful_of_staying (run : staying.Leads before after) : mindful.Leads before after := by
  refine Relation.ReflTransGen.mono (fun earlier later step => ?_) _ _ run
  obtain ⟨act, ⟨allowed, stays⟩, performed⟩ := step
  refine ⟨act, ⟨allowed, ?_⟩, performed⟩
  rintro number rfl
  exact absurd stays (by simp [cancels])

/-- No wake-up is lost. Consumers look for work step by step, and anything may happen between two
steps of a look, or between a change of the broker and its ring. When the bell has rung for all that
has happened, everyone who was woken has looked again, and a consumer still rests, then the broker
is open, its line is empty and nothing is due. -/
theorem no_wakeup_lost {policy : RetryPolicy} {begin : Moment}
    (run : staying.Leads (start policy begin) lobby) (settled : lobby.Settled)
    (waits : ∃ guest ∈ lobby.guests, guest.rests = true) :
    lobby.session.broker.closed = false ∧ lobby.session.broker.ready = [] ∧
      ∀ task ∈ lobby.session.broker.scheduled, lobby.session.now < task.due := by
  have attended := mindful_attended (mindful_of_staying run)
  obtain ⟨isOpen, idle⟩ := attended.idle settled waits
  exact ⟨isOpen, Broker.demandBy_eq_zero idle⟩

/-- A task is handed out, and three consumers begin to listen in a row. The third one looks before the
second one, and the task fails. The first one is woken, and looks after the second one, which has
seen the next attempt as well. -/
def outOfTurn : List Act :=
  [.ask (.publish (Session.mail 1)), .ring, .join 9, .register 9, .check 9, .leave 9,
    .join 1, .register 1, .check 1, .join 2, .register 2, .join 3, .register 3, .check 3,
    .ask (.fail ⟨Session.mail 1, 1⟩ "refused" .transient), .ring, .check 2,
    .hear 1, .register 1, .check 1]

/-- No wake-up is lost when those that listen look in another order: they rest in the order in which
they began to listen, and one between the two that wait for the next attempt knows nothing of it. -/
theorem no_wakeup_lost_outOfTurn :
    staying.Leads (start .default 0) (staying.run (start .default 0) outOfTurn) ∧
      (staying.run (start .default 0) outOfTurn).guests =
        [⟨2, .resting .listening (some 2000000000), true⟩, ⟨3, .resting .listening none, true⟩,
          ⟨1, .resting .listening (some 2000000000), true⟩] ∧
      (staying.run (start .default 0) outOfTurn).session.broker.closed = false ∧
      (staying.run (start .default 0) outOfTurn).session.broker.ready = [] ∧
      ∀ task ∈ (staying.run (start .default 0) outOfTurn).session.broker.scheduled,
        (staying.run (start .default 0) outOfTurn).session.now < task.due := by
  have run := staying.leads_run (start .default 0) outOfTurn (by decide +kernel)
  exact ⟨run, by decide +kernel, no_wakeup_lost run (by decide +kernel) (by decide +kernel)⟩

end ReminderDispatch.Lobby
