import ReminderDispatch.Proofs.Broker.Seats

/-!
# Halls as lobbies

What happens in a hall in one turn happens in a lobby step by step. A look of a consumer is a guest
that is woken, begins to listen, looks, and rests or leaves; a task that is published, an attempt that
fails and the closing of the broker are a change of the broker and the ring that follows it. Only a
ring that nothing calls for is not among the steps of a lobby.
-/

namespace ReminderDispatch.Hall

variable {hall : Hall} {lobby : Lobby}

/-- A lobby in which every ring has been heard shows what a hall is. -/
structure Mirrors (hall : Hall) (lobby : Lobby) : Prop where
  /-- The broker is in the same use. -/
  session : lobby.session = hall.session
  /-- No ring is due. -/
  rung : lobby.rings = 0
  /-- No ring for all is due. -/
  rungForAll : lobby.closings = 0
  /-- A ring is left over in both, which matters while the broker is open. -/
  leftover : hall.consumers.broker.closed = false →
    lobby.leftover = hall.consumers.exchange.bell.rung
  /-- The guests are the consumers. -/
  seats : Seats hall.consumers hall.now lobby.guests

/-- The first hall and the first lobby. -/
theorem start_mirrors (policy : RetryPolicy) (now : Moment) :
    (start policy now).Mirrors (.start policy now) where
  session := rfl
  rung := rfl
  rungForAll := rfl
  leftover _ := rfl
  seats := by
    refine ⟨List.nodup_nil, List.nodup_nil, fun number => ?_, rfl, fun guest isHere => ?_,
      fun consumer waits => ?_⟩
    · exact iff_of_false List.not_mem_nil (not_or.2 ⟨List.not_mem_nil, List.not_mem_nil⟩)
    · exact absurd isHere List.not_mem_nil
    · exact absurd waits List.not_mem_nil

/-- A hall and a lobby in which the bell has rung once. -/
theorem mirrors_rung {consumers : Consumers} (seats : Seats consumers hall.now lobby.guests)
    (seated : consumers.Seated) (same : hall.consumers = consumers.ring)
    (session : lobby.session = hall.session) (rings : lobby.rings = 0)
    (closings : lobby.closings = 0)
    (leftover : consumers.broker.closed = false → lobby.leftover = consumers.exchange.bell.rung) :
    hall.Mirrors lobby.rung := by
  obtain ⟨rung, left⟩ := seats.ring seated
  have frame := (Lobby.rung_frame lobby).1
  refine ⟨(Lobby.session_rung lobby).trans session, ?_, ?_, fun isOpen => ?_, same ▸ rung⟩
  · rw [frame]
    exact rings
  · rw [frame]
    exact closings
  · rw [same, Consumers.broker_ring] at isOpen
    rw [same]
    exact left (leftover isOpen)

variable {request : Request}

/-- A lobby is asked what its hall is asked. -/
theorem Mirrors.step_ask (mirrors : hall.Mirrors lobby) (other : request ≠ .lease)
    (allowed : hall.session.Allows request) :
    Lobby.machine.Step lobby (lobby.ask request) ∧
      (lobby.ask request).session = (hall.ask request).session :=
  ⟨Lobby.step_of_happens mirrors.seats.distinct (.ask other (mirrors.session ▸ allowed)), by
    rw [session_ask, ← mirrors.session]
    rfl⟩

/-- The bell does not ring for a request. -/
theorem Mirrors.ask_silent (mirrors : hall.Mirrors lobby) (other : request ≠ .lease)
    (allowed : hall.session.Allows request) (silent : hall.session.rings request = 0)
    (opens : request.closings = 0) (isLater : hall.now ≤ (hall.ask request).now) (broker : Broker)
    (consumers : (hall.ask request).consumers = hall.consumers.serve broker)
    (closed : broker.closed = hall.consumers.broker.closed) :
    ∃ after, Lobby.machine.Leads lobby after ∧ (hall.ask request).Mirrors after := by
  obtain ⟨step, session⟩ := mirrors.step_ask other allowed
  refine ⟨_, .single step, session, ?_, ?_, fun isOpen => ?_, ?_⟩
  · change lobby.rings + lobby.session.rings request = 0
    rw [mirrors.rung, mirrors.session, silent]
  · change lobby.closings + request.closings = 0
    rw [mirrors.rungForAll, opens]
  · rw [consumers] at isOpen ⊢
    exact mirrors.leftover (closed ▸ isOpen)
  · rw [consumers]
    exact mirrors.seats.congr isLater rfl rfl rfl (closed.trans ·)

/-- The bell rings once for a request. -/
theorem Mirrors.ask_rung (mirrors : hall.Mirrors lobby) (seated : hall.consumers.Seated)
    (other : request ≠ .lease) (allowed : hall.session.Allows request)
    (rings : hall.session.rings request = 1) (opens : request.closings = 0)
    (sameTime : (hall.ask request).now = hall.now) (broker : Broker)
    (consumers : (hall.ask request).consumers = (hall.consumers.serve broker).ring)
    (closed : broker.closed = hall.consumers.broker.closed) :
    ∃ after, Lobby.machine.Leads lobby after ∧ (hall.ask request).Mirrors after := by
  obtain ⟨step, session⟩ := mirrors.step_ask other allowed
  have owed : (lobby.ask request).rings = 1 := by
    change lobby.rings + lobby.session.rings request = 1
    rw [mirrors.rung, mirrors.session, rings]
  have rang : Lobby.machine.Step (lobby.ask request)
      { lobby.ask request with rings := (lobby.ask request).rings - 1 }.rung :=
    Lobby.step_of_happens mirrors.seats.distinct (.ring (owed ▸ Nat.one_pos))
  refine ⟨_, .tail (.single step) rang, mirrors_rung ?_ (seated.serve broker) consumers session ?_ ?_
    fun isOpen => ?_⟩
  · exact mirrors.seats.congr (Nat.le_of_eq sameTime.symm) rfl rfl rfl (closed.trans ·)
  · change (lobby.ask request).rings - 1 = 0
    rw [owed]
  · change lobby.closings + request.closings = 0
    rw [mirrors.rungForAll, opens]
  · exact mirrors.leftover (closed ▸ isOpen)

/-- What is asked of the broker in a hall is asked of it in a lobby, and the bell rings after that. -/
theorem Mirrors.ask (mirrors : hall.Mirrors lobby) (seated : hall.consumers.Seated)
    (sound : hall.session.Sound) (allowed : hall.session.Allows request) :
    ∃ after, Lobby.machine.Leads lobby after ∧ (hall.ask request).Mirrors after := by
  cases request with
  | publish envelope =>
    rcases hall.consumers.broker.publish_cases hall.now envelope with
      ⟨broker, published⟩ | refused
    · have answered : hall.session.broker.publish hall.session.now envelope = (.ok (), broker) :=
        published
      have hallIs : hall.ask (.publish envelope) = { hall with
          consumers := (hall.consumers.serve broker).ring }.record (.accepted envelope) := by
        simp only [Hall.ask, Consumers.publish_eq published]
      refine mirrors.ask_rung seated (by simp) allowed ?_ rfl (by rw [hallIs, record]) broker
        (by rw [hallIs, record]) (congrArg (·.closed) (Broker.publish_eq_ok published).2)
      simp only [Session.rings, answered]
    · have answered : hall.session.broker.publish hall.session.now envelope =
          (.error .closed, hall.session.broker) := refused
      have hallIs : hall.ask (.publish envelope) = hall := by
        simp only [Hall.ask, Consumers.publish_error refused]
      refine mirrors.ask_silent (by simp) allowed ?_ rfl (by rw [hallIs]) hall.consumers.broker
        (congrArg (·.consumers) hallIs) rfl
      simp only [Session.rings, answered]
  | lease =>
    have looks := Lobby.leads_glanced mirrors.seats.distinct (mirrors.session ▸ sound)
    have consumers : (hall.ask .lease).consumers =
          (hall.consumers.serve (hall.consumers.broker.lease hall.now).2).hush ∧
        (hall.ask .lease).now = hall.now := by
      simp only [Hall.ask, Consumers.glance_eq]
      cases (hall.consumers.broker.lease hall.now).1 <;> exact ⟨rfl, rfl⟩
    have closed : (hall.consumers.broker.lease hall.now).2.closed = hall.consumers.broker.closed :=
      closed_lease sound
    refine ⟨_, looks, ?_, mirrors.rung, mirrors.rungForAll, fun _ => ?_, ?_⟩
    · rw [session_ask, ← mirrors.session]
    · rw [consumers.1]
      rfl
    · rw [consumers.1, consumers.2]
      exact mirrors.seats.congr (Nat.le_refl _) rfl rfl rfl (closed.trans ·)
  | ack delivery =>
    obtain ⟨entry, found, -⟩ := sound.serving.running delivery allowed
    have acked : hall.consumers.broker.ack delivery =
        .ok (hall.consumers.broker.acknowledged delivery.id) := Broker.ack_eq found
    have hallIs : hall.ask (.ack delivery) = ({ hall with
        consumers := hall.consumers.serve (hall.consumers.broker.acknowledged delivery.id)
        }.giveBack delivery).record (.acked delivery) := by
      simp only [Hall.ask, Consumers.ack_eq, acked]
      rfl
    exact mirrors.ask_silent (by simp) allowed rfl rfl (Nat.le_of_eq (congrArg (·.now) hallIs).symm)
      (hall.consumers.broker.acknowledged delivery.id) (congrArg (·.consumers) hallIs) rfl
  | fail delivery error kind =>
    obtain ⟨entry, found, -⟩ := sound.serving.running delivery allowed
    by_cases last : hall.consumers.broker.IsLast entry kind
    · have failed : hall.consumers.broker.fail hall.now delivery error kind = _ :=
        Broker.fail_eq_dead found last
      have answered : hall.session.broker.fail hall.session.now delivery error kind = _ := failed
      have consumers : (hall.ask (.fail delivery error kind)).consumers = hall.consumers.serve
            (hall.consumers.broker.givenUp ⟨delivery.envelope, entry.attempts, error⟩) ∧
          (hall.ask (.fail delivery error kind)).now = hall.now := by
        simp only [Hall.ask, Consumers.fail_eq_dead failed]
        exact ⟨rfl, rfl⟩
      refine mirrors.ask_silent (by simp) allowed ?_ rfl (Nat.le_of_eq consumers.2.symm) _
        consumers.1 rfl
      simp only [Session.rings, answered]
    · have failed : hall.consumers.broker.fail hall.now delivery error kind = _ :=
        Broker.fail_eq_retry found last
      have answered : hall.session.broker.fail hall.session.now delivery error kind = _ := failed
      have consumers : (hall.ask (.fail delivery error kind)).consumers =
            (hall.consumers.serve (hall.consumers.broker.postponed hall.now
              (hall.consumers.broker.nextAttempt hall.now entry) error)).ring ∧
          (hall.ask (.fail delivery error kind)).now = hall.now := by
        simp only [Hall.ask, Consumers.fail_eq_retry failed]
        exact ⟨rfl, rfl⟩
      refine mirrors.ask_rung seated (by simp) allowed ?_ rfl consumers.2 _ consumers.1 rfl
      simp only [Session.rings, answered]
  | abandon delivery =>
    exact mirrors.ask_silent (by simp) allowed rfl rfl (Nat.le_refl _) hall.consumers.broker rfl rfl
  | close =>
    obtain ⟨step, session⟩ := mirrors.step_ask (by simp) allowed
    have owed : (lobby.ask .close).closings = 1 := congrArg (· + 1) mirrors.rungForAll
    have rang : Lobby.machine.Step (lobby.ask .close) (lobby.ask .close).rungForAll :=
      Lobby.step_of_happens mirrors.seats.distinct (.ringAll (owed ▸ Nat.one_pos))
    refine ⟨_, .tail (.single step) rang, session, mirrors.rung, ?_, fun isOpen => ?_,
      mirrors.seats.close⟩
    · change (lobby.ask .close).closings - 1 = 0
      rw [owed]
    · change hall.consumers.close.broker.closed = false at isOpen
      rw [Consumers.broker_close] at isOpen
      exact absurd isOpen.symm Bool.false_ne_true
  | advance span =>
    exact mirrors.ask_silent (by simp) allowed rfl rfl (Nat.le_add_right _ _) hall.consumers.broker
      rfl rfl

/-- A consumer whose alarm has gone off waits, and its alarm is due. -/
theorem mem_alarmed {consumers : Consumers} {now : Moment} {number : Nat}
    (alarmed : number ∈ consumers.alarmed now) : ∃ consumer ∈ consumers.waiting,
      consumer.number = number ∧ ∃ time ∈ consumer.alarm, time ≤ now := by
  obtain ⟨⟨time, waking⟩, sorted, rfl⟩ := List.mem_map.1 alarmed
  obtain ⟨consumer, waits, sets⟩ := List.mem_filterMap.1 ((List.mergeSort_perm _ _).mem_iff.1 sorted)
  obtain ⟨alarm, isSet, due⟩ := Option.bind_eq_some_iff.1 sets
  split at due
  · rename_i isDue
    obtain ⟨rfl, rfl⟩ := Prod.mk.inj (Option.some.inj due)
    exact ⟨consumer, waits, rfl, alarm, isSet, isDue⟩
  · exact absurd due (Option.some_ne_none _).symm

/-- Every consumer has its guest. -/
theorem Mirrors.exists_guest (mirrors : hall.Mirrors lobby) {number : Nat}
    (isThere : number ∈ hall.consumers.numbers ∨ number ∈ hall.consumers.awake) :
    ∃ front guest back, lobby.guests = front ++ guest :: back ∧ guest.number = number := by
  obtain ⟨guest, isHere, same⟩ := List.mem_map.1 ((mirrors.seats.known number).2 isThere)
  obtain ⟨front, back, split⟩ := List.append_of_mem isHere
  exact ⟨front, guest, back, split, same⟩

/-- A guest that is awake is about to begin, or comes to be by the bell or its alarm. -/
theorem Mirrors.rises (mirrors : hall.Mirrors lobby) {front back : List Guest} {guest : Guest}
    (split : lobby.guests = front ++ guest :: back) (isAwake : guest.number ∈ hall.consumers.awake) :
    ∃ risen : Guest, risen.number = guest.number ∧ risen.stage = .entering ∧
      Lobby.machine.Leads lobby { lobby with guests := front ++ risen :: back } := by
  have isHere : guest ∈ lobby.guests := by simp [split]
  have distinct := mirrors.seats.distinct
  cases mirrors.seats.stands guest isHere with
  | entering away =>
    refine ⟨_, rfl, rfl, ?_⟩
    rw [← split]
    exact .refl
  | @listening number alarm again waits =>
    have listens := (mirrors.seats.listens_iff isHere).1 rfl
    obtain ⟨time, sets, due⟩ := mirrors.seats.alarms _ waits listens isAwake
    have sameTime : lobby.session.now = hall.now := congrArg (·.now) mirrors.session
    have woken := Lobby.step_of_happens distinct (.alarm split sets (sameTime ▸ due))
    exact ⟨Guest.rise ⟨number, .resting .listening alarm, again⟩, rfl, rfl, .single woken⟩
  | @woken number ear alarm again waits isAwake rang =>
    have deaf : Guest.listens ⟨number, .resting ear alarm, again⟩ = false := by
      rcases rang with rfl | ⟨rfl, -⟩ <;> rfl
    have heard := Lobby.step_of_happens distinct (.hear split rfl deaf)
    exact ⟨Guest.rise ⟨number, .resting ear alarm, again⟩, rfl, rfl, .single heard⟩

/-- Who waits after a look. -/
theorem look_consumers (hall : Hall) (number : Nat) :
    (hall.look number).now = hall.now ∧
      (hall.look number).consumers = match (hall.consumers.broker.lease hall.now).1 with
        | .nothing alarm => (((hall.consumers.leave number).serve
            (hall.consumers.broker.lease hall.now).2).hush).wait ⟨number, alarm⟩
        | .closed | .leased _ => ((hall.consumers.leave number).serve
            (hall.consumers.broker.lease hall.now).2).hush := by
  simp only [Hall.look, Consumers.step_call]
  rcases hall.consumers.broker.lease hall.now with ⟨found, broker⟩
  cases found <;> exact ⟨rfl, rfl⟩

/-- A look in a hall is a guest that is woken, if it rests, and then looks. -/
theorem Mirrors.look (mirrors : hall.Mirrors lobby) (sound : hall.session.Sound) {number : Nat}
    (isAwake : number ∈ hall.consumers.awake) :
    ∃ after, Lobby.machine.Leads lobby after ∧ (hall.look number).Mirrors after := by
  obtain ⟨front, guest, back, split, rfl⟩ := mirrors.exists_guest (.inr isAwake)
  obtain ⟨risen, same, enters, rises⟩ := mirrors.rises split isAwake
  have distinct := split ▸ mirrors.seats.distinct
  have looks := @Lobby.leads_looked { lobby with guests := front ++ risen :: back } _ _ _
    (Lobby.distinct_changed distinct same) (mirrors.session ▸ sound) rfl enters
  refine ⟨_, rises.trans looks, ?_⟩
  have isNew : guest.number ∉ (front ++ back).map (·.number) := by
    rw [Lobby.Distinct, List.map_append, List.map_cons, List.nodup_middle, ← List.map_append] at distinct
    exact (List.nodup_cons.1 distinct).1
  have closed : (hall.consumers.broker.lease hall.now).2.closed = hall.consumers.broker.closed :=
    closed_lease sound
  have left : Seats (((hall.consumers.leave guest.number).serve
      (hall.consumers.broker.lease hall.now).2).hush) hall.now (front ++ back) :=
    (split ▸ mirrors.seats).leave.congr (Nat.le_refl _) rfl rfl rfl (closed.trans ·)
  have session : lobby.session.perform .lease = (hall.look guest.number).session := by
    rw [session_look, mirrors.session]
  have found : (lobby.session.broker.lease lobby.session.now).1 =
      (hall.consumers.broker.lease hall.now).1 := by rw [mirrors.session]; rfl
  obtain ⟨sameTime, consumers⟩ := look_consumers hall guest.number
  unfold Lobby.looked
  refine ⟨session, mirrors.rung, mirrors.rungForAll, fun _ => ?_, ?_⟩
  · rw [consumers]
    cases (hall.consumers.broker.lease hall.now).1 <;> rfl
  · rw [sameTime, consumers, same]
    simp only [found]
    cases (hall.consumers.broker.lease hall.now).1 with
    | nothing alarm => exact left.wait isNew
    | closed | leased delivery => exact left

/-- At a closed broker it does not matter whether a ring is left over. -/
theorem Mirrors.of_rung (mirrors : hall.Mirrors lobby.rung)
    (deaf : ∀ guest ∈ lobby.guests, guest.listens = false)
    (isClosed : hall.consumers.broker.closed = true) : hall.Mirrors lobby := by
  rcases Lobby.rung_cases lobby with ⟨front, first, back, split, listens, -, -⟩ | ⟨-, rang⟩
  · exact absurd listens (by simp [deaf first (by simp [split])])
  · rw [rang] at mirrors
    exact ⟨mirrors.session, mirrors.rung, mirrors.rungForAll,
      fun isOpen => absurd (isClosed.symm.trans isOpen) (by simp), mirrors.seats⟩

/-- A guest that is cancelled and passes no ring on: its consumer is withdrawn. -/
theorem Mirrors.withdraw (mirrors : hall.Mirrors lobby) {front back : List Guest} {guest : Guest}
    (split : lobby.guests = front ++ guest :: back)
    (same : hall.consumers.cancel guest.number = hall.consumers.withdraw guest.number) :
    (hall.depart guest.number).Mirrors { lobby with guests := front ++ back } := by
  have consumers : (hall.depart guest.number).consumers = hall.consumers.withdraw guest.number :=
    same
  refine ⟨mirrors.session.trans (session_depart hall guest.number).symm, mirrors.rung,
    mirrors.rungForAll, fun isOpen => ?_, ?_⟩
  · rw [consumers] at isOpen ⊢
    exact mirrors.leftover isOpen
  · rw [consumers]
    exact (split ▸ mirrors.seats).withdraw

/-- A guest that is cancelled whom a ring has reached: the bell rings again. -/
theorem Mirrors.withdraw_rung (mirrors : hall.Mirrors lobby) (seated : hall.consumers.Seated)
    {front back : List Guest} {guest : Guest} (split : lobby.guests = front ++ guest :: back)
    (same : hall.consumers.cancel guest.number = (hall.consumers.withdraw guest.number).ring) :
    (hall.depart guest.number).Mirrors { lobby with guests := front ++ back }.rung :=
  mirrors_rung (split ▸ mirrors.seats).withdraw (seated.withdraw guest.number) same
    (mirrors.session.trans (session_depart hall guest.number).symm) mirrors.rung mirrors.rungForAll
    mirrors.leftover

/-- A departure from a hall is a guest that is cancelled. -/
theorem Mirrors.depart (mirrors : hall.Mirrors lobby) (present : hall.consumers.Present) {number : Nat}
    (isThere : number ∈ hall.consumers.numbers ∨ number ∈ hall.consumers.awake) :
    ∃ after, Lobby.machine.Leads lobby after ∧ (hall.depart number).Mirrors after := by
  obtain ⟨front, guest, back, split, rfl⟩ := mirrors.exists_guest isThere
  have isHere : guest ∈ lobby.guests := by simp [split]
  have listens := mirrors.seats.listens_iff isHere
  have cancels (stays : guest.leaves = false)
      (canGo : guest.stage = .entering → guest.again = false) :=
    Lobby.step_of_happens mirrors.seats.distinct (.cancel split stays canGo)
  cases mirrors.seats.stands guest isHere with
  | @entering number away =>
    have same : hall.consumers.cancel number = hall.consumers.withdraw number :=
      Consumers.cancel_eq_withdraw (fun waits => absurd waits away) (present.row_waits number)
    exact ⟨_, .single (cancels rfl fun _ => rfl), mirrors.withdraw split same⟩
  | @listening number alarm again waits =>
    have same : hall.consumers.cancel number = hall.consumers.withdraw number :=
      Consumers.cancel_eq_withdraw (fun _ => listens.1 rfl) (present.row_waits number)
    exact ⟨_, .single (cancels rfl (by simp)), mirrors.withdraw split same⟩
  | @woken number ear alarm again waits isAwake rang =>
    have away : number ∉ hall.consumers.row := by
      refine fun inRow => absurd (listens.2 inRow) ?_
      rcases rang with rfl | ⟨rfl, -⟩ <;> exact Bool.false_ne_true
    have same : hall.consumers.cancel number = (hall.consumers.withdraw number).ring :=
      Consumers.cancel_eq_ring (List.mem_map_of_mem waits) away
    have rings := mirrors.withdraw_rung present.toSeated split same
    rcases rang with rfl | ⟨rfl, isClosed⟩
    · exact ⟨_, .single (cancels rfl (by simp)), rings⟩
    · -- Nobody listens to a closed broker, so that the ring of the hall reaches nobody.
      have nobody : (front ++ back).filter (·.listens) = [] := by
        have row := (split ▸ mirrors.seats).withdraw.row
        rw [(present.withdraw number).deserted isClosed] at row
        exact List.map_eq_nil_iff.1 row
      have stillClosed : (hall.depart number).consumers.broker.closed = true :=
        (congrArg (·.broker.closed) (session_depart hall number)).trans isClosed
      exact ⟨_, .single (cancels rfl (by simp)),
        rings.of_rung (fun _ => by simpa using List.filter_eq_nil_iff.1 nobody _) stillClosed⟩

/-- A consumer that has been woken is a guest as before, or a new one. -/
theorem Mirrors.wake (mirrors : hall.Mirrors lobby) (number : Nat) {guests : List Guest}
    (seats : Seats (hall.consumers.wake number) hall.now guests) :
    Mirrors { hall with consumers := hall.consumers.wake number }
      { lobby with guests := guests } := by
  have exchange : (hall.consumers.wake number).exchange = hall.consumers.exchange := by
    rw [Consumers.wake_frame]
  refine ⟨mirrors.session.trans ?_, mirrors.rung, mirrors.rungForAll, fun isOpen => ?_, seats⟩
  · unfold Hall.session Consumers.broker
    rw [exchange]
  · unfold Consumers.broker at isOpen
    rw [exchange] at isOpen ⊢
    exact mirrors.leftover isOpen

/-- Every turn of a hall happens in a lobby step by step, apart from a ring that nothing calls for. -/
theorem Mirrors.turn (mirrors : hall.Mirrors lobby) (present : hall.consumers.Present)
    (sound : hall.session.Sound) {turn : Turn} (allowed : hall.AllowsTurn turn)
    (called : turn ≠ .move .ring) :
    ∃ after, Lobby.machine.Leads lobby after ∧ (hall.turn turn).Mirrors after := by
  cases turn with
  | depart number => exact mirrors.depart present allowed
  | move move =>
    cases move with
    | ask request => exact mirrors.ask present.toSeated sound allowed
    | look number => exact mirrors.look sound allowed
    | ring => exact absurd rfl called
    | join number =>
      have isNew : number ∉ lobby.guests.map (·.number) := fun isHere =>
        not_or.2 allowed ((mirrors.seats.known number).1 isHere)
      have joined := Lobby.step_of_happens mirrors.seats.distinct
        (.join (Lobby.guest?_eq_none isNew))
      exact ⟨_, .single joined, mirrors.wake number (mirrors.seats.join isNew)⟩
    | alarm number =>
      obtain ⟨consumer, waits, rfl, time, sets, due⟩ := mem_alarmed allowed
      refine ⟨lobby, .refl, mirrors.wake _ (mirrors.seats.wake (List.mem_map_of_mem waits) ?_)⟩
      intro other isWaiting _ same
      obtain rfl : other = consumer :=
        List.inj_on_of_nodup_map present.numbers_nodup isWaiting waits same
      exact ⟨time, sets, due⟩

/-- Halls in which the bell rings only when something calls for it. -/
def calling : Machine Hall Turn :=
  ⟨fun hall turn => hall.AllowsTurn turn ∧ turn ≠ .move .ring, turn⟩

/-- What happens in a hall happens in a lobby step by step: at the end the broker is in the same use,
and every consumer is a guest that has come as far. -/
theorem exists_mirror {policy : RetryPolicy} {begin : Moment}
    (run : calling.Leads (start policy begin) hall) :
    ∃ lobby, Lobby.machine.Leads (.start policy begin) lobby ∧ hall.Mirrors lobby := by
  induction run with
  | refl => exact ⟨_, .refl, start_mirrors policy begin⟩
  | @tail hall after earlier step ih =>
    obtain ⟨lobby, leads, mirrors⟩ := ih
    obtain ⟨turn, ⟨allowed, called⟩, rfl⟩ := step
    have turns : (start policy begin).Turns hall :=
      Relation.ReflTransGen.mono
        (fun _ _ step => step.imp fun _ performed => ⟨performed.1.1, performed.2⟩) _ _ earlier
    obtain ⟨next, more, shows⟩ :=
      mirrors.turn (turns_present turns) (turns_sound turns) allowed called
    exact ⟨next, leads.trans more, shows⟩

end ReminderDispatch.Hall
