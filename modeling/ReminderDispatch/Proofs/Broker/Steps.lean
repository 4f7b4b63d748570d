import Mathlib.Data.Fintype.EquivFin
import Mathlib.Data.List.DropRight
import ReminderDispatch.Proofs.Broker.Lobby
import ReminderDispatch.Proofs.Lists

/-!
# Looks in a lobby

What a guest does that looks for work, all steps together. It begins to listen behind all others,
looks, and rests there or leaves; if a ring was left over it looks twice. Somebody who does not wait is
a guest that is cancelled when it would rest.
-/

namespace ReminderDispatch

/-- Tasks that are due join the line only once. -/
theorem Broker.Consistent.promote_promote {broker : Broker} (consistent : broker.Consistent)
    (now : Moment) : (broker.promote now).promote now = broker.promote now := by
  have later : (broker.promote now).scheduled.dropWhile (fun task => decide (task.due ≤ now)) =
      (broker.promote now).scheduled := by
    rw [consistent.promote_scheduled now]
    exact List.dropWhile_idempotent _ _
  have none : (broker.promote now).scheduled.takeWhile (fun task => decide (task.due ≤ now)) =
      [] := by
    have parts := List.takeWhile_append_dropWhile
      (p := fun task : PendingRetry => decide (task.due ≤ now)) (l := (broker.promote now).scheduled)
    rw [later] at parts
    exact List.append_left_eq_self.1 parts
  rw [Broker.promote, none, later]
  rfl

/-- A second look at the same time finds nothing as well. -/
theorem Session.Sound.looked_again {session : Session} (sound : session.Sound)
    {alarm : Option Moment} (looked : (session.broker.lease session.now).1 = .nothing alarm) :
    ((session.perform .lease).broker.lease (session.perform .lease).now).1 = .nothing alarm ∧
      (session.perform .lease).perform .lease = session.perform .lease := by
  have consistent : session.broker.Consistent := sound.serving.toConsistent
  have promoted : (session.broker.promote session.now).closed = session.broker.closed :=
    congrArg (·.closed) (consistent.promote_admitted session.now).frame
  have same := consistent.promote_promote session.now
  rcases consistent.lease_cases session.now with ⟨-, found⟩ | ⟨isOpen, empty, found⟩ |
    ⟨id, line, record, -, -, -, found⟩
  · simp [found] at looked
  · rcases (consistent.promote session.now).lease_cases session.now with ⟨isClosed, -⟩ |
      ⟨-, -, again⟩ | ⟨id, line, record, -, first, -, -⟩
    · exact absurd (promoted.symm.trans isClosed) (by simp [isOpen])
    · rw [same] at again
      have alarmIs := looked.symm.trans (congrArg (·.1) found)
      simp only [perform, found, again]
      exact ⟨alarmIs.symm, trivial⟩
    · rw [same, empty] at first
      exact absurd first (List.cons_ne_nil id line).symm
  · simp [found] at looked

namespace Lobby

variable {lobby after : Lobby} {guest : Guest} {front back : List Guest}

/-- No two guests have one number. -/
def Distinct (guests : List Guest) : Prop := (guests.map (·.number)).Nodup

/-- A guest that moves behind all others keeps its number. -/
theorem distinct_moved (distinct : Distinct (front ++ guest :: back)) {moved : Guest}
    (same : moved.number = guest.number) : Distinct (front ++ back ++ [moved]) := by
  unfold Distinct at distinct ⊢
  have perm : ((front ++ back ++ [moved]).map (·.number)).Perm
      ((front ++ guest :: back).map (·.number)) := by
    have first : ((front ++ back ++ [moved]).map (·.number)).Perm
        ((moved :: (front ++ back)).map (·.number)) := (List.perm_append_singleton _ _).map _
    refine first.trans ?_
    rw [List.map_cons, same, ← List.map_cons]
    exact (List.perm_middle.symm).map _
  exact perm.nodup_iff.2 distinct

/-- A guest that changes in its place keeps its number. -/
theorem distinct_changed (distinct : Distinct (front ++ guest :: back)) {changed : Guest}
    (same : changed.number = guest.number) : Distinct (front ++ changed :: back) := by
  simpa [Distinct, same] using distinct

/-- Where a guest is found, if no two have one number. -/
theorem placed (distinct : Distinct lobby.guests) (split : lobby.guests = front ++ guest :: back) :
    lobby.guest? guest.number = some guest ∧
      lobby.without guest = { lobby with guests := front ++ back } ∧
      ∀ changed, lobby.replace guest changed =
        { lobby with guests := front ++ changed :: back } := by
  have absent : ∀ other ∈ front, (other.number == guest.number) = false := by
    intro other inFront
    rw [Distinct, split, List.map_append, List.nodup_append] at distinct
    exact beq_eq_false_iff_ne.2 (distinct.2.2 _ (List.mem_map_of_mem inFront) _ (by simp))
  have notFound : front.find? (·.number == guest.number) = none := by
    simpa [List.find?_eq_none] using absent
  refine ⟨?_, ?_, fun changed => ?_⟩
  · rw [guest?, split, List.find?_append, notFound]
    simp
  · have kept : (front ++ guest :: back).eraseP (·.number == guest.number) =
        front ++ (guest :: back).eraseP (·.number == guest.number) :=
      List.eraseP_append_right _ (by simpa using absent)
    rw [without, split, kept]
    simp
  · have kept : ∀ items : List Guest, (∀ other ∈ items, (other.number == guest.number) = false) →
        changeFirst (·.number == guest.number) (fun _ => changed) (items ++ guest :: back) =
          items ++ changed :: back := by
      intro items
      induction items with
      | nil => simp [changeFirst]
      | cons first more ih =>
        intro away
        rw [List.cons_append, changeFirst, away first (by simp), if_neg Bool.false_ne_true,
          ih fun other isMore => away other (by simp [isMore]), List.cons_append]
    rw [replace, split, kept front absent]

/-- What can happen happens in one step, if no two guests have one number. -/
theorem step_of_happens {act : Act} (distinct : Distinct lobby.guests)
    (happened : lobby.Happens act after) : machine.Step lobby after := by
  refine ⟨act, ?_⟩
  change lobby.Allows act ∧ lobby.perform act = after
  cases happened with
  | ask other allowed => exact ⟨⟨other, allowed⟩, rfl⟩
  | ring due => exact ⟨due, rfl⟩
  | ringAll due => exact ⟨due, rfl⟩
  | join isNew => exact ⟨isNew, rfl⟩
  | register split enters =>
    obtain ⟨found, gone, -⟩ := placed distinct split
    refine ⟨⟨_, found, enters⟩, ?_⟩
    rw [perform, found, Option.elim_some, register, gone]
  | rest split queues looked =>
    obtain ⟨found, -, -⟩ := placed distinct split
    refine ⟨⟨_, found, queues⟩, ?_⟩
    obtain ⟨-, -, changed⟩ :=
      @placed { lobby with session := lobby.session.perform .lease } _ _ _ distinct split
    rw [perform, found, Option.elim_some, check, looked]
    exact changed _
  | found split queues looked =>
    obtain ⟨found, -, -⟩ := placed distinct split
    refine ⟨⟨_, found, queues⟩, ?_⟩
    obtain ⟨-, -, changed⟩ :=
      @placed { lobby with session := lobby.session.perform .lease } _ _ _ distinct split
    rw [perform, found, Option.elim_some, check]
    split
    · rename_i looks
      exact absurd looks (looked _)
    · exact changed _
    · exact changed _
  | hear split rests rang =>
    obtain ⟨found, -, changed⟩ := placed distinct split
    refine ⟨⟨_, found, rests, rang⟩, ?_⟩
    rw [perform, found, Option.elim_some, hear, changed]
  | alarm split sets due =>
    obtain ⟨found, -, changed⟩ := placed distinct split
    refine ⟨⟨_, found, _, sets, due⟩, ?_⟩
    rw [perform, found, Option.elim_some, alarm, changed]
  | leave split leaves =>
    obtain ⟨found, gone, -⟩ := placed distinct split
    refine ⟨⟨_, found, leaves⟩, ?_⟩
    rw [perform, found, Option.elim_some, depart, gone]
  | cancel split stays canGo =>
    obtain ⟨found, gone, -⟩ := placed distinct split
    refine ⟨⟨_, found, stays, canGo⟩, ?_⟩
    rw [perform, found, Option.elim_some, depart, gone]

/-- A guest looks once: it leaves, or it rests behind all others and listens. -/
def looked (lobby : Lobby) (others : List Guest) (number : Nat) : Lobby :=
  { lobby with
    session := lobby.session.perform .lease
    guests := match (lobby.session.broker.lease lobby.session.now).1 with
      | .nothing alarm => others ++ [⟨number, .resting .listening alarm, true⟩]
      | .closed | .leased _ => others
    leftover := false }

/-- A guest at the end of the row that was not called has its turn, finds something, and leaves. -/
theorem leads_left {others : List Guest} {number : Nat} {ear : Ear} {again : Bool}
    (distinct : Distinct lobby.guests)
    (split : lobby.guests = others ++ [⟨number, .queueing ear, again⟩]) (uncalled : ear ≠ .called)
    (found : ∀ alarm, (lobby.session.broker.lease lobby.session.now).1 ≠ .nothing alarm) :
    machine.Leads lobby
      { lobby with session := lobby.session.perform .lease, guests := others } := by
  have looked := step_of_happens distinct (.found split rfl found)
  have stillDistinct : Distinct (others ++ [⟨number, .leaving ear, again⟩]) := by
    rw [split] at distinct
    exact distinct_changed distinct rfl
  have left := @step_of_happens { lobby with
      session := lobby.session.perform .lease
      guests := others ++ [⟨number, .leaving ear, again⟩] } _ _ stillDistinct (.leave rfl rfl)
  have quiet : (⟨number, .leaving ear, again⟩ : Guest).isCalled = false := by
    simp [Guest.isCalled, Guest.ear?, uncalled]
  rw [passOn, quiet, if_neg Bool.false_ne_true, List.append_nil] at left
  exact .tail (.single looked) left

/-- A guest at the end of the row has its turn. -/
theorem leads_turn {others : List Guest} (distinct : Distinct lobby.guests)
    (split : lobby.guests = others ++ [guest]) (queues : guest.stage = .queueing .listening)
    (hushed : lobby.leftover = false) :
    machine.Leads lobby (lobby.looked others guest.number) := by
  obtain ⟨number, stage, again⟩ := guest
  obtain rfl : stage = .queueing .listening := queues
  unfold looked
  cases found : (lobby.session.broker.lease lobby.session.now).1 with
  | nothing alarm =>
    have step := step_of_happens distinct (.rest split rfl found)
    rw [hushed] at step
    exact .single step
  | closed | leased delivery =>
    have left := leads_left distinct split (by simp) (by simp [found])
    rw [hushed] at left
    exact left

/-- A guest at the end of the row has its turn, and a left-over ring is used up: if it finds nothing,
it looks again, and finds nothing. -/
theorem leads_prompted {others : List Guest} (distinct : Distinct lobby.guests)
    (sound : lobby.session.Sound) (split : lobby.guests = others ++ [guest])
    (queues : guest.stage = .queueing .prompted) (hushed : lobby.leftover = false) :
    machine.Leads lobby (lobby.looked others guest.number) := by
  obtain ⟨number, stage, again⟩ := guest
  obtain rfl : stage = .queueing .prompted := queues
  obtain ⟨session, guests, leftover, rings, closings⟩ := lobby
  obtain rfl : guests = _ := split
  obtain rfl : leftover = false := hushed
  have last {stage : LookStage} {again : Bool} : Distinct (others ++ [⟨number, stage, again⟩]) :=
    distinct_changed distinct rfl
  cases found : (session.broker.lease session.now).1 with
  | nothing alarm =>
    obtain ⟨foundAgain, same⟩ := sound.looked_again found
    have rested := step_of_happens distinct (.rest rfl rfl found)
    have heard := step_of_happens last (@Happens.hear
      ⟨session.perform .lease, others ++ [⟨number, .resting .prompted alarm, true⟩], false, rings,
        closings⟩ others [] _ rfl rfl rfl)
    have registered := step_of_happens last (@Happens.register
      ⟨session.perform .lease, others ++ [⟨number, .entering, true⟩], false, rings, closings⟩
      others [] _ rfl rfl)
    rw [List.append_nil] at registered
    have looked := @leads_turn
      ⟨session.perform .lease, others ++ [⟨number, .queueing .listening, true⟩], false, rings,
        closings⟩ _ others last rfl rfl rfl
    have end_eq : Lobby.looked ⟨session.perform .lease,
          others ++ [⟨number, .queueing .listening, true⟩], false, rings, closings⟩ others number =
        Lobby.looked ⟨session, others ++ [⟨number, .queueing .prompted, again⟩], false, rings,
          closings⟩ others number := by
      unfold Lobby.looked
      rw [foundAgain, found, same]
    exact end_eq ▸ .trans (.tail (.tail (.single rested) heard) registered) looked
  | closed | leased delivery =>
    have left := leads_left distinct rfl (by simp) (by simp [found])
    unfold looked
    rw [found]
    exact left

/-- A guest that is about to begin looks in a few steps. -/
theorem leads_looked (distinct : Distinct lobby.guests) (sound : lobby.session.Sound)
    (split : lobby.guests = front ++ guest :: back) (enters : guest.stage = .entering) :
    machine.Leads lobby (lobby.looked (front ++ back) guest.number) := by
  have moved (ear : Ear) : Distinct (front ++ back ++ [guest.queue ear]) := by
    rw [split] at distinct
    exact distinct_moved distinct rfl
  have registered := step_of_happens distinct (.register split enters)
  cases left : lobby.leftover with
  | false =>
    rw [left, if_neg Bool.false_ne_true] at registered
    have looked := @leads_turn { lobby with
        guests := front ++ back ++ [guest.queue .listening]
        leftover := false } _ _ (moved .listening) rfl rfl rfl
    exact .head registered looked
  | true =>
    rw [left, if_pos rfl] at registered
    have looked := @leads_prompted { lobby with
        guests := front ++ back ++ [guest.queue .prompted]
        leftover := false } _ _ (moved .prompted) sound rfl rfl rfl
    exact .head registered looked

/-- A number that no guest has. -/
theorem guest?_eq_none {number : Nat} (isNew : number ∉ lobby.guests.map (·.number)) :
    lobby.guest? number = none := by
  rw [guest?, List.find?_eq_none]
  intro guest isHere same
  exact isNew (List.mem_map.2 ⟨guest, isHere, by simpa using same⟩)

/-- Somebody who does not wait looks: a guest that comes, looks, and is cancelled if it rests. -/
theorem leads_glanced (distinct : Distinct lobby.guests) (sound : lobby.session.Sound) :
    machine.Leads lobby
      { lobby with session := lobby.session.perform .lease, leftover := false } := by
  obtain ⟨number, isNew⟩ := Infinite.exists_notMem_finset (lobby.guests.map (·.number)).toFinset
  rw [List.mem_toFinset] at isNew
  have added {last : Guest} (same : last.number = number) : Distinct (lobby.guests ++ [last]) := by
    rw [Distinct, List.map_append, List.map_singleton, same]
    exact nodup_append_singleton distinct isNew
  have joined := step_of_happens distinct (.join (guest?_eq_none isNew))
  have looked := @leads_looked
    { lobby with guests := lobby.guests ++ [⟨number, .entering, false⟩] } _ _ _ (added rfl) sound
    rfl rfl
  rw [List.append_nil] at looked
  refine .head joined (looked.trans ?_)
  unfold Lobby.looked
  cases found : (lobby.session.broker.lease lobby.session.now).1 with
  | nothing alarm =>
    have left := @step_of_happens { lobby with
        session := lobby.session.perform .lease
        guests := lobby.guests ++ [⟨number, .resting .listening alarm, true⟩]
        leftover := false } _ _ (added rfl) (.cancel rfl rfl (by simp))
    rw [List.append_nil] at left
    exact .single left
  | closed | leased delivery => exact .refl

end Lobby

end ReminderDispatch
