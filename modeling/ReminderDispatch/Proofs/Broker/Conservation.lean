import ReminderDispatch.Proofs.Broker.Soundness

/-!
# Conservation of tasks

Every accepted task is in exactly one place: the broker holds it, or it was acknowledged, or it was
given up. The broker keeps no trace of an acknowledged task but a number, and of a task that was
given up a copy only; so the places are read off the history of a session.

The main result follows a task through a session: it is never lost or doubled, it keeps its envelope,
and nothing happens to it any more once it was acknowledged or given up.
-/

namespace ReminderDispatch

namespace Broker

/-- The counts of the tasks that are held, whatever is going on with them. -/
theorem counts_held (broker : Broker) :
    broker.counts.queued + broker.counts.running + broker.counts.retryScheduled =
      broker.envelopes.length := by
  unfold counts countIn envelopes
  rw [List.length_map]
  induction broker.records with
  | nil => rfl
  | cons record more ih =>
    simp only [List.countP_cons, List.length_cons] at ih ⊢
    cases record.state <;> simp <;> omega

end Broker

namespace Session

variable {session before after : Session} {envelope : Envelope}

/-- The accepted tasks are those that are held, were acknowledged or were given up. -/
structure Accounted (session : Session) : Prop where
  /-- Every accepted task is in one place, with its envelope. -/
  places : (session.broker.envelopes ++ session.acked ++ session.dead).Perm session.accepted
  /-- No identifier was accepted twice. -/
  accepted_nodup : (session.accepted.map (·.id)).Nodup
  /-- The broker has counted the acknowledged tasks. -/
  succeeded_eq : session.broker.succeeded = session.acked.length

/-- How often a task is in any place. -/
def presence (session : Session) (id : TaskId) : Nat :=
  session.broker.taskIds.count id + (session.acked.map (·.id)).count id +
    (session.dead.map (·.id)).count id

/-- The task was acknowledged or given up. -/
def Settled (session : Session) (envelope : Envelope) : Prop :=
  envelope ∈ session.acked ∨ envelope ∈ session.dead

/-- An event that is recorded counts as the last acknowledgement if it is one. -/
theorem acked_record (session : Session) (event : Event) :
    (session.record event).acked = session.acked ++ event.acked?.toList := by
  simp only [acked, record, List.filterMap_append]
  cases isAcked : event.acked? <;> simp [isAcked]

/-- A session starts without tasks in any place. -/
theorem start_accounted (policy : RetryPolicy) (now : Moment) : (start policy now).Accounted where
  places := .refl _
  accepted_nodup := List.nodup_nil
  succeeded_eq := rfl

/-! ## One change -/

/-- The tasks stay accounted for while none changes its place. -/
theorem Accounted.of_eq (accounted : before.Accounted)
    (held : after.broker.envelopes = before.broker.envelopes) (acked : after.acked = before.acked)
    (dead : after.dead = before.dead) (accepted : after.accepted = before.accepted)
    (succeeded : after.broker.succeeded = before.broker.succeeded) : after.Accounted where
  places := by
    rw [held, acked, dead, accepted]
    exact accounted.places
  accepted_nodup := by
    rw [accepted]
    exact accounted.accepted_nodup
  succeeded_eq := by
    rw [succeeded, acked]
    exact accounted.succeeded_eq

/-- A delivery in hand is that of a record that the broker holds. -/
theorem Sound.held_record (sound : session.Sound) {delivery : Delivery}
    (inHand : delivery ∈ session.held) :
    ∃ record, session.broker.find? delivery.id = some record ∧
      record.envelope = delivery.envelope := by
  obtain ⟨record, found, -, same⟩ := sound.serving.running delivery inHand
  exact ⟨record, found, congrArg (·.envelope) same⟩

/-- The task of a delivery in hand is one of those that the broker holds. -/
theorem Sound.held_envelope (sound : session.Sound) {delivery : Delivery}
    (inHand : delivery ∈ session.held) : delivery.envelope ∈ session.broker.envelopes := by
  obtain ⟨record, found, same⟩ := sound.held_record inHand
  rw [← same]
  exact List.mem_map_of_mem (Broker.find?_mem found)

/-- When a delivery in hand is settled, its task is taken out of those that are held. -/
theorem Sound.envelopes_settle (sound : session.Sound) {delivery : Delivery}
    (inHand : delivery ∈ session.held) :
    session.broker.envelopes.Perm
      (delivery.envelope :: (session.broker.drop delivery.id).envelopes) := by
  obtain ⟨record, found, same⟩ := sound.held_record inHand
  rw [← same]
  exact Broker.envelopes_drop_perm sound.serving.distinct found

/-- A new task is held after it was accepted. -/
theorem Accounted.accept (accounted : before.Accounted) (sound : before.Sound) {broker : Broker}
    (fresh : envelope.id ∉ before.accepted.map (·.id))
    (published : before.broker.publish before.now envelope = (.ok (), broker)) :
    ({ before with broker := broker }.record (.accepted envelope)).Accounted := by
  have new : envelope.id ∉ before.broker.taskIds := fun member => fresh (sound.known _ member)
  have held := Broker.envelopes_publish new published
  obtain ⟨-, stored⟩ := Broker.publish_eq_ok published
  have letters : broker.deadLetters = before.broker.deadLetters := congrArg (·.deadLetters) stored
  have succeeded : broker.succeeded = before.broker.succeeded := congrArg (·.succeeded) stored
  refine ⟨?_, ?_, ?_⟩
  · rw [acked_record, accepted_record]
    change (broker.envelopes ++ (before.acked ++ []) ++
      broker.deadLetters.map DeadLetter.envelope).Perm (before.accepted ++ [envelope])
    rw [held, letters, List.append_nil, List.append_assoc, List.append_assoc]
    refine (List.Perm.append_left _ List.perm_append_comm).trans ?_
    rw [← List.append_assoc, ← List.append_assoc]
    exact accounted.places.append_right [envelope]
  · rw [accepted_record]
    change ((before.accepted ++ [envelope]).map (·.id)).Nodup
    rw [List.map_append, List.map_singleton]
    exact nodup_append_singleton accounted.accepted_nodup fresh
  · rw [acked_record]
    change broker.succeeded = (before.acked ++ []).length
    rw [succeeded, List.append_nil]
    exact accounted.succeeded_eq

/-- A task in hand counts as acknowledged afterwards. -/
theorem Accounted.acknowledge (accounted : before.Accounted) (sound : before.Sound)
    {delivery : Delivery} (inHand : delivery ∈ before.held) :
    (({ before with broker := before.broker.acknowledged delivery.id }.giveBack delivery).record
      (.acked delivery)).Accounted := by
  refine ⟨?_, ?_, ?_⟩
  · rw [acked_record, accepted_record_other _ rfl]
    change ((before.broker.drop delivery.id).envelopes ++ (before.acked ++ [delivery.envelope]) ++
      before.dead).Perm before.accepted
    refine .trans (.append_right _ ?_) accounted.places
    rw [← List.append_assoc]
    refine List.perm_append_singleton _ _ |>.trans ?_
    exact (sound.envelopes_settle inHand).symm.append_right before.acked
  · rw [accepted_record_other _ rfl]
    exact accounted.accepted_nodup
  · rw [acked_record]
    change before.broker.succeeded + 1 = (before.acked ++ [delivery.envelope]).length
    rw [accounted.succeeded_eq, List.length_append, List.length_singleton]

/-- A task in hand counts as given up afterwards. -/
theorem Accounted.giveUp (accounted : before.Accounted) (sound : before.Sound)
    {delivery : Delivery} (inHand : delivery ∈ before.held) (attempts : Nat) (error : String)
    (kind : FailureKind) :
    (({ before with broker := before.broker.givenUp ⟨delivery.envelope, attempts, error⟩
      }.giveBack delivery).record (.failed delivery error kind .deadLettered)).Accounted := by
  refine ⟨?_, ?_, ?_⟩
  · rw [acked_record, accepted_record_other _ rfl]
    change ((before.broker.drop delivery.id).envelopes ++ (before.acked ++ []) ++
      (before.broker.deadLetters ++ [_]).map DeadLetter.envelope).Perm before.accepted
    rw [List.map_append, List.append_nil, ← List.append_assoc]
    refine .trans (List.perm_append_singleton _ _) (.trans ?_ accounted.places)
    exact ((sound.envelopes_settle inHand).symm.append_right before.acked).append_right before.dead
  · rw [accepted_record_other _ rfl]
    exact accounted.accepted_nodup
  · rw [acked_record]
    exact accounted.succeeded_eq.trans (congrArg List.length (List.append_nil before.acked)).symm

/-- Every change keeps the tasks accounted for. -/
theorem Accounted.of_change (accounted : before.Accounted) (sound : before.Sound)
    (change : before.Change after) : after.Accounted := by
  cases change with
  | nothing => exact accounted
  | accept fresh published => exact accounted.accept sound fresh published
  | promote isOpen empty =>
    have frame := (sound.serving.promote_admitted before.now).frame
    exact accounted.of_eq sound.envelopes_promote rfl (congrArg (·.deadLetters.map (·.envelope)) frame)
      rfl (congrArg (·.succeeded) frame)
  | @handOut id line record isOpen first found =>
    have frame := (sound.serving.promote_admitted before.now).frame
    have held := Broker.envelopes_startFirst (before.broker.promote before.now) before.now id line
    exact accounted.of_eq (held.trans sound.envelopes_promote)
      ((acked_record _ _).trans (List.append_nil _))
      (congrArg (·.deadLetters.map (·.envelope)) frame) (accepted_record_other _ rfl)
      (congrArg (·.succeeded) frame)
  | acknowledge inHand => exact accounted.acknowledge sound inHand
  | @giveUp delivery record error kind inHand found last =>
    exact accounted.giveUp sound inHand record.attempts error kind
  | retry inHand found goesOn =>
    exact accounted.of_eq (Broker.envelopes_postponed _ before.now _ _)
      ((acked_record _ _).trans (List.append_nil _)) rfl (accepted_record_other _ rfl) rfl
  | abandon inHand => exact accounted.of_eq rfl rfl rfl rfl rfl
  | close => exact accounted.of_eq rfl rfl rfl rfl rfl
  | advance span => exact accounted.of_eq rfl rfl rfl rfl rfl

/-- What happens in a change happens to a task that is held, or to a new one. -/
theorem Sound.news (sound : before.Sound) (change : before.Change after) :
    ∃ events, after.history = before.history ++ events ∧ ∀ event ∈ events,
      event.envelope ∈ before.broker.envelopes ∨ event.accepted? = some event.envelope ∧
        event.envelope.id ∉ before.accepted.map (·.id) := by
  have quiet : before.history = before.history ++ [] := (List.append_nil _).symm
  cases change with
  | nothing => exact ⟨[], quiet, by simp⟩
  | accept fresh published =>
    refine ⟨[.accepted _], rfl, fun event member => ?_⟩
    rw [List.mem_singleton.1 member]
    exact .inr ⟨rfl, fresh⟩
  | promote isOpen empty => exact ⟨[], quiet, by simp⟩
  | @handOut id line record isOpen first found =>
    refine ⟨[.leased _], rfl, fun event member => .inl ?_⟩
    rw [List.mem_singleton.1 member, ← sound.envelopes_promote]
    change record.envelope ∈ (before.broker.promote before.now).envelopes
    exact List.mem_map_of_mem (Broker.find?_mem found)
  | acknowledge inHand =>
    refine ⟨[.acked _], rfl, fun event member => .inl ?_⟩
    rw [List.mem_singleton.1 member]
    exact sound.held_envelope inHand
  | giveUp inHand found last =>
    refine ⟨[.failed _ _ _ _], rfl, fun event member => .inl ?_⟩
    rw [List.mem_singleton.1 member]
    exact sound.held_envelope inHand
  | retry inHand found goesOn =>
    refine ⟨[.failed _ _ _ _], rfl, fun event member => .inl ?_⟩
    rw [List.mem_singleton.1 member]
    exact sound.held_envelope inHand
  | abandon inHand => exact ⟨[], quiet, by simp⟩
  | close => exact ⟨[], quiet, by simp⟩
  | advance span => exact ⟨[], quiet, by simp⟩

/-- The letters of tasks that were given up stay. -/
theorem Sound.letters_prefix (sound : before.Sound) (change : before.Change after) :
    before.broker.deadLetters <+: after.broker.deadLetters := by
  have promoted : (before.broker.promote before.now).deadLetters = before.broker.deadLetters :=
    congrArg (·.deadLetters) (sound.serving.promote_admitted before.now).frame
  cases change with
  | accept fresh published =>
    obtain ⟨-, rfl⟩ := Broker.publish_eq_ok published
    exact List.prefix_refl _
  | promote isOpen empty =>
    change _ <+: (before.broker.promote before.now).deadLetters
    exact promoted ▸ List.prefix_refl _
  | handOut isOpen first found =>
    change _ <+: (before.broker.promote before.now).deadLetters
    exact promoted ▸ List.prefix_refl _
  | giveUp inHand found last => exact List.prefix_append _ _
  | nothing | acknowledge | retry | abandon | close | advance => exact List.prefix_refl _

/-! ## Runs -/

/-- The tasks of every session that begins with a broker without tasks are accounted for. -/
theorem leads_accounted {policy : RetryPolicy} {now : Moment}
    (run : (start policy now).Leads session) : session.Accounted := by
  induction run with
  | refl => exact start_accounted policy now
  | tail earlier step accounted =>
    have sound := leads_sound earlier
    exact accounted.of_change sound (sound.change step)

/-- A task is nowhere twice, and where it is it has the envelope that was accepted. -/
theorem Accounted.envelope_eq (accounted : session.Accounted) (member : envelope ∈ session.accepted)
    {copy : Envelope} (kept : copy ∈ session.broker.envelopes ++ session.acked ++ session.dead)
    (same : copy.id = envelope.id) : copy = envelope :=
  List.inj_on_of_nodup_map accounted.accepted_nodup (accounted.places.mem_iff.1 kept) member same

/-- An accepted task is in exactly one place. -/
theorem Accounted.presence_eq (accounted : session.Accounted)
    (member : envelope ∈ session.accepted) : session.presence envelope.id = 1 := by
  have once : (session.accepted.map (·.id)).count envelope.id = 1 :=
    List.count_eq_one_of_mem accounted.accepted_nodup (List.mem_map_of_mem member)
  rw [← (accounted.places.map (·.id)).count_eq, List.map_append, List.map_append,
    List.count_append, List.count_append] at once
  exact once

/-- A settled task was accepted. -/
theorem Accounted.settled_accepted (accounted : session.Accounted)
    (settled : session.Settled envelope) : envelope ∈ session.accepted := by
  apply accounted.places.mem_iff.1
  rcases settled with acked | dead
  · exact List.mem_append_left _ (List.mem_append_right _ acked)
  · exact List.mem_append_right _ dead

/-- A settled task is not held. -/
theorem Accounted.settled_not_held (accounted : session.Accounted)
    (settled : session.Settled envelope) : envelope.id ∉ session.broker.taskIds := by
  intro held
  have once := accounted.presence_eq (accounted.settled_accepted settled)
  have inTasks := List.count_pos_iff.2 held
  unfold presence at once
  rcases settled with acked | dead
  · have inAcked := List.count_pos_iff.2 (List.mem_map_of_mem (f := (·.id)) acked)
    omega
  · have inDead := List.count_pos_iff.2 (List.mem_map_of_mem (f := (·.id)) dead)
    omega

/-- How a later session continues an earlier one. -/
structure Continues (before after : Session) : Prop where
  /-- More has happened, but to no task that was settled before. -/
  history : ∃ events, after.history = before.history ++ events ∧ ∀ event ∈ events,
    ∀ envelope, before.Settled envelope → event.envelope.id ≠ envelope.id
  /-- The letters of tasks that were given up stay. -/
  letters : before.broker.deadLetters <+: after.broker.deadLetters

/-- A session continues itself. -/
theorem Continues.refl (session : Session) : Continues session session where
  history := ⟨[], (List.append_nil _).symm, by simp⟩
  letters := List.prefix_refl _

/-- A settled task stays settled. -/
theorem Continues.settled (continues : Continues before after) (settled : before.Settled envelope) :
    after.Settled envelope := by
  obtain ⟨events, longer, -⟩ := continues.history
  rcases settled with acked | dead
  · refine .inl ?_
    unfold Session.acked
    rw [longer, List.filterMap_append]
    exact List.mem_append_left _ acked
  · exact .inr ((continues.letters.map (·.envelope)).subset dead)

/-- A session that continues a later one continues the earlier one too. -/
theorem Continues.trans {middle : Session} (first : Continues before middle)
    (second : Continues middle after) : Continues before after where
  history := by
    obtain ⟨events, longer, quiet⟩ := first.history
    obtain ⟨more, longest, quieter⟩ := second.history
    refine ⟨events ++ more, by rw [longest, longer, List.append_assoc], ?_⟩
    intro event member envelope settled
    rcases List.mem_append.1 member with early | late
    · exact quiet event early envelope settled
    · exact quieter event late envelope (first.settled settled)
  letters := first.letters.trans second.letters

/-- A changed session continues the one before. -/
theorem Accounted.continues (accounted : before.Accounted) (sound : before.Sound)
    (change : before.Change after) : Continues before after where
  history := by
    obtain ⟨events, longer, news⟩ := sound.news change
    refine ⟨events, longer, fun event member envelope settled same => ?_⟩
    rcases news event member with held | ⟨-, fresh⟩
    · apply accounted.settled_not_held settled
      rw [← same]
      exact List.mem_map_of_mem held
    · apply fresh
      rw [same]
      exact List.mem_map_of_mem (accounted.settled_accepted settled)
  letters := sound.letters_prefix change

/-- A session continues every session that leads to it. -/
theorem leads_continues {policy : RetryPolicy} {now : Moment}
    (run : (start policy now).Leads before) (later : before.Leads after) :
    Continues before after := by
  induction later with
  | refl => exact .refl before
  | @tail middle last earlier step continues =>
    have reached := run.trans earlier
    have sound := leads_sound reached
    exact continues.trans ((leads_accounted reached).continues sound (sound.change step))

/-- Whatever has happened has happened to accepted tasks with the envelopes that were accepted. -/
theorem leads_told {policy : RetryPolicy} {now : Moment}
    (run : (start policy now).Leads session) :
    ∀ event ∈ session.history, event.envelope ∈ session.accepted := by
  induction run with
  | refl => exact fun event member => absurd member (by simp [start])
  | @tail middle last earlier step told =>
    have sound := leads_sound earlier
    obtain ⟨events, longer, news⟩ := sound.news (sound.change step)
    have more : last.accepted = middle.accepted ++ events.filterMap (·.accepted?) := by
      unfold accepted
      rw [longer, List.filterMap_append]
    rw [longer, more]
    intro event member
    rw [List.mem_append]
    rcases List.mem_append.1 member with early | late
    · exact .inl (told event early)
    · rcases news event late with held | ⟨new, -⟩
      · have kept := List.mem_append_left middle.dead (List.mem_append_left middle.acked held)
        exact .inl ((leads_accounted earlier).places.mem_iff.1 kept)
      · exact .inr (List.mem_filterMap.2 ⟨event, late, new⟩)

/-- An open broker accepts what is published. -/
theorem accepted_publish (isOpen : session.broker.closed = false) (envelope : Envelope) :
    (session.perform (.publish envelope)).accepted = session.accepted ++ [envelope] := by
  simp only [perform, Broker.publish_of_open isOpen]
  exact accepted_record _ _

/-- A task is in hand as it was accepted. -/
theorem envelope_eq_of_held {policy : RetryPolicy} {begin : Moment}
    (run : (start policy begin).Leads session) {delivery : Delivery}
    (accepted : envelope ∈ session.accepted) (inHand : delivery ∈ session.held)
    (same : delivery.id = envelope.id) : delivery.envelope = envelope := by
  have held := (leads_sound run).held_envelope inHand
  exact (leads_accounted run).envelope_eq accepted
    (List.mem_append_left _ (List.mem_append_left _ held)) same

/-- What was published at an open broker stays accepted. -/
theorem mem_accepted_of_published {policy : RetryPolicy} {begin : Moment}
    (published : (start policy begin).Leads (before.perform (.publish envelope)))
    (isOpen : before.broker.closed = false)
    (later : (before.perform (.publish envelope)).Leads after) : envelope ∈ after.accepted := by
  obtain ⟨events, longer, -⟩ := (leads_continues published later).history
  unfold accepted
  rw [longer, List.filterMap_append]
  refine List.mem_append_left _ ?_
  change envelope ∈ (before.perform (.publish envelope)).accepted
  rw [accepted_publish isOpen envelope]
  exact List.mem_append_right _ (List.mem_singleton_self _)

/-- The counts tell every accepted task once. -/
theorem Accounted.counts_eq (accounted : session.Accounted) :
    session.broker.counts.queued + session.broker.counts.running +
      session.broker.counts.retryScheduled + session.broker.counts.succeeded +
      session.broker.counts.dead = session.accepted.length := by
  have all := accounted.places.length_eq
  rw [List.length_append, List.length_append, ← session.broker.counts_held] at all
  have letters : session.broker.counts.dead = session.dead.length := (List.length_map _).symm
  have succeeded : session.broker.counts.succeeded = session.acked.length := accounted.succeeded_eq
  omega

/-- What is true of an accepted task on the way from one session to a later one. -/
structure Keeps (before after : Session) (envelope : Envelope) : Prop where
  /-- The task is held, was acknowledged or was given up, and only one of these, and once. -/
  once : after.presence envelope.id = 1
  /-- The broker holds the task as it was published. -/
  held_eq : ∀ copy ∈ after.broker.envelopes, copy.id = envelope.id → copy = envelope
  /-- The task was handed out, acknowledged and given up as it was published. -/
  told_eq : ∀ event ∈ after.history, event.envelope.id = envelope.id → event.envelope = envelope
  /-- The letter of the task has it as it was published. -/
  letter_eq : ∀ letter ∈ after.broker.deadLetters, letter.envelope.id = envelope.id →
    letter.envelope = envelope
  /-- If the task was acknowledged, it stays so. -/
  acked_final : envelope ∈ before.acked → envelope ∈ after.acked
  /-- If the task was given up, its letter stays. -/
  letter_final : ∀ letter ∈ before.broker.deadLetters, letter.envelope = envelope →
    letter ∈ after.broker.deadLetters
  /-- Nothing happens to the task any more once it was acknowledged or given up. -/
  quiet : before.Settled envelope → ∀ event ∈ after.history.drop before.history.length,
    event.envelope.id ≠ envelope.id

/-- No task is lost or doubled, and the counts tell all of them. -/
theorem tasks_conserved {policy : RetryPolicy} {begin : Moment}
    (run : (start policy begin).Leads before) (later : before.Leads after) :
    (∀ envelope ∈ before.accepted, Keeps before after envelope) ∧
      after.broker.counts.succeeded = after.acked.length ∧
      after.broker.counts.queued + after.broker.counts.running +
        after.broker.counts.retryScheduled + after.broker.counts.succeeded +
        after.broker.counts.dead = after.accepted.length := by
  have accounted := leads_accounted (run.trans later)
  have continues := leads_continues run later
  obtain ⟨events, longer, quiet⟩ := continues.history
  refine ⟨fun envelope member => ?_, accounted.succeeded_eq, accounted.counts_eq⟩
  · have stays : envelope ∈ after.accepted := by
      unfold accepted
      rw [longer, List.filterMap_append]
      exact List.mem_append_left _ member
    exact {
      once := accounted.presence_eq stays
      held_eq := fun copy held => accounted.envelope_eq stays
        (List.mem_append_left _ (List.mem_append_left _ held))
      told_eq := fun event happened => List.inj_on_of_nodup_map accounted.accepted_nodup
        (leads_told (run.trans later) event happened) stays
      letter_eq := fun letter dead => accounted.envelope_eq stays
        (List.mem_append_right _ (List.mem_map_of_mem dead))
      acked_final := fun acked => by
        unfold Session.acked
        rw [longer, List.filterMap_append]
        exact List.mem_append_left _ acked
      letter_final := fun letter dead _ => continues.letters.subset dead
      quiet := fun settled event late => by
        rw [longer, List.drop_left] at late
        exact quiet event late envelope settled }

/-- Of two tasks one is acknowledged and one is given up. -/
def bothSettled : List Request :=
  [.publish (mail 1), .publish (mail 2), .lease, .lease, .ack ⟨mail 1, 1⟩,
    .fail ⟨mail 2, 1⟩ "refused" .permanent]

/-- Two settled tasks are kept while a third one comes and waits for its second attempt. -/
theorem tasks_conserved_bothSettled :
    (start .default 0).Leads ((start .default 0).run bothSettled) ∧
      ((start .default 0).run bothSettled).Leads
        (((start .default 0).run bothSettled).run
          [.publish (mail 3), .lease, .fail ⟨mail 3, 1⟩ "refused" .transient]) ∧
      (∀ envelope ∈ ((start .default 0).run bothSettled).accepted,
        Keeps ((start .default 0).run bothSettled) (((start .default 0).run bothSettled).run
          [.publish (mail 3), .lease, .fail ⟨mail 3, 1⟩ "refused" .transient]) envelope) ∧
      ((start .default 0).run bothSettled).accepted = [mail 1, mail 2] := by
  have run := machine.leads_run (start .default 0) bothSettled (by decide)
  have later := machine.leads_run ((start .default 0).run bothSettled)
    [.publish (mail 3), .lease, .fail ⟨mail 3, 1⟩ "refused" .transient] (by decide)
  exact ⟨run, later, (tasks_conserved run later).1, by decide⟩

end Session

end ReminderDispatch
