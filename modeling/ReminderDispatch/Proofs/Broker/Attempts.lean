import ReminderDispatch.Proofs.Broker.Conservation

/-!
# Attempts

A record counts how often its task was handed out. The count is told to the consumer, decides
whether a failure is the last one, and ends up in the letter of a task that was given up; in all
these places it is the number of times that the task was handed out until then, and it never exceeds
the limit of the policy.
-/

namespace ReminderDispatch

/-! ## Counts in a history -/

/-- How many attempts a task gets: at least one, whatever the policy says. -/
def RetryPolicy.attemptLimit (policy : RetryPolicy) : Nat := max 1 policy.maxAttempts

namespace Event

/-- The task was handed out. -/
def isLeaseOf (id : TaskId) : Event → Bool
  | leased delivery => delivery.id = id
  | accepted _ | acked _ | failed _ _ _ _ => false

/-- The error of a failed attempt of the task. -/
def errorOf? (id : TaskId) : Event → Option String
  | failed delivery error _ _ => if delivery.id = id then some error else none
  | accepted _ | leased _ | acked _ => none

/-- The letter of a task that was given up, if that is what happened. -/
def letter? : Event → Option DeadLetter
  | failed delivery error _ .deadLettered => some ⟨delivery.envelope, delivery.attempt, error⟩
  | failed _ _ _ (.retryScheduled _) | accepted _ | leased _ | acked _ => none

end Event

variable {events more : List Event} {event : Event} {id : TaskId} {policy : RetryPolicy}
  {attempt : Nat}

/-- How often a task was handed out. -/
def leasesIn (events : List Event) (id : TaskId) : Nat := events.countP (·.isLeaseOf id)

/-- The error of the last failed attempt of a task. -/
def lastError? (events : List Event) (id : TaskId) : Option String :=
  (events.filterMap (·.errorOf? id)).getLast?

/-- Only what happens to a task is a lease of it. -/
theorem Event.isLeaseOf_of_ne (other : event.envelope.id ≠ id) : event.isLeaseOf id = false := by
  cases event with
  | leased delivery => exact decide_eq_false other
  | accepted | acked | failed => rfl

/-- Only what happens to a task is a failure of it. -/
theorem Event.errorOf?_of_ne (other : event.envelope.id ≠ id) : event.errorOf? id = none := by
  cases event with
  | failed delivery error kind verdict => exact if_neg other
  | accepted | leased | acked => rfl

/-- What happens to other tasks does not count. -/
theorem leasesIn_append_of_ne (others : ∀ event ∈ more, event.envelope.id ≠ id) :
    leasesIn (events ++ more) id = leasesIn events id := by
  have none : more.countP (·.isLeaseOf id) = 0 := by
    rw [List.countP_eq_zero]
    intro event member
    simp [Event.isLeaseOf_of_ne (others event member)]
  unfold leasesIn
  rw [List.countP_append, none, Nat.add_zero]

/-- What happens to other tasks leaves the last error of a task. -/
theorem lastError?_append_of_ne (others : ∀ event ∈ more, event.envelope.id ≠ id) :
    lastError? (events ++ more) id = lastError? events id := by
  have none : more.filterMap (·.errorOf? id) = [] :=
    List.filterMap_eq_nil_iff.2 fun event member => Event.errorOf?_of_ne (others event member)
  unfold lastError?
  rw [List.filterMap_append, none, List.append_nil]

/-- A task counts one more time when it is handed out. -/
theorem leasesIn_leased (events : List Event) (delivery : Delivery) :
    leasesIn (events ++ [.leased delivery]) delivery.id = leasesIn events delivery.id + 1 := by
  unfold leasesIn
  rw [List.countP_append, List.countP_singleton, Event.isLeaseOf, decide_eq_true rfl]
  rfl

/-- Other events than leases do not count. -/
theorem leasesIn_append_other (events : List Event) (other : ∀ id, event.isLeaseOf id = false) :
    leasesIn (events ++ [event]) = leasesIn events := by
  funext id
  unfold leasesIn
  rw [List.countP_append, List.countP_singleton, other id]
  rfl

/-- The error of a failure is the last one right after it. -/
theorem lastError?_failed (events : List Event) (delivery : Delivery) (error : String)
    (kind : FailureKind) (verdict : Verdict) :
    lastError? (events ++ [.failed delivery error kind verdict]) delivery.id = some error := by
  unfold lastError?
  rw [List.filterMap_append]
  simp [Event.errorOf?]

/-- No attempt is left exactly from the limit on. -/
theorem RetryPolicy.isExhausted_iff (begun : 0 < attempt) :
    policy.isExhausted attempt = true ↔ policy.attemptLimit ≤ attempt := by
  unfold isExhausted attemptLimit
  rw [decide_eq_true_eq]
  omega

/-! ## Counts in records -/

namespace Broker

variable {broker : Broker} {lookup : TaskId → Option TaskRecord} {limit : Nat}
  {count next : TaskId → Nat} {record : TaskRecord} {entry : Option TaskRecord} {now : Moment}

/-- The record of a task knows how often the task was handed out. This is within the limit, and below
it unless the last attempt is going on. -/
structure Fits (limit : Nat) (count : Nat) (record : TaskRecord) : Prop where
  /-- The record counts all attempts. -/
  attempts_eq : record.attempts = count
  /-- There are no more attempts than allowed. -/
  within : record.attempts ≤ limit
  /-- A task that will be handed out has an attempt left. -/
  left : record.state ≠ .running → record.attempts < limit
  /-- A task that is worked on was handed out. -/
  begun : record.state = .running → 0 < record.attempts

/-- All records know how often their tasks were handed out. -/
def Tallied (limit : Nat) (count : TaskId → Nat) (lookup : TaskId → Option TaskRecord) : Prop :=
  ∀ id record, lookup id = some record → Fits limit (count id) record

/-- One record changes, and at most the count of its task with it. -/
theorem Tallied.update (tallied : Tallied limit count lookup)
    (others : ∀ other, other ≠ id → next other = count other)
    (fits : ∀ record, entry = some record → Fits limit (next id) record) :
    Tallied limit next (Function.update lookup id entry) := by
  intro other record found
  by_cases same : other = id
  · rw [same, Function.update_self] at found
    exact same ▸ fits record found
  · rw [Function.update_of_ne same] at found
    rw [others other same]
    exact tallied other record found

/-- A settled task is not counted any more. -/
theorem Tallied.drop (tallied : Tallied limit count lookup) :
    Tallied limit count (Function.update lookup id none) :=
  tallied.update (fun _ _ => rfl) fun _ impossible => by contradiction

/-- The tasks that join the line have an attempt left. -/
theorem Tallied.promote (tallied : Tallied limit count broker.find?)
    (consistent : broker.Consistent) (now : Moment) :
    Tallied limit count (broker.promote now).find? := by
  intro id record found
  rw [(consistent.promote_admitted now).find?_eq id] at found
  by_cases isDue : id ∈ (broker.dueTasks now).map (·.id)
  · rw [if_pos isDue] at found
    obtain ⟨earlier, wasFound, rfl⟩ := Option.map_eq_some_iff.1 found
    have fits := tallied id earlier wasFound
    have scheduled : id ∈ broker.scheduled.map (·.id) := by
      rw [← dueTasks_append broker now, List.map_append]
      exact List.mem_append_left _ isDue
    have state := (consistent.agree.mem_scheduled id).1 scheduled
    have known : broker.find? id = some earlier := wasFound
    rw [known] at state
    have waits : earlier.state = .retryScheduled := Option.some.inj state
    exact {
      attempts_eq := fits.attempts_eq
      within := fits.within
      left := fun _ => fits.left (by simp [waits])
      begun := fun running => by simp [TaskRecord.requeue] at running }
  · rw [if_neg isDue] at found
    exact tallied id record found

/-- A queued task that is handed out counts one more time. -/
theorem Fits.startAttempt {count : Nat} (fits : Fits limit count record)
    (queued : record.state = .queued) (now : Moment) :
    Fits limit (count + 1) (record.startAttempt now) where
  attempts_eq := congrArg (· + 1) fits.attempts_eq
  within := fits.left (by simp [queued])
  left running := absurd rfl running
  begun _ := Nat.succ_pos _

/-- A task whose failure is not the last one has an attempt left. -/
theorem Fits.scheduleRetry {count : Nat} (fits : Fits broker.policy.attemptLimit count record)
    {kind : FailureKind} (goesOn : ¬ broker.IsLast record kind) (now due : Moment)
    (error : String) :
    Fits broker.policy.attemptLimit count (record.scheduleRetry now due error) where
  attempts_eq := fits.attempts_eq
  within := fits.within
  left _ := by
    have isLeft : ¬ broker.policy.maxAttempts ≤ record.attempts := by
      simpa [IsLast, RetryPolicy.isExhausted] using fun last => goesOn (.inr last)
    exact Nat.lt_of_lt_of_le (Nat.lt_of_not_le isLeft) (Nat.le_max_right _ _)
  begun running := by simp [TaskRecord.scheduleRetry] at running

end Broker

namespace Broker

variable {broker : Broker} {delivery : Delivery} {record : TaskRecord} {kind : FailureKind}

/-- What the broker decides about a failed attempt, if it knows the task. -/
def verdict? (broker : Broker) (now : Moment) (delivery : Delivery) (error : String)
    (kind : FailureKind) : Option Verdict :=
  (broker.fail now delivery error kind).toOption.map (·.1)

/-- What the broker decides about the failure of a delivery in hand: another attempt follows exactly
when the failure is transient and the attempt is below the limit. -/
structure Judges (broker : Broker) (policy : RetryPolicy) (delivery : Delivery) : Prop where
  /-- A transient failure is the last one when it is that of the last attempt. -/
  transient_eq : ∀ now error, broker.verdict? now delivery error .transient =
    some (if delivery.attempt < policy.attemptLimit then
      .retryScheduled (policy.nextDelay delivery.attempt) else .deadLettered)
  /-- A permanent failure is always the last one. -/
  permanent_eq : ∀ now error, broker.verdict? now delivery error .permanent = some .deadLettered

/-- A failure is judged by its kind and by the number of the attempt. -/
theorem judges (found : broker.find? delivery.id = some record) (begun : 0 < record.attempts)
    (attempt : record.attempts = delivery.attempt) :
    broker.Judges broker.policy delivery where
  transient_eq now error := by
    have last : broker.IsLast record .transient ↔
        ¬ delivery.attempt < broker.policy.attemptLimit := by
      rw [← attempt, not_lt, ← RetryPolicy.isExhausted_iff begun]
      simp [IsLast, FailureKind.allowsRetry]
    unfold verdict?
    by_cases below : delivery.attempt < broker.policy.attemptLimit
    · have goesOn : ¬ broker.IsLast record .transient := fun isLast => last.1 isLast below
      rw [fail_eq_retry found goesOn, if_pos below, attempt]
      rfl
    · rw [fail_eq_dead found (last.2 below), if_neg below]
      rfl
  permanent_eq now error := by
    unfold verdict?
    rw [fail_eq_dead found (.inl rfl)]
    rfl

end Broker

/-! ## Counts in a session -/

namespace Session

variable {session before after : Session} {limit : Nat} {history : List Event}
  {letter : DeadLetter}

/-- The deliveries of every task are numbered from 1 in the order in which they were handed out, and
no number exceeds the limit. -/
def Numbered (limit : Nat) (history : List Event) : Prop :=
  ∀ front delivery back, history = front ++ .leased delivery :: back →
    delivery.attempt = leasesIn front delivery.id + 1 ∧ delivery.attempt ≤ limit

/-- A letter tells how often its task was handed out, and the error of the last failed attempt. -/
structure Tells (history : List Event) (letter : DeadLetter) : Prop where
  /-- The letter has the number of attempts. -/
  attempts_eq : letter.attempts = leasesIn history letter.envelope.id
  /-- The letter has the last error. -/
  error_eq : lastError? history letter.envelope.id = some letter.error

/-- All attempts of a session are counted. -/
structure Counted (policy : RetryPolicy) (session : Session) : Prop where
  /-- The broker has the policy. -/
  policy_eq : session.broker.policy = policy
  /-- The records know the attempts of their tasks. -/
  tallied : Broker.Tallied policy.attemptLimit (leasesIn session.history) session.broker.find?
  /-- The deliveries are numbered. -/
  numbered : Numbered policy.attemptLimit session.history
  /-- There is one letter for each task that was given up, in the order of these events. -/
  letters_eq : session.broker.deadLetters = session.history.filterMap (·.letter?)
  /-- The letters know the attempts of their tasks. -/
  letters_tell : ∀ letter ∈ session.broker.deadLetters, Tells session.history letter

/-- One more event keeps the deliveries numbered, if it has the right number when it is one. -/
theorem Numbered.append (numbered : Numbered limit history) {event : Event}
    (next : ∀ delivery, event = .leased delivery →
      delivery.attempt = leasesIn history delivery.id + 1 ∧ delivery.attempt ≤ limit) :
    Numbered limit (history ++ [event]) := by
  intro front delivery back split
  rcases append_cons_eq_concat split with ⟨rfl, isLast, -⟩ | ⟨more, earlier, -⟩
  · exact next delivery isLast
  · exact numbered front delivery more earlier

/-- A letter tells no less when more has happened to other tasks. -/
theorem Tells.continues (continues : Continues before after)
    (sent : letter ∈ before.broker.deadLetters) (tells : Tells before.history letter) :
    Tells after.history letter := by
  obtain ⟨events, longer, quiet⟩ := continues.history
  have settled : before.Settled letter.envelope := .inr (List.mem_map_of_mem sent)
  have others : ∀ event ∈ events, event.envelope.id ≠ letter.envelope.id :=
    fun event member => quiet event member _ settled
  rw [longer]
  exact {
    attempts_eq := tells.attempts_eq.trans (leasesIn_append_of_ne others).symm
    error_eq := (lastError?_append_of_ne others).trans tells.error_eq }

/-- A session starts with nothing to count. -/
theorem start_counted (policy : RetryPolicy) (now : Moment) :
    (start policy now).Counted policy where
  policy_eq := rfl
  tallied := by simp [Broker.Tallied, start, Broker.new, Broker.find?]
  numbered := by simp [Numbered, start]
  letters_eq := rfl
  letters_tell := by simp [start, Broker.new]

/-- No request changes the policy of the broker. -/
theorem Sound.policy_eq (sound : before.Sound) (change : before.Change after) :
    after.broker.policy = before.broker.policy := by
  have promoted : (before.broker.promote before.now).policy = before.broker.policy := by
    rw [(sound.serving.promote_admitted before.now).frame]
  cases change with
  | accept fresh published =>
    obtain ⟨-, stored⟩ := Broker.publish_eq_ok published
    exact congrArg (·.policy) stored
  | promote | handOut => exact promoted
  | nothing | acknowledge | giveUp | retry | abandon | close | advance => rfl

/-- A task that was never accepted was never handed out. -/
theorem leasesIn_of_fresh {id : TaskId} (fresh : id ∉ session.accepted.map (·.id))
    (told : ∀ event ∈ session.history, event.envelope ∈ session.accepted) :
    leasesIn session.history id = 0 := by
  unfold leasesIn
  rw [List.countP_eq_zero]
  intro event happened
  have other : event.envelope.id ≠ id :=
    ne_of_mem_of_not_mem (List.mem_map_of_mem (told event happened)) fresh
  simp [Event.isLeaseOf_of_ne other]

/-- The first task of the line has an attempt left, and its record knows how many it had. -/
theorem Counted.first_fits (counted : before.Counted policy) (sound : before.Sound) {id : TaskId}
    {line : List TaskId} {record : TaskRecord}
    (first : (before.broker.promote before.now).ready = id :: line)
    (found : (before.broker.promote before.now).find? id = some record) :
    Broker.Fits policy.attemptLimit (leasesIn before.history id + 1)
      (record.startAttempt before.now) := by
  have consistent := sound.serving.toConsistent
  obtain ⟨queued, foundQueued, state⟩ := (consistent.promote before.now).first_queued first
  rw [found] at foundQueued
  have fits := counted.tallied.promote consistent before.now id record found
  exact fits.startAttempt (Option.some.inj foundQueued ▸ state) before.now

/-- Every change keeps the records right about the attempts. -/
theorem Counted.tallied_of_change (counted : before.Counted policy) (sound : before.Sound)
    (told : ∀ event ∈ before.history, event.envelope ∈ before.accepted)
    (change : before.Change after) :
    Broker.Tallied policy.attemptLimit (leasesIn after.history) after.broker.find? := by
  cases change with
  | nothing | abandon | close | advance => exact counted.tallied
  | @accept envelope broker fresh published =>
    change Broker.Tallied policy.attemptLimit
      (leasesIn (before.history ++ [.accepted envelope])) broker.find?
    rw [leasesIn_append_other _ fun _ => rfl, Broker.find?_publish published]
    refine counted.tallied.update (fun _ _ => rfl) fun record isNew => ?_
    rw [← Option.some.inj isNew, leasesIn_of_fresh fresh told]
    have allowed : 0 < policy.attemptLimit := Nat.lt_of_lt_of_le Nat.one_pos (Nat.le_max_left _ _)
    exact ⟨rfl, Nat.zero_le _, fun _ => allowed, fun running => by simp [TaskRecord.new] at running⟩
  | promote isOpen empty => exact counted.tallied.promote sound.serving.toConsistent before.now
  | @handOut id line record isOpen first found =>
    have owner : record.id = id := Broker.find?_id found
    change Broker.Tallied policy.attemptLimit
      (leasesIn (before.history ++ [.leased (record.startAttempt before.now).delivery]))
      ((before.broker.promote before.now).startFirst before.now id line).find?
    rw [Broker.find?_startFirst before.now line found]
    have promoted := counted.tallied.promote sound.serving.toConsistent before.now
    refine promoted.update (fun other different => leasesIn_append_of_ne fun event member => ?_)
      fun running isNew => ?_
    · rw [List.mem_singleton.1 member]
      exact fun same => different (same.symm.trans owner)
    · have count := leasesIn_leased before.history (record.startAttempt before.now).delivery
      rw [← Option.some.inj isNew]
      have same : (record.startAttempt before.now).delivery.id = id := owner
      rw [same] at count
      exact count ▸ counted.first_fits sound first found
  | @acknowledge delivery inHand =>
    change Broker.Tallied policy.attemptLimit (leasesIn (before.history ++ [.acked delivery]))
      (before.broker.drop delivery.id).find?
    rw [leasesIn_append_other _ fun _ => rfl, Broker.find?_drop]
    exact counted.tallied.drop
  | @giveUp delivery record error kind inHand found last =>
    change Broker.Tallied policy.attemptLimit
      (leasesIn (before.history ++ [.failed delivery error kind .deadLettered]))
      (before.broker.drop delivery.id).find?
    rw [leasesIn_append_other _ fun _ => rfl, Broker.find?_drop]
    exact counted.tallied.drop
  | @retry delivery record error kind inHand found goesOn =>
    have owner : record.id = delivery.id := Broker.find?_id found
    have known : before.broker.find? record.id = some record := owner ▸ found
    change Broker.Tallied policy.attemptLimit
      (leasesIn (before.history ++ [.failed delivery error kind _]))
      (before.broker.update record.id (·.scheduleRetry before.now _ error)).find?
    rw [leasesIn_append_other _ fun _ => rfl,
      Broker.find?_update_of_found (Broker.scheduleRetry_envelope before.now _ error) known]
    refine counted.tallied.update (fun _ _ => rfl) fun waiting isNew => ?_
    have fits := counted.tallied record.id record known
    rw [← counted.policy_eq] at fits ⊢
    exact Option.some.inj isNew ▸ fits.scheduleRetry goesOn before.now _ error

/-- Every change keeps the deliveries numbered. -/
theorem Counted.numbered_of_change (counted : before.Counted policy) (sound : before.Sound)
    (change : before.Change after) : Numbered policy.attemptLimit after.history := by
  cases change with
  | nothing | promote | abandon | close | advance => exact counted.numbered
  | accept | acknowledge | giveUp | retry =>
    exact counted.numbered.append fun _ other => by cases other
  | @handOut id line record isOpen first found =>
    have isOwner : record.id = id := Broker.find?_id found
    have owner : (record.startAttempt before.now).delivery.id = id := isOwner
    have fits := counted.first_fits sound first found
    refine counted.numbered.append fun delivery isNew => ?_
    rw [← Event.leased.inj isNew, owner]
    exact ⟨fits.attempts_eq, fits.within⟩

/-- A delivery in hand has the number of attempts in the record of its task. -/
theorem Sound.attempt_eq (sound : session.Sound) {delivery : Delivery} {record : TaskRecord}
    (inHand : delivery ∈ session.held) (found : session.broker.find? delivery.id = some record) :
    record.attempts = delivery.attempt := by
  obtain ⟨running, foundRunning, -, same⟩ := sound.serving.running delivery inHand
  rw [found] at foundRunning
  rw [← same, Option.some.inj foundRunning]
  rfl

/-- A letter is added to the others when its task is given up. -/
theorem Counted.letters_append (counted : before.Counted policy) (event : Event) :
    before.broker.deadLetters ++ event.letter?.toList =
      (before.history ++ [event]).filterMap (·.letter?) := by
  rw [List.filterMap_append, ← counted.letters_eq]
  cases isLetter : event.letter? <;> simp [isLetter]

/-- A change that gives up a task adds its letter, and no other change adds one. -/
theorem Counted.letters_eq_of_change (counted : before.Counted policy) (sound : before.Sound)
    (change : before.Change after) :
    after.broker.deadLetters = after.history.filterMap (·.letter?) := by
  have quiet : ∀ event : Event, event.letter? = none →
      before.broker.deadLetters = (before.history ++ [event]).filterMap (·.letter?) := by
    intro event none
    rw [← counted.letters_append event, none, Option.toList_none, List.append_nil]
  have promoted : (before.broker.promote before.now).deadLetters = before.broker.deadLetters :=
    congrArg (·.deadLetters) (sound.serving.promote_admitted before.now).frame
  cases change with
  | nothing | abandon | close | advance => exact counted.letters_eq
  | accept fresh published =>
    obtain ⟨-, rfl⟩ := Broker.publish_eq_ok published
    exact quiet _ rfl
  | promote isOpen empty => exact promoted.trans counted.letters_eq
  | handOut isOpen first found => exact promoted.trans (quiet _ rfl)
  | acknowledge | retry => exact quiet _ rfl
  | @giveUp delivery record error kind inHand found last =>
    change before.broker.deadLetters ++ [⟨delivery.envelope, record.attempts, error⟩] =
      (before.history ++ [Event.failed delivery error kind .deadLettered]).filterMap (·.letter?)
    rw [sound.attempt_eq inHand found]
    exact counted.letters_append (.failed delivery error kind .deadLettered)

/-- A letter that a change adds tells the attempts of its task. -/
theorem Counted.tells_of_change (counted : before.Counted policy) (sound : before.Sound)
    (continues : Continues before after) (change : before.Change after) :
    ∀ letter ∈ after.broker.deadLetters, Tells after.history letter := by
  have kept : ∀ letter ∈ before.broker.deadLetters, Tells after.history letter :=
    fun letter sent => (counted.letters_tell letter sent).continues continues sent
  have promoted : (before.broker.promote before.now).deadLetters = before.broker.deadLetters :=
    congrArg (·.deadLetters) (sound.serving.promote_admitted before.now).frame
  cases change with
  | nothing | acknowledge | retry | abandon | close | advance => exact kept
  | accept fresh published =>
    obtain ⟨-, rfl⟩ := Broker.publish_eq_ok published
    exact kept
  | promote isOpen empty => exact fun letter sent => kept letter (promoted ▸ sent)
  | handOut isOpen first found => exact fun letter sent => kept letter (promoted ▸ sent)
  | @giveUp delivery record error kind inHand found last =>
    intro letter sent
    rcases List.mem_append.1 sent with earlier | new
    · exact kept letter earlier
    · rw [List.mem_singleton.1 new]
      have fits := counted.tallied delivery.id record found
      have uncounted : leasesIn (before.history ++ [Event.failed delivery error kind .deadLettered]) =
          leasesIn before.history := leasesIn_append_other _ fun _ => rfl
      exact {
        attempts_eq := fits.attempts_eq.trans (congrFun uncounted delivery.id).symm
        error_eq := lastError?_failed before.history delivery error kind .deadLettered }

/-- Every change keeps all attempts counted. -/
theorem Counted.of_change (counted : before.Counted policy) (sound : before.Sound)
    (accounted : before.Accounted)
    (told : ∀ event ∈ before.history, event.envelope ∈ before.accepted)
    (change : before.Change after) : after.Counted policy where
  policy_eq := (sound.policy_eq change).trans counted.policy_eq
  tallied := counted.tallied_of_change sound told change
  numbered := counted.numbered_of_change sound change
  letters_eq := counted.letters_eq_of_change sound change
  letters_tell := counted.tells_of_change sound (accounted.continues sound change) change

/-- All attempts of every session that begins with a broker without tasks are counted. -/
theorem leads_counted {policy : RetryPolicy} {now : Moment}
    (run : (start policy now).Leads session) : session.Counted policy := by
  induction run with
  | refl => exact start_counted policy now
  | tail earlier step counted =>
    have sound := leads_sound earlier
    exact counted.of_change sound (leads_accounted earlier) (leads_told earlier) (sound.change step)

/-- A delivery in hand has the number of times that its task was handed out, and this number decides
about its failure. -/
theorem Counted.held (counted : session.Counted policy) (sound : session.Sound)
    {delivery : Delivery} (inHand : delivery ∈ session.held) :
    delivery.attempt = leasesIn session.history delivery.id ∧
      delivery.attempt ≤ policy.attemptLimit ∧ session.broker.Judges policy delivery := by
  obtain ⟨record, found, running, -⟩ := sound.serving.running delivery inHand
  have attempt := sound.attempt_eq inHand found
  have fits := counted.tallied delivery.id record found
  refine ⟨attempt ▸ fits.attempts_eq, attempt ▸ fits.within, ?_⟩
  rw [← counted.policy_eq]
  exact Broker.judges found (fits.begun running) attempt

/-- What is told about the attempts of the tasks on the way from one session to a later one is what
happened. -/
structure AttemptsTold (policy : RetryPolicy) (before after : Session) : Prop where
  /-- The deliveries of a task are numbered from 1, up to the limit. -/
  numbered : Numbered policy.attemptLimit after.history
  /-- No record counts more attempts than allowed, nor more than fit into 32 bits. -/
  within : ∀ id record, after.broker.find? id = some record →
    record.attempts ≤ policy.attemptLimit ∧
      (policy.maxAttempts < UInt32.size → record.attempts < UInt32.size)
  /-- A delivery in hand has the number of times that its task was handed out. -/
  held_eq : ∀ delivery ∈ after.held, delivery.attempt = leasesIn after.history delivery.id ∧
    delivery.attempt ≤ policy.attemptLimit
  /-- The number of a delivery in hand decides about its failure. -/
  judges : ∀ delivery ∈ after.held, after.broker.Judges policy delivery
  /-- A letter has the number of times that its task was handed out, and the last error. -/
  letters_tell : ∀ letter ∈ after.broker.deadLetters, Tells after.history letter
  /-- The letters are in the order in which the tasks were given up. -/
  letters_eq : after.broker.deadLetters = after.history.filterMap (·.letter?)
  /-- The letters stay. -/
  letters_prefix : before.broker.deadLetters <+: after.broker.deadLetters

/-- Every attempt is counted once, up to the limit, and what the broker tells about the attempts of
a task or decides by their number is right in every session. -/
theorem attempts_told {policy : RetryPolicy} {begin : Moment}
    (run : (start policy begin).Leads before) (later : before.Leads after) :
    AttemptsTold policy before after := by
  have sound := leads_sound (run.trans later)
  have counted := leads_counted (run.trans later)
  exact {
    numbered := counted.numbered
    within := fun id record found => by
      have within := (counted.tallied id record found).within
      refine ⟨within, fun fits => within.trans_lt ?_⟩
      exact Nat.max_lt.2 ⟨by decide, fits⟩
    held_eq := fun delivery inHand =>
      have held := counted.held sound inHand
      ⟨held.1, held.2.1⟩
    judges := fun delivery inHand => (counted.held sound inHand).2.2
    letters_tell := counted.letters_tell
    letters_eq := counted.letters_eq
    letters_prefix := (leads_continues run later).letters }

/-- The first of two attempts of a task has failed. -/
def onceRefused : Session :=
  (start (.new 2 (.ofSeconds 1)) 0).run
    [.publish (mail 1), .lease, .fail ⟨mail 1, 1⟩ "refused" .transient]

/-- The second attempt has failed too, while another task is worked on. -/
def twiceRefused : Session :=
  onceRefused.run
    [.publish (mail 2), .advance (.ofSeconds 2), .lease, .lease,
      .fail ⟨mail 1, 2⟩ "refused again" .transient]

/-- One task was given up after two attempts, and another one is in its first attempt. -/
theorem attempts_told_twiceRefused :
    (start (.new 2 (.ofSeconds 1)) 0).Leads onceRefused ∧ onceRefused.Leads twiceRefused ∧
      AttemptsTold (.new 2 (.ofSeconds 1)) onceRefused twiceRefused ∧
      twiceRefused.broker.deadLetters = [⟨mail 1, 2, "refused again"⟩] ∧
      twiceRefused.held = [⟨mail 2, 1⟩] := by
  have run : (start (.new 2 (.ofSeconds 1)) 0).Leads onceRefused :=
    machine.leads_run _ _ (by decide +kernel)
  have later : onceRefused.Leads twiceRefused := machine.leads_run _ _ (by decide +kernel)
  exact ⟨run, later, attempts_told run later, by decide +kernel, by decide +kernel⟩

end Session

end ReminderDispatch
