import ReminderDispatch.Proofs.Pipeline.Effects
import ReminderDispatch.Proofs.Pipeline.Routing

/-!
# One effect for each acknowledged task

In every state of every pipeline the notifications and mails are those of the tasks that were
acknowledged, one for each, and of those whose handler has returned while the acknowledgement is yet
to come. A task that was given up has had no effect.
-/

namespace ReminderDispatch.Pipeline

open scoped List

variable {line after : Pipeline} {limit : Duration} {number : Nat} {worker : Workman}

/-- The ledger balances, and the scans are scans. -/
structure Kept (limit : Duration) (line : Pipeline) : Prop where
  /-- The ledger balances. -/
  balances : line.ledger.Balances limit line.shared line.now line.crew
  /-- The scans make the calls that scans make. -/
  scans_use : ∀ scan ∈ line.scans, scan.Uses Call.IsOfScan

/-! ## One event -/

/-- The worker with a number can be taken for the first one. -/
theorem crew_perm (found : line.workers[number]? = some worker) :
    line.crew ~ worker :: (line.workers.eraseIdx number ++ line.fallen) :=
  (perm_cons_eraseIdx found).append_right line.fallen

/-- The worker that was put in the place of another one can be taken for the first one. -/
theorem crew_set (found : line.workers[number]? = some worker) (next : Workman) :
    next :: (line.workers.eraseIdx number ++ line.fallen) ~
      line.workers.set number next ++ line.fallen :=
  ((set_perm_cons_eraseIdx found next).append_right line.fallen).symm

/-- The rest of a scan makes the calls that scans make. -/
theorem Kept.scans_set (kept : line.Kept limit) {scan : RunningScan}
    (uses : scan.Uses Call.IsOfScan) (number : Nat) :
    ∀ other ∈ line.scans.set number scan, other.Uses Call.IsOfScan := by
  intro other member
  rcases List.mem_or_eq_of_mem_set member with earlier | rfl
  · exact kept.scans_use other earlier
  · exact uses

/-- A scan begins. -/
theorem Kept.tick (kept : line.Kept limit) (scanner : Scanner) (time : Instant) :
    { line with scans := line.scans ++ [scanner.scan time] }.Kept limit where
  balances := kept.balances
  scans_use scan member := by
    rcases List.mem_append.1 member with earlier | new
    · exact kept.scans_use scan earlier
    · rw [List.mem_singleton.1 new]
      exact scanner.scan_uses time

/-- A scan is answered by the collaborators. -/
theorem Kept.answer (kept : line.Kept limit) {reading : Reading} (onTime : reading.now = line.now)
    (isNew : reading.id ∉ line.ledger.accepted.map (·.id)) (number : Nat) :
    (line.answer number reading).Kept limit := by
  unfold Pipeline.answer
  cases found : line.scans[number]? with
  | none => exact kept
  | some scan =>
    have uses := kept.scans_use scan (List.mem_of_getElem? found)
    cases scan with
    | done outcome => exact kept
    | ask call limit next =>
      rcases answered : line.shared.answer reading call with ⟨_ | reply, shared⟩
      · obtain rfl := Collaborators.answer_none answered
        simp only [answered]
        exact kept
      · simp only [answered]
        exact ⟨kept.balances.answer uses.1 onTime isNew answered, kept.scans_set (uses.2 _) number⟩

/-- A scan is answered by somebody else. -/
theorem Kept.divert (kept : line.Kept limit) (number : Nat)
    (reply : (call : Call) → Option call.Reply) : (line.divert number reply).Kept limit := by
  unfold Pipeline.divert
  cases found : line.scans[number]? with
  | none => exact kept
  | some scan =>
    have uses := kept.scans_use scan (List.mem_of_getElem? found)
    cases scan with
    | done outcome => exact kept
    | ask call limit next => exact ⟨kept.balances, kept.scans_set (uses.2 _) number⟩

/-- Somebody else publishes a task. -/
theorem Kept.publish (kept : line.Kept limit) {envelope : Envelope}
    (isNew : envelope.id ∉ line.ledger.accepted.map (·.id)) :
    (line.publish envelope).Kept limit := by
  unfold Pipeline.publish
  rcases published : line.shared.exchange.publish line.now envelope with ⟨failure | woken, exchange⟩
  · obtain rfl := Exchange.publish_refused published
    exact kept
  · exact ⟨kept.balances.publish isNew published, kept.scans_use⟩

/-- A worker breaks off. -/
theorem Kept.fall (kept : line.Kept limit) (number : Nat) : (line.fall number).Kept limit := by
  unfold Pipeline.fall
  cases found : line.workers[number]? with
  | none => exact kept
  | some worker =>
    have fallen := (kept.balances.perm (crew_perm found)).fall
    have moved : worker :: (line.workers.eraseIdx number ++ line.fallen) ~
        line.workers.eraseIdx number ++ worker :: line.fallen := List.perm_middle.symm
    have placed := (set_perm_cons_eraseIdx found .crashed).append_right (worker :: line.fallen)
    exact ⟨fallen.perm ((moved.cons _).trans placed.symm), kept.scans_use⟩

/-- A worker takes a turn. -/
theorem Kept.turn (kept : line.Kept limit) {reading : Reading} (onTime : reading.now = line.now)
    (number : Nat) : (line.turn number reading).Kept limit := by
  unfold Pipeline.turn
  cases found : line.workers[number]? with
  | none => exact kept
  | some worker =>
    rcases turned : worker.turn line.shared reading number with ⟨_ | next, shared⟩
    · obtain rfl := Workman.turn_none turned
      simp only [turned]
      exact kept.fall number
    · have balances := (kept.balances.perm (crew_perm found)).turn turned onTime
      simp only [turned]
      exact ⟨balances.perm (crew_set found next), kept.scans_use⟩

/-- A worker goes on without an answer. -/
theorem Kept.expire (kept : line.Kept limit) (number : Nat) :
    (line.expire number).Kept limit := by
  unfold Pipeline.expire
  cases found : line.workers[number]? with
  | none => exact kept
  | some worker =>
    obtain ⟨nothing, expired⟩ := (kept.balances.perm (crew_perm found)).expire
    refine ⟨?_, kept.scans_use⟩
    dsimp only
    rw [nothing, List.append_nil]
    exact expired.perm (crew_set found _)

/-- A worker hears the signal to stop. -/
theorem Kept.heed (kept : line.Kept limit) (number : Nat) : (line.heed number).Kept limit := by
  unfold Pipeline.heed
  cases found : line.workers[number]? with
  | none => exact kept
  | some worker =>
    have heeded := (kept.balances.perm (crew_perm found)).heed number
    exact ⟨heeded.perm (crew_set found _), kept.scans_use⟩

/-- Whatever happens, the ledger balances afterwards. -/
theorem Kept.perform (kept : line.Kept limit) {act : Act} (allowed : line.Allows act) :
    (line.perform act).Kept limit := by
  cases act with
  | tick scanner time => exact kept.tick scanner time
  | answer number reading => exact kept.answer allowed.1 allowed.2 number
  | divert number reply => exact kept.divert number reply
  | publish envelope => exact kept.publish allowed
  | turn number reading => exact kept.turn allowed number
  | expire number => exact kept.expire number
  | heed number => exact kept.heed number
  | fall number => exact kept.fall number
  | close => exact ⟨kept.balances.use kept.balances.tracked.close, kept.scans_use⟩
  | advance span => exact ⟨kept.balances.use (kept.balances.tracked.advance span), kept.scans_use⟩

/-! ## Runs -/

/-- A pipeline without tasks has an empty ledger, which balances. -/
theorem opened_kept (policy : RetryPolicy) (limit : Duration) (reminders : ReminderStore)
    (templates : Option (List String)) (workers : Nat) (now : Moment) :
    (opened policy limit reminders templates workers now).Kept limit := by
  have crew : (opened policy limit reminders templates workers now).crew =
      .replicate workers .free := List.append_nil _
  have nobody {α : Type} (part : Workman → Option α) (nothing : part .free = none) :
      (List.replicate workers (Worker.free : Workman)).filterMap part = [] := by
    rw [List.filterMap_eq_nil_iff]
    intro worker member
    rw [List.eq_of_mem_replicate member]
    exact nothing
  refine ⟨?_, by simp [opened]⟩
  rw [crew]
  refine {
    tracked := ?_
    wired := rfl
    engaged := fun worker member => ?_
    returned_perm := ?_
    produced_eq := rfl
    performed_perm := .refl _ }
  · rw [nobody _ rfl]
    exact Broker.Tracked.new policy now
  · rw [List.eq_of_mem_replicate member]
    exact .free
  · rw [nobody _ rfl]
    exact .refl _

/-- The ledger of every pipeline balances. -/
theorem leads_kept {policy : RetryPolicy} {reminders : ReminderStore}
    {templates : Option (List String)} {workers : Nat} {now : Moment}
    (run : machine.Leads (opened policy limit reminders templates workers now) line) :
    line.Kept limit := by
  induction run with
  | refl => exact opened_kept policy limit reminders templates workers now
  | tail _ step kept =>
    obtain ⟨act, allowed, rfl⟩ := step
    exact kept.perform allowed

/-! ## Effects -/

/-- No task is both held and acknowledged. -/
theorem Kept.held_not_acked (kept : line.Kept limit) :
    (line.shared.exchange.broker.envelopes ++ line.ledger.acked).Nodup :=
  (List.nodup_append.1 kept.balances.tracked.places_nodup.of_map).1

/-- The finished tasks are those that some worker has done and has yet to report. -/
theorem Kept.finished_perm (kept : line.Kept limit) :
    line.finished ~ (line.crew.filterMap (·.success?)).map (·.envelope) := by
  obtain ⟨held, -, disjoint⟩ := List.nodup_append.1 kept.held_not_acked
  have serving := kept.balances.tracked.serving
  have inHand := Workman.success_sublist line.crew
  have finished : line.finished.Nodup := held.sublist (List.filter_sublist.map _)
  have hands : (((line.crew.filterMap (·.success?)).map (·.envelope)).map (·.id)).Nodup := by
    rw [List.map_map]
    exact serving.held_nodup.sublist (inHand.map _)
  rw [List.perm_ext_iff_of_nodup finished hands.of_map]
  intro envelope
  constructor
  · intro member
    obtain ⟨record, isFinished, rfl⟩ := List.mem_map.1 member
    obtain ⟨stored, test⟩ := List.mem_filter.1 isFinished
    have returned : record.envelope ∈ line.ledger.returned := (of_decide_eq_true test).2
    rcases List.mem_append.1 (kept.balances.returned_perm.mem_iff.1 returned) with acked | done
    · exact absurd rfl (disjoint _ (List.mem_map_of_mem stored) _ acked)
    · exact done
  · intro member
    obtain ⟨delivery, done, rfl⟩ := List.mem_map.1 member
    obtain ⟨record, found, running, same⟩ := serving.running delivery (inHand.subset done)
    have envelope : record.envelope = delivery.envelope := congrArg (·.envelope) same
    have returned : record.envelope ∈ line.ledger.returned := by
      rw [envelope]
      exact kept.balances.returned_perm.mem_iff.2 (List.mem_append_right _ member)
    have stored := Broker.find?_mem found
    exact List.mem_map.2
      ⟨record, List.mem_filter.2 ⟨stored, decide_eq_true ⟨running, returned⟩⟩, envelope⟩

/-- What was produced comes from the acknowledged tasks and the finished ones. -/
theorem Kept.produced_perm (kept : line.Kept limit) :
    line.ledger.produced ~ line.ledger.acked ++ line.finished := by
  rw [kept.balances.produced_eq]
  exact kept.balances.returned_perm.trans (kept.finished_perm.symm.append_left _)

/-- Nothing is produced twice for a task, and nothing for a task that was given up. -/
theorem Kept.produced_nodup (kept : line.Kept limit) :
    ((line.ledger.produced ++
      line.shared.exchange.broker.deadLetters.map (·.envelope)).map (·.id)).Nodup := by
  have places := kept.balances.tracked.places_nodup
  have finished : line.finished.Sublist line.shared.exchange.broker.envelopes :=
    List.filter_sublist.map _
  have perm : line.ledger.produced ~ line.finished ++ line.ledger.acked :=
    kept.produced_perm.trans List.perm_append_comm
  refine ((perm.append_right _).map _).nodup_iff.2 (places.sublist (.map _ ?_))
  exact (finished.append_right _).append_right _

/-- The effects of a kind are as many as the tasks of this kind that had one. -/
theorem Kept.performed_countP (kept : line.Kept limit) (kind : PayloadKind) :
    line.shared.performed.countP (·.kind = kind) =
      line.ledger.acked.countP (Envelope.isOf kind) +
        line.finished.countP (Envelope.isOf kind) := by
  have perm := kept.balances.performed_perm
  have sameKind : ∀ envelope ∈ line.ledger.produced,
      (envelope.work?.any fun work => work.kind = kind) = true ↔ envelope.isOf kind = true := by
    intro envelope member
    obtain ⟨work, -, carries⟩ := List.mem_map.1 (perm.mem_iff.2 (List.mem_map_of_mem member))
    obtain ⟨other, body, type, -, rfl⟩ := Envelope.work?_eq_some carries.symm
    rw [← carries, Option.any_some, PayloadKind.kind_work, decide_eq_true_eq, Envelope.isOf, type,
      decide_eq_true_eq]
    exact ⟨congrArg PayloadKind.type, PayloadKind.type_injective⟩
  calc
    line.shared.performed.countP (·.kind = kind) =
        (line.shared.performed.map some).countP (·.any fun work => work.kind = kind) := by
      rw [List.countP_map]
      rfl
    _ = (line.ledger.produced.map (·.work?)).countP (·.any fun work => work.kind = kind) :=
      perm.countP_eq _
    _ = line.ledger.produced.countP (Envelope.isOf kind) := by
      rw [List.countP_map]
      exact List.countP_congr sameKind
    _ = (line.ledger.acked ++ line.finished).countP (Envelope.isOf kind) :=
      kept.produced_perm.countP_eq _
    _ = line.ledger.acked.countP (Envelope.isOf kind) + line.finished.countP (Envelope.isOf kind) :=
      List.countP_append

/-- There is a notification for each work to create one that has taken effect. -/
theorem length_notifications (shared : Collaborators) :
    shared.notifications.records.length = shared.performed.countP (·.kind = .notification) := by
  have created := congrArg List.length shared.notifications_performed
  rw [List.length_map, List.length_filterMap_eq_countP] at created
  rw [← created]
  refine List.countP_congr fun work _ => ?_
  cases work with
  | email mail => exact iff_of_false nofun nofun
  | notification delivery => exact iff_of_true rfl rfl

/-- There is a mail for each work to send one that has taken effect. -/
theorem length_mails (shared : Collaborators) :
    shared.outbox.sent.length = shared.performed.countP (·.kind = .email) := by
  have sent := congrArg List.length shared.emails_performed
  rw [List.length_filterMap_eq_countP] at sent
  rw [← sent]
  refine List.countP_congr fun work _ => ?_
  cases work with
  | email mail => exact iff_of_true rfl rfl
  | notification delivery => exact iff_of_false nofun nofun

/-- Every effect belongs to one task that was acknowledged, or whose handler has returned while it
is yet to be acknowledged. -/
structure ExactlyOnce (line : Pipeline) : Prop where
  /-- There are as many notifications as such tasks to create one. -/
  notifications : line.shared.notifications.records.length =
    line.ledger.acked.countP (Envelope.isOf .notification) +
      line.finished.countP (Envelope.isOf .notification)
  /-- There are as many mails as such tasks to send one. -/
  mails : line.shared.outbox.sent.length =
    line.ledger.acked.countP (Envelope.isOf .email) + line.finished.countP (Envelope.isOf .email)
  /-- Each of these tasks had one effect, and no other task had any. -/
  count_eq : ∀ envelope, line.ledger.produced.count envelope =
    if envelope ∈ line.ledger.acked ∨ envelope ∈ line.finished then 1 else 0
  /-- The effects are the work of the tasks. -/
  performed_perm : line.shared.performed.map some ~ line.ledger.produced.map (·.work?)
  /-- A task that was given up had no effect. -/
  dead : ∀ letter ∈ line.shared.exchange.broker.deadLetters,
    letter.envelope.id ∉ line.ledger.produced.map (·.id)
  /-- The acknowledged tasks are those that the broker has counted. -/
  succeeded_eq : line.shared.exchange.broker.counts.succeeded = line.ledger.acked.length

/-- A task has its effect exactly once if it is acknowledged, and otherwise none.

In whatever order scans, workers, other producers and the signal to stop go on, whatever becomes of
the workers, and whichever templates are known: each notification and each mail comes of one task
that was acknowledged, or of one that is running although its handler has returned without failure,
and each of these tasks had one effect. A task that was given up had none. -/
theorem effects_exactly_once {policy : RetryPolicy} {limit : Duration} {reminders : ReminderStore}
    {templates : Option (List String)} {workers : Nat} {begin : Moment} {line : Pipeline}
    (run : machine.Leads (opened policy limit reminders templates workers begin) line) :
    line.ExactlyOnce := by
  have kept : line.Kept limit := leads_kept run
  have nodup := kept.produced_nodup
  rw [List.map_append] at nodup
  obtain ⟨once, -, disjoint⟩ := List.nodup_append.1 nodup
  refine {
    notifications := ?_
    mails := ?_
    count_eq := fun envelope => ?_
    performed_perm := kept.balances.performed_perm
    dead := fun letter member produced => ?_
    succeeded_eq := kept.balances.tracked.succeeded_eq }
  · rw [length_notifications]
    exact kept.performed_countP .notification
  · rw [length_mails]
    exact kept.performed_countP .email
  · rw [List.Nodup.count once.of_map]
    simp only [kept.produced_perm.mem_iff, List.mem_append]
  · have given : letter.envelope.id ∈
        (line.shared.exchange.broker.deadLetters.map (·.envelope)).map (·.id) :=
      List.mem_map_of_mem (List.mem_map_of_mem member)
    exact disjoint _ produced _ given rfl

/-- Two workers are there for a reminder that is due on a leap day, and one template is known. -/
def leapDay : Pipeline :=
  opened .default (.ofSeconds 5) (Collaborators.demoStore (.midnight ⟨2024, 2, 29, by decide⟩))
    (some ["reminder_mail"]) 2 0

/-- One worker breaks off after it has created the notification of the reminder. The other one sends
the mail, and gives up a task without a body. -/
def brokenOff : List Act :=
  let reading := fun number => ⟨0, .midnight .epoch, .midnight .epoch, .ofNat number⟩
  [.tick (Scanner.new ⟨.zero, .zero, false⟩ .zero) (.midnight ⟨2024, 2, 29, by decide⟩),
    .answer 0 (reading 0), .answer 0 (reading 1), .turn 0 (reading 0), .answer 0 (reading 2),
    .turn 0 (reading 0), .fall 0, .turn 1 (reading 0), .turn 1 (reading 0), .turn 1 (reading 0),
    .publish (Session.mail 9), .turn 1 (reading 0), .turn 1 (reading 0)]

/-- One notification belongs to a running task, one mail to an acknowledged one, and a third task
had no effect. -/
theorem effects_exactly_once_brokenOff :
    machine.Leads leapDay (machine.run leapDay brokenOff) ∧
      (machine.run leapDay brokenOff).ExactlyOnce ∧
      (machine.run leapDay brokenOff).shared.notifications.records.length = 1 ∧
      (machine.run leapDay brokenOff).finished.length = 1 ∧
      (machine.run leapDay brokenOff).shared.outbox.sent.length = 1 ∧
      (machine.run leapDay brokenOff).ledger.acked.length = 1 ∧
      (machine.run leapDay brokenOff).shared.exchange.broker.deadLetters.length = 1 := by
  have run : machine.Leads leapDay (machine.run leapDay brokenOff) :=
    machine.leads_run leapDay brokenOff (by decide +kernel)
  exact ⟨run, effects_exactly_once run, by decide +kernel⟩

end ReminderDispatch.Pipeline
