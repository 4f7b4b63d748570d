import ReminderDispatch.Proofs.Pipeline.Deliverables
import ReminderDispatch.Proofs.Scan.Reports

/-!
# Isolation of faults

Every publication and every mark of an item has its own fate: it succeeds, fails in some way, or
stays without an answer. Two items may be published by the very same calls, so the surroundings keep
an agenda of the calls that may come for each item, in order, and answer every call on behalf of the
item whose turn it is. What a scan does about an item is then a function of this item and of its own
fate; the fates of all other items do not matter.
-/

namespace ReminderDispatch

/-- An item of which a scan is told. -/
inductive Item where
  /-- A reminder. -/
  | reminder (id : ReminderId)
  /-- The birthday of a user. -/
  | birthday (user : UserId)
  deriving DecidableEq

/-- What the calls for an item come to; no answer means that the limit of the call passes. -/
structure Fate where
  /-- The answer to the publication of the notification. -/
  notification : Option (Except BrokerError TaskId)
  /-- The answer to the publication of the mail. -/
  email : Option (Except BrokerError TaskId)
  /-- The answer to the mark. -/
  mark : Option (Except StoreError Unit)
  /-- A mark that is not said to have succeeded takes effect all the same. -/
  lands : Bool

namespace Fate

/-- The answer to a call for the item. -/
def reply (fate : Fate) : (call : Call) → Option call.Reply
  | .publish type _ => if type = .notification then fate.notification else fate.email
  | .mark _ => fate.mark
  | _ => none

/-- A call for the item, with its answer. -/
def answered (fate : Fate) (call : Call) : Answered := ⟨call, fate.reply call⟩

/-- The mark takes effect. -/
def marks (fate : Fate) : Bool :=
  match fate.mark with
  | some (.ok _) => true
  | some (.error _) | none => fate.lands

/-- What a call for the item makes of the store. -/
def effect (fate : Fate) (call : Call) (store : ReminderStore) : ReminderStore :=
  match call with
  | .mark id => if fate.marks then (store.mark id).2 else store
  | _ => store

/-- What is said about a reminder with this fate: it is only marked if no tasks can be made from it;
otherwise both tasks are published, first the notification and then the mail, and it is marked
unless one of them failed for a reason that may pass. -/
def turnOf (fate : Fate) (limit : Duration) (reminder : Reminder) : List Answered :=
  match reminder.fanOut with
  | .error _ => [fate.answered (.mark reminder.id)]
  | .ok tasks =>
    let published :=
      [fate.answered (TaskPayload.notification tasks.notification).publication,
        fate.answered (TaskPayload.email tasks.email).publication]
    if published.any (·.failsForNow limit) then published
    else published ++ [fate.answered (.mark reminder.id)]

/-- What is said about a birthday with this fate: nothing if no tasks can be made from it; otherwise
both tasks are published, first the notification and then the mail. -/
def celebrationOf (fate : Fate) (birthday : Birthday) : List Answered :=
  match birthday.fanOut with
  | .error _ => []
  | .ok tasks =>
    [fate.answered (TaskPayload.notification tasks.notification).publication,
      fate.answered (TaskPayload.email tasks.email).publication]

/-- Nothing is marked for a birthday. -/
theorem isMark_celebrationOf (fate : Fate) (birthday : Birthday) :
    ∀ answered ∈ fate.celebrationOf birthday, answered.call.isMark = false := by
  unfold celebrationOf
  cases birthday.fanOut with
  | error failure => simp
  | ok tasks =>
    intro answered member
    rcases List.mem_pair.1 member with rfl | rfl <;> rfl

end Fate

/-- The calls that may come for a reminder, in order. -/
def Reminder.calls (reminder : Reminder) : List Call :=
  (Collaborators.tasksOf reminder.fanOut).map (·.publication) ++ [.mark reminder.id]

/-- The calls that may come for a birthday, in order. -/
def Birthday.calls (birthday : Birthday) : List Call :=
  (Collaborators.tasksOf birthday.fanOut).map (·.publication)

/-- A reminder from which no tasks can be made is only marked. -/
theorem Reminder.calls_of_invalid {reminder : Reminder} {failure : ValidationError}
    (invalid : reminder.fanOut = .error failure) : reminder.calls = [.mark reminder.id] := by
  unfold calls
  rw [invalid]
  rfl

/-- The tasks of a reminder are published, and then it is marked. -/
theorem Reminder.calls_of_valid {reminder : Reminder} {tasks : FanOut}
    (valid : reminder.fanOut = .ok tasks) :
    reminder.calls = tasks.payloads.map (·.publication) ++ [.mark reminder.id] := by
  unfold calls
  rw [valid]
  rfl

/-- Another reminder may be marked before the calls for a reminder come. -/
theorem Reminder.head_calls {reminder : Reminder} {id : ReminderId} (different : id ≠ reminder.id) :
    reminder.calls.head?.any (· ≠ .mark id) = true := by
  cases fanOut : reminder.fanOut with
  | error failure => simp [calls_of_invalid fanOut, different.symm]
  | ok tasks => simp [calls_of_valid fanOut, FanOut.payloads, TaskPayload.publication]

/-- A notification can be told from the call that publishes it. -/
theorem NotificationDelivery.publication_injective {notification other : NotificationDelivery}
    (same : (TaskPayload.notification notification).publication =
      (TaskPayload.notification other).publication) : notification = other := by
  have encoded : Wire.encode (.notification notification) = Wire.encode (.notification other) :=
    (Call.publish.inj same).2
  have decoded := Wire.decode_encode (.notification other)
  rw [← encoded] at decoded
  exact Except.ok.inj ((Wire.decode_encode (.notification notification)).symm.trans decoded)

/-- The notification about a birthday is for its user. -/
theorem Birthday.userId_notification {birthday : Birthday} {tasks : FanOut}
    (valid : birthday.fanOut = .ok tasks) : tasks.notification.userId = birthday.userId := by
  have made := birthday.fanOut_toOption
  rw [valid] at made
  obtain ⟨-, same⟩ := Option.ite_none_right_eq_some.1 made.symm
  rw [← Option.some.inj same]

/-- Nothing is published for a birthday from which no tasks can be made. -/
theorem Birthday.calls_of_invalid {birthday : Birthday} {failure : ValidationError}
    (invalid : birthday.fanOut = .error failure) : birthday.calls = [] := by
  unfold calls
  rw [invalid]
  rfl

/-- The tasks of a birthday are published. -/
theorem Birthday.calls_of_valid {birthday : Birthday} {tasks : FanOut}
    (valid : birthday.fanOut = .ok tasks) :
    birthday.calls = tasks.payloads.map (·.publication) := by
  unfold calls
  rw [valid]
  rfl

/-- The call is for none of the birthdays of some users: it is a mark, or for the birthday of
another user. -/
def Call.IsForeign (call : Call) (users : List UserId) : Prop :=
  call.isMark = true ∨ ∃ other : Birthday, call ∈ other.calls ∧ other.userId ∉ users

/-- A call that is for none of the birthdays of some users is for none of those of fewer users. -/
theorem Call.IsForeign.mono {call : Call} {users fewer : List UserId}
    (foreign : call.IsForeign users) (part : fewer ⊆ users) : call.IsForeign fewer := by
  refine foreign.imp_right ?_
  rintro ⟨other, isCall, isOther⟩
  exact ⟨other, isCall, fun isUser => isOther (part isUser)⟩

/-- Calls that are not for a birthday may come before those for it. -/
theorem Birthday.head_calls {birthday : Birthday} {tasks : FanOut} {call : Call}
    (valid : birthday.fanOut = .ok tasks) (foreign : call.IsForeign [birthday.userId]) :
    birthday.calls.head?.any (· ≠ call) = true := by
  have head : birthday.calls.head? =
      some (TaskPayload.notification tasks.notification).publication := by
    rw [calls_of_valid valid]
    rfl
  have apart : (TaskPayload.notification tasks.notification).publication ≠ call := by
    rintro rfl
    rcases foreign with isMark | ⟨other, isCall, different⟩
    · cases isMark
    · cases fanOut : other.fanOut with
      | error failure =>
        rw [calls_of_invalid fanOut] at isCall
        exact List.not_mem_nil isCall
      | ok others =>
        rw [calls_of_valid fanOut] at isCall
        rcases List.mem_pair.1 isCall with isNotification | isMail
        · refine different (List.mem_singleton.2 ?_)
          rw [← userId_notification valid, ← userId_notification fanOut,
            NotificationDelivery.publication_injective isNotification]
        · have types : TaskType.notification = .mail := (Call.publish.inj isMail).1
          exact absurd types (by decide)
  rw [head]
  simpa using apart

/-- Surroundings in which every item has its fate. -/
structure Stage where
  /-- The calls that may still come, each for its item, in order. -/
  agenda : List (Item × Call)
  /-- The calls that came, with their answers, each for its item. -/
  log : List (Item × Answered)
  /-- The store of reminders. -/
  store : ReminderStore

namespace Stage

open Scanner

variable {due : List Reminder} {birthdays : List Birthday} {fates : Item → Fate}
  {stage after : Stage} {stale rest : List (Item × Call)} {item : Item} {call : Call}
  {calls : List Call} {said : List Answered}

/-- The entries of the agenda for a reminder. -/
def entriesOf (reminder : Reminder) : List (Item × Call) :=
  reminder.calls.map (Item.reminder reminder.id, ·)

/-- The entries of the agenda for a birthday. -/
def birthdayEntries (birthday : Birthday) : List (Item × Call) :=
  birthday.calls.map (Item.birthday birthday.userId, ·)

/-- The stage before a scan that will be told of some reminders and birthdays. -/
def opening (due : List Reminder) (birthdays : List Birthday) (store : ReminderStore) : Stage where
  agenda := due.flatMap entriesOf ++ birthdays.flatMap birthdayEntries
  log := []
  store := store

/-- The store after some calls. -/
def replay (fates : Item → Fate) (log : List (Item × Answered)) (store : ReminderStore) :
    ReminderStore :=
  log.foldl (fun store entry => (fates entry.1).effect entry.2.call store) store

/-- The queries tell of the items. Any other call is answered by the fate of the next item for which
it may come. -/
def answer (due : List Reminder) (birthdays : List Birthday) (fates : Item → Fate) :
    (call : Call) → Stage → Option call.Reply × Stage
  | .dueReminders _, stage => (some (.ok due), stage)
  | .dueBirthdays _, stage => (some (.ok birthdays), stage)
  | call, stage =>
    match stage.agenda.dropWhile fun entry => entry.2 ≠ call with
    | [] => (none, stage)
    | (item, _) :: rest =>
      ((fates item).reply call, {
        agenda := rest
        log := stage.log ++ [(item, (fates item).answered call)]
        store := (fates item).effect call stage.store })

/-- What is said leads from one stage to another. -/
def GoesAlong (due : List Reminder) (birthdays : List Birthday) (fates : Item → Fate)
    (stage : Stage) (said : List Answered) (after : Stage) : Prop :=
  Program.Along (Program.AnsweredBy (answer due birthdays fates)) stage said after

/-- What is on record about an item: the calls that came for it, with their answers. -/
def about (log : List (Item × Answered)) (item : Item) : List Answered :=
  (log.filter (·.1 = item)).map (·.2)

/-- A call is answered by the fate of the next item for which it may come. -/
theorem answer_entry (due : List Reminder) (birthdays : List Birthday) (fates : Item → Fate)
    (noQuery : call.isQuery = false)
    (expected : stage.agenda = stale ++ (item, call) :: rest)
    (notStale : ∀ entry ∈ stale, entry.2 ≠ call) :
    answer due birthdays fates call stage = ((fates item).reply call, {
      agenda := rest
      log := stage.log ++ [(item, (fates item).answered call)]
      store := (fates item).effect call stage.store }) := by
  have next : stage.agenda.dropWhile (fun entry => entry.2 ≠ call) = (item, call) :: rest := by
    rw [expected, List.dropWhile_append_of_pos (by simpa using notStale),
      List.dropWhile_cons_of_neg (by simp)]
  cases call with
  | dueReminders now => cases noQuery
  | dueBirthdays now => cases noQuery
  | _ => simp only [answer, next]

/-- Entries of a log for one item. -/
def entries (item : Item) (said : List Answered) : List (Item × Answered) := said.map (item, ·)

/-- The stage after some calls for an item. -/
def advance (fates : Item → Fate) (rest : List (Item × Call)) (log : List (Item × Answered))
    (stage : Stage) : Stage where
  agenda := rest
  log := stage.log ++ log
  store := replay fates log stage.store

/-- Stages advance call by call. -/
theorem advance_advance (fates : Item → Fate) (rest more : List (Item × Call))
    (front back : List (Item × Answered)) (stage : Stage) :
    (stage.advance fates rest front).advance fates more back =
      stage.advance fates more (front ++ back) := by
  simp [advance, replay]

/-- A call that was to come next for an item is answered by its fate. -/
theorem along_entry {answered : Answered} {more : List Answered}
    (noQuery : answered.call.isQuery = false)
    (expected : stage.agenda = stale ++ (item, answered.call) :: rest)
    (notStale : ∀ entry ∈ stale, entry.2 ≠ answered.call)
    (along : stage.GoesAlong due birthdays fates (answered :: more) after) :
    answered = (fates item).answered answered.call ∧
      (stage.advance fates rest (entries item [answered])).GoesAlong due birthdays fates more
        after := by
  obtain ⟨middle, responded, goesOn⟩ := along
  obtain ⟨reply, next⟩ := Prod.mk.inj
    ((answer_entry due birthdays fates noQuery expected notStale).symm.trans responded)
  have own : answered = (fates item).answered answered.call := by
    unfold Fate.answered
    rw [reply]
  refine ⟨own, ?_⟩
  rw [← next, ← own] at goesOn
  exact goesOn

/-- The calls for an item are answered by its fate, whatever could have come before them and did
not. -/
theorem along_section (noQuery : ∀ call ∈ calls, call.isQuery = false)
    (asked : said.map (·.call) = calls)
    (expected : stage.agenda = stale ++ (calls.map (item, ·) ++ rest))
    (notStale : ∀ entry ∈ stale, calls.head?.any (· ≠ entry.2) = true)
    (along : stage.GoesAlong due birthdays fates said after) :
    said = calls.map (fates item).answered ∧
      after = stage.advance fates rest (entries item said) := by
  induction calls generalizing said stage stale with
  | nil =>
    obtain rfl := List.map_eq_nil_iff.1 asked
    obtain rfl : stale = [] := List.eq_nil_iff_forall_not_mem.2 fun entry member => by
      simpa using notStale entry member
    obtain rfl : after = stage := along
    refine ⟨rfl, ?_⟩
    obtain ⟨agenda, log, store⟩ := after
    obtain rfl : agenda = rest := expected
    simp [advance, entries, replay]
  | cons call more ih =>
    obtain ⟨answered, others, rfl, rfl, askedRest⟩ := List.map_eq_cons_iff.1 asked
    obtain ⟨first, noQueryRest⟩ := List.forall_mem_cons.1 noQuery
    have notNext : ∀ entry ∈ stale, entry.2 ≠ answered.call := fun entry member same => by
      simpa [same] using notStale entry member
    obtain ⟨own, goesOn⟩ := along_entry first expected notNext along
    obtain ⟨later, rfl⟩ := ih noQueryRest askedRest (List.nil_append _).symm (by simp) goesOn
    refine ⟨?_, ?_⟩
    · rw [List.map_cons, ← own, ← later]
    · simp [advance, entries, replay]

/-! ## Turns of reminders -/

/-- A publication is not a query. -/
theorem noQuery_of_publication {payloads : List TaskPayload} :
    ∀ call ∈ payloads.map (·.publication), call.isQuery = false := by
  intro call member
  obtain ⟨payload, -, rfl⟩ := List.mem_map.1 member
  rfl

/-- What is said about a reminder is what its fate makes of it; at most its mark is left over. -/
theorem along_handled {reminder : Reminder} (limit : Duration)
    (handled : Handled reminder said)
    (expected : stage.agenda = stale ++ (entriesOf reminder ++ rest))
    (notStale : ∀ entry ∈ stale, ∃ id, entry.2 = .mark id ∧ id ≠ reminder.id)
    (along : stage.GoesAlong due birthdays fates said after) :
    said = (fates (.reminder reminder.id)).turnOf limit reminder ∧
      ∃ left, (∀ entry ∈ left, entry.2 = .mark reminder.id) ∧
        after = stage.advance fates (left ++ rest) (entries (.reminder reminder.id) said) := by
  have apart : ∀ entry ∈ stale, reminder.calls.head?.any (· ≠ entry.2) = true := by
    intro entry member
    obtain ⟨id, isMark, different⟩ := notStale entry member
    rw [isMark]
    exact reminder.head_calls different
  unfold entriesOf at expected
  unfold Fate.turnOf
  cases handled with
  | @dropped failure mark invalid isMark =>
    rw [reminder.calls_of_invalid invalid] at expected apart
    obtain ⟨own, isAfter⟩ :=
      along_section (by simp [Call.isQuery]) (by simp [isMark]) expected apart along
    rw [invalid]
    exact ⟨own, [], by simp, isAfter⟩
  | @kept tasks published valid calls refused =>
    have again : said.any (·.failsForNow limit) = true := by
      rw [any_failsForNow limit calls, refused]
      rfl
    rw [reminder.calls_of_valid valid, List.map_append, List.append_assoc] at expected
    rw [reminder.calls_of_valid valid] at apart
    obtain ⟨own, isAfter⟩ := along_section noQuery_of_publication calls expected apart along
    rw [own] at again
    rw [valid]
    refine ⟨own.trans (if_pos again).symm, _, ?_, isAfter⟩
    simp
  | @passedOn tasks published mark valid calls accepted isMark =>
    have never : published.any (·.failsForNow limit) = false := by
      rw [any_failsForNow limit calls, accepted]
      rfl
    rw [reminder.calls_of_valid valid] at expected apart
    have noQuery : ∀ call ∈ tasks.payloads.map (·.publication) ++ [.mark reminder.id],
        call.isQuery = false := List.forall_mem_append.2
      ⟨noQuery_of_publication, by simp [Call.isQuery]⟩
    obtain ⟨own, isAfter⟩ := along_section noQuery (by simp [calls, isMark]) expected apart along
    obtain ⟨ownPublished, -⟩ := List.append_inj' (own.trans List.map_append) rfl
    rw [ownPublished] at never
    have notAgain := ne_true_of_eq_false never
    rw [valid]
    exact ⟨own.trans (if_neg notAgain).symm, [], by simp, isAfter⟩

/-- The entries of a log for the turns of reminders. -/
def turnEntries (turns : List Scanner.Turn) : List (Item × Answered) :=
  turns.flatMap fun turn => entries (.reminder turn.reminder.id) turn.said

/-- What is said about each reminder is what its own fate makes of it; at most marks are left
over. -/
theorem along_turns {turns : List Scanner.Turn} (limit : Duration)
    (handled : ∀ turn ∈ turns, Handled turn.reminder turn.said)
    (distinct : (turns.map (·.reminder.id)).Nodup)
    (expected : stage.agenda = stale ++ (turns.flatMap (entriesOf ·.reminder) ++ rest))
    (notStale : ∀ entry ∈ stale, ∃ id, entry.2 = .mark id ∧ id ∉ turns.map (·.reminder.id))
    (along : stage.GoesAlong due birthdays fates (turns.flatMap (·.said)) after) :
    (∀ turn ∈ turns,
      turn.said = (fates (.reminder turn.reminder.id)).turnOf limit turn.reminder) ∧
      ∃ left, (∀ entry ∈ left, entry.2.isMark = true) ∧
        after = stage.advance fates (left ++ rest) (turnEntries turns) := by
  induction turns generalizing stage stale with
  | nil =>
    obtain rfl : after = stage := along
    refine ⟨by simp, stale, fun entry member => ?_, ?_⟩
    · obtain ⟨id, isMark, -⟩ := notStale entry member
      rw [isMark]
      rfl
    · obtain ⟨agenda, log, store⟩ := after
      obtain rfl : agenda = stale ++ rest := expected
      simp [advance, turnEntries, replay]
  | cons turn more ih =>
    obtain ⟨apart, distinctRest⟩ := List.nodup_cons.1 distinct
    obtain ⟨first, others⟩ := List.forall_mem_cons.1 handled
    rw [List.flatMap_cons] at along expected
    rw [List.append_assoc] at expected
    obtain ⟨middle, alongFirst, goesOn⟩ := Program.along_append.1 along
    have notOwn : ∀ entry ∈ stale, ∃ id, entry.2 = .mark id ∧ id ≠ turn.reminder.id := by
      intro entry member
      obtain ⟨id, isMark, isOther⟩ := notStale entry member
      exact ⟨id, isMark, fun same => isOther (same ▸ List.mem_cons_self)⟩
    -- what is left over is the mark of this reminder, for which no later one can be taken
    obtain ⟨own, left, isLeft, rfl⟩ := along_handled limit first expected notOwn alongFirst
    have notStaleThen : ∀ entry ∈ left,
        ∃ id, entry.2 = .mark id ∧ id ∉ more.map (·.reminder.id) :=
      fun entry member => ⟨_, isLeft entry member, apart⟩
    obtain ⟨ownLater, leftLater, areMarks, rfl⟩ :=
      ih others distinctRest rfl notStaleThen goesOn
    refine ⟨List.forall_mem_cons.2 ⟨own, ownLater⟩, leftLater, areMarks, ?_⟩
    simp [advance, turnEntries, replay]

/-! ## Birthdays -/

/-- The entries of a log for celebrations. -/
def celebrationEntries (celebrations : List Celebration) : List (Item × Answered) :=
  celebrations.flatMap fun celebration =>
    entries (.birthday celebration.birthday.userId) celebration.said

/-- What is said about a birthday that is celebrated is what its fate makes of it. -/
theorem along_celebrates {birthday : Birthday} {treatment : Treatment} {done : Bool}
    {limit : Duration} (day : Date) (celebrates : Celebrates limit birthday treatment done)
    (expected : stage.agenda = stale ++ (birthdayEntries birthday ++ rest))
    (foreign : ∀ entry ∈ stale, entry.2.IsForeign [birthday.userId])
    (along : stage.GoesAlong due birthdays fates (Celebration.said ⟨birthday, day, treatment⟩)
      after) :
    Celebration.said ⟨birthday, day, treatment⟩ =
        (fates (.birthday birthday.userId)).celebrationOf birthday ∧
      ∃ left ⊆ stale, after = stage.advance fates (left ++ rest)
        (entries (.birthday birthday.userId)
          (Celebration.said ⟨birthday, day, treatment⟩)) := by
  unfold birthdayEntries at expected
  unfold Fate.celebrationOf
  cases celebrates with
  | dropped invalid =>
    obtain rfl : after = stage := along
    rw [birthday.calls_of_invalid invalid] at expected
    rw [invalid]
    refine ⟨rfl, stale, List.Subset.refl stale, ?_⟩
    obtain ⟨agenda, log, store⟩ := after
    obtain rfl : agenda = stale ++ rest := expected
    simp [advance, entries, replay, Celebration.said]
  | @published tasks said valid calls =>
    have apart : ∀ entry ∈ stale, birthday.calls.head?.any (· ≠ entry.2) = true :=
      fun entry member => birthday.head_calls valid (foreign entry member)
    rw [birthday.calls_of_valid valid] at expected apart
    obtain ⟨own, isAfter⟩ := along_section noQuery_of_publication calls expected apart along
    rw [valid]
    exact ⟨own, [], List.nil_subset _, isAfter⟩

/-- What is said about each birthday is nothing if the user is remembered, and otherwise what its
own fate makes of it. -/
theorem along_treats {limit : Duration} {day : Date} {handled last : HandledBirthdays}
    {celebrations : List Celebration}
    (treats : Treats limit day handled celebrations last)
    (distinct : (celebrations.map (·.birthday.userId)).Nodup)
    (expected : stage.agenda = stale ++ celebrations.flatMap (birthdayEntries ·.birthday))
    (foreign : ∀ entry ∈ stale, entry.2.IsForeign (celebrations.map (·.birthday.userId)))
    (along : stage.GoesAlong due birthdays fates (celebrations.flatMap (·.said)) after) :
    (∀ celebration ∈ celebrations,
      celebration.said = if handled.contains celebration.birthday.userId then []
        else (fates (.birthday celebration.birthday.userId)).celebrationOf celebration.birthday) ∧
    ∃ left, after = stage.advance fates left (celebrationEntries celebrations) := by
  induction treats generalizing stage stale with
  | none handled =>
    obtain rfl : after = stage := along
    refine ⟨by simp, after.agenda, ?_⟩
    simp [advance, celebrationEntries, replay]
  | @skipped birthday handled last more known others ih =>
    obtain ⟨apart, distinctRest⟩ := List.nodup_cons.1 distinct
    -- nothing is said, so all the calls for this birthday are left over
    rw [List.flatMap_cons, ← List.append_assoc] at expected
    have foreignThen : ∀ entry ∈ stale ++ birthdayEntries birthday,
        entry.2.IsForeign (more.map (·.birthday.userId)) := by
      refine List.forall_mem_append.2 ⟨fun entry member => ?_, fun entry member => ?_⟩
      · exact (foreign entry member).mono (List.subset_cons_self ..)
      · obtain ⟨call, isCall, rfl⟩ := List.mem_map.1 member
        exact .inr ⟨birthday, isCall, apart⟩
    obtain ⟨own, left, isAfter⟩ := ih distinctRest expected foreignThen along
    exact ⟨List.forall_mem_cons.2 ⟨(if_pos known).symm, own⟩, left, isAfter⟩
  | @celebrated birthday treatment done handled last more isNew celebrates others ih =>
    obtain ⟨apart, distinctRest⟩ := List.nodup_cons.1 distinct
    rw [List.flatMap_cons] at along expected
    obtain ⟨middle, alongFirst, goesOn⟩ := Program.along_append.1 along
    have foreignFirst : ∀ entry ∈ stale, entry.2.IsForeign [birthday.userId] :=
      fun entry member => (foreign entry member).mono (by simp)
    obtain ⟨own, left, isLeft, rfl⟩ :=
      along_celebrates day celebrates expected foreignFirst alongFirst
    have foreignThen : ∀ entry ∈ left, entry.2.IsForeign (more.map (·.birthday.userId)) :=
      fun entry member => (foreign entry (isLeft member)).mono (List.subset_cons_self ..)
    obtain ⟨ownLater, leftThen, rfl⟩ := ih distinctRest rfl foreignThen goesOn
    refine ⟨List.forall_mem_cons.2 ⟨own.trans (if_neg isNew).symm, fun celebration member => ?_⟩,
      leftThen, ?_⟩
    · have different : celebration.birthday.userId ≠ birthday.userId := fun same =>
        apart (List.mem_map.2 ⟨celebration, member, same⟩)
      rw [← handled.contains_insert_other different done]
      exact ownLater celebration member
    · simp [advance, celebrationEntries, replay]

/-! ## What is on record about an item -/

/-- Records are kept one after the other. -/
theorem about_append (front back : List (Item × Answered)) (item : Item) :
    about (front ++ back) item = about front item ++ about back item := by
  simp [about]

/-- The entries for an item are on record about it. -/
theorem about_entries_self (item : Item) (said : List Answered) :
    about (entries item said) item = said := by
  have all : (entries item said).filter (·.1 = item) = entries item said :=
    List.filter_eq_self.2 fun entry member => by
      obtain ⟨answered, -, rfl⟩ := List.mem_map.1 member
      simp
  rw [about, all, entries, List.map_map]
  exact List.map_id' said

/-- The entries for an item are not on record about another one. -/
theorem about_entries_other {other : Item} (different : other ≠ item) (said : List Answered) :
    about (entries other said) item = [] := by
  refine List.map_eq_nil_iff.2 (List.filter_eq_nil_iff.2 fun entry member => ?_)
  obtain ⟨answered, -, rfl⟩ := List.mem_map.1 member
  simpa using different

/-- Nothing is on record about an item that is not among those with entries. -/
theorem about_absent {ι : Type} {items : List ι} {key : ι → Item} {say : ι → List Answered}
    (absent : item ∉ items.map key) :
    about (items.flatMap fun other => entries (key other) (say other)) item = [] := by
  induction items with
  | nil => rfl
  | cons first more ih =>
    obtain ⟨different, absentLater⟩ := List.ne_and_not_mem_of_not_mem_cons absent
    rw [List.flatMap_cons, about_append, about_entries_other different.symm, ih absentLater,
      List.append_nil]

/-- What is on record about an item is what was said about it, if all items differ. -/
theorem about_present {ι : Type} {items : List ι} {key : ι → Item} {say : ι → List Answered}
    {member : ι} (distinct : (items.map key).Nodup) (present : member ∈ items) :
    about (items.flatMap fun other => entries (key other) (say other)) (key member) =
      say member := by
  induction items with
  | nil => exact absurd present List.not_mem_nil
  | cons first more ih =>
    obtain ⟨apart, distinctRest⟩ := List.nodup_cons.1 distinct
    rw [List.flatMap_cons, about_append]
    rcases List.mem_cons.1 present with rfl | later
    · rw [about_entries_self, about_absent apart, List.append_nil]
    · have different : key first ≠ key member := fun same =>
        apart (same ▸ List.mem_map_of_mem later)
      rw [about_entries_other different, List.nil_append]
      exact ih distinctRest later

/-- The log of a scan with some turns and celebrations. -/
def logOf (turns : List Scanner.Turn) (celebrations : List Celebration) :
    List (Item × Answered) :=
  turnEntries turns ++ celebrationEntries celebrations

/-- What is on record about a reminder is what was said in its turn. -/
theorem about_turn {turns : List Scanner.Turn} (celebrations : List Celebration)
    (distinct : (turns.map (·.reminder.id)).Nodup) :
    ∀ turn ∈ turns, about (logOf turns celebrations) (.reminder turn.reminder.id) = turn.said := by
  intro turn member
  have keys : (turns.map fun turn => Item.reminder turn.reminder.id).Nodup := by
    have injective := distinct.map fun _ _ => Item.reminder.inj
    rwa [List.map_map] at injective
  have own : about (turnEntries turns) (.reminder turn.reminder.id) = turn.said :=
    about_present keys member
  have none : about (celebrationEntries celebrations) (.reminder turn.reminder.id) = [] :=
    about_absent (by simp)
  rw [logOf, about_append, own, none, List.append_nil]

/-- What is on record about a birthday is what was said when it was celebrated. -/
theorem about_celebration (turns : List Scanner.Turn) {celebrations : List Celebration}
    (distinct : (celebrations.map (·.birthday.userId)).Nodup) :
    ∀ celebration ∈ celebrations,
      about (logOf turns celebrations) (.birthday celebration.birthday.userId) =
        celebration.said := by
  intro celebration member
  have keys : (celebrations.map fun celebration =>
      Item.birthday celebration.birthday.userId).Nodup := by
    have injective := distinct.map fun _ _ => Item.birthday.inj
    rwa [List.map_map] at injective
  have own : about (celebrationEntries celebrations) (.birthday celebration.birthday.userId) =
      celebration.said := about_present keys member
  have none : about (turnEntries turns) (.birthday celebration.birthday.userId) = [] :=
    about_absent (by simp)
  rw [logOf, about_append, own, none, List.nil_append]

/-- A call is seen in the store only under the key that it marks, if the mark takes effect. -/
theorem get?_effect (fate : Fate) (call : Call) (store : ReminderStore) (id : ReminderId) :
    (fate.effect call store).get? id =
      if call = .mark id ∧ fate.marks = true then (store.get? id).map (·.dispatched)
      else store.get? id := by
  cases call with
  | mark other =>
    by_cases lands : fate.marks = true
    · have effect : fate.effect (.mark other) store = (store.mark other).2 := if_pos lands
      rw [effect]
      cases found : store.get? other with
      | none =>
        rw [ReminderStore.mark_of_absent (ReminderStore.get?_eq_none_iff.1 found)]
        by_cases same : other = id
        · simp [← same, found]
        · simp [same]
      | some reminder =>
        have marked := ReminderStore.mark_of_found found
        have seen := ReminderStore.get?_mark marked id
        rw [marked]
        refine seen.trans (if_congr ?_ rfl rfl)
        simp [lands, eq_comm]
    · simp [Fate.effect, lands]
  | _ => simp [Fate.effect]

/-- A reminder is found as it was, or as dispatched if one of its marks took effect. -/
theorem get?_replay (log : List (Item × Answered)) (store : ReminderStore) (id : ReminderId) :
    (replay fates log store).get? id =
      if ∃ entry ∈ log, entry.2.call = .mark id ∧ (fates entry.1).marks = true then
        (store.get? id).map (·.dispatched)
      else store.get? id := by
  induction log generalizing store with
  | nil => simp [replay]
  | cons entry more ih =>
    have step : replay fates (entry :: more) store =
        replay fates more ((fates entry.1).effect entry.2.call store) := rfl
    have again : ∀ found : Option Reminder,
        (found.map (·.dispatched)).map (·.dispatched) = found.map (·.dispatched) := by
      intro found
      rw [Option.map_map]
      rfl
    rw [step, ih, get?_effect]
    simp only [List.exists_mem_cons_iff]
    by_cases first : entry.2.call = .mark id ∧ (fates entry.1).marks = true
    · simp [first, again]
    · rw [if_neg first]
      exact if_congr (or_iff_right first).symm rfl rfl

/-- All marks in the log of a scan are for their own reminders. -/
theorem marks_own {turns : List Scanner.Turn} {celebrations : List Celebration}
    (handled : ∀ turn ∈ turns, Handled turn.reminder turn.said)
    (quiet : ∀ celebration ∈ celebrations, ∀ answered ∈ celebration.said,
      answered.call.isMark = false) (id : ReminderId) :
    ∀ entry ∈ logOf turns celebrations, entry.2.call = .mark id → entry.1 = .reminder id := by
  intro entry member isMark
  rcases List.mem_append.1 member with isTurn | isCelebration
  · obtain ⟨turn, took, isEntry⟩ := List.mem_flatMap.1 isTurn
    obtain ⟨answered, isSaid, rfl⟩ := List.mem_map.1 isEntry
    obtain ⟨front, back, split⟩ := List.append_of_mem isSaid
    obtain ⟨reminder, isOwn, same, -⟩ :=
      (handled turn took).guarded front answered back split id isMark
    rw [List.mem_singleton.1 isOwn] at same
    exact congrArg Item.reminder same
  · obtain ⟨celebration, took, isEntry⟩ := List.mem_flatMap.1 isCelebration
    obtain ⟨answered, isSaid, rfl⟩ := List.mem_map.1 isEntry
    have noMark := quiet celebration took answered isSaid
    rw [isMark] at noMark
    cases noMark

/-- If all marks are for their own reminders, a reminder is dispatched by its own mark only. -/
theorem get?_replay_own {log : List (Item × Answered)} {id : ReminderId}
    (own : ∀ entry ∈ log, entry.2.call = .mark id → entry.1 = .reminder id)
    (store : ReminderStore) :
    (replay fates log store).get? id =
      if .mark id ∈ (about log (.reminder id)).map (·.call) ∧
          (fates (.reminder id)).marks = true then
        (store.get? id).map (·.dispatched)
      else store.get? id := by
  rw [get?_replay]
  refine if_congr ⟨?_, ?_⟩ rfl rfl
  · rintro ⟨entry, member, isMark, lands⟩
    have isOwn := own entry member isMark
    have onRecord : entry.2 ∈ about log (.reminder id) :=
      List.mem_map_of_mem (List.mem_filter.2 ⟨member, by simpa using isOwn⟩)
    exact ⟨List.mem_map.2 ⟨entry.2, onRecord, isMark⟩, isOwn ▸ lands⟩
  · rintro ⟨marked, lands⟩
    obtain ⟨answered, onRecord, isMark⟩ := List.mem_map.1 marked
    obtain ⟨entry, kept, rfl⟩ := List.mem_map.1 onRecord
    obtain ⟨member, isOwn⟩ := List.mem_filter.1 kept
    have isItem : entry.1 = .reminder id := by simpa using isOwn
    exact ⟨entry, member, isMark, isItem ▸ lands⟩

/-! ## Whole scans -/

variable {scanner next : Scanner} {now : Instant} {store : ReminderStore}
  {outcome : Except IncompleteScan ScanReport}

/-- What is said in a scan with given fates, what it comes to, and what is left of it: every item
has its section, which depends on the item and on its own fate only. -/
structure Isolated (scanner : Scanner) (now : Instant) (due : List Reminder)
    (birthdays : List Birthday) (store : ReminderStore) (fates : Item → Fate)
    (said : List Answered) (next : Scanner) (outcome : Except IncompleteScan ScanReport)
    (after : Stage) : Prop where
  /-- The sections of all reminders follow their query, and those of all birthdays follow theirs. -/
  said_eq : said = ⟨.dueReminders now, some (.ok due)⟩ ::
      (due.flatMap fun reminder =>
        (fates (.reminder reminder.id)).turnOf scanner.publishTimeout reminder) ++
    ⟨.dueBirthdays now, some (.ok birthdays)⟩ ::
      (birthdays.flatMap fun birthday =>
        if (scanner.handled.onDay now.date).contains birthday.userId then []
        else (fates (.birthday birthday.userId)).celebrationOf birthday)
  /-- The section of a reminder is on record for it. -/
  reminder_said : ∀ reminder ∈ due, about after.log (.reminder reminder.id) =
    (fates (.reminder reminder.id)).turnOf scanner.publishTimeout reminder
  /-- A reminder is dispatched if it was marked in its section and the mark took effect. -/
  reminder_status : ∀ id, after.store.get? id =
    if .mark id ∈ (about after.log (.reminder id)).map (·.call) ∧
        (fates (.reminder id)).marks = true then
      (store.get? id).map (·.dispatched)
    else store.get? id
  /-- The section of a birthday is on record for it; it is empty for a user who was remembered. -/
  birthday_said : ∀ birthday ∈ birthdays, about after.log (.birthday birthday.userId) =
    if (scanner.handled.onDay now.date).contains birthday.userId then []
    else (fates (.birthday birthday.userId)).celebrationOf birthday
  /-- A user is remembered who was, or of whom no publication failed for a reason that may pass. -/
  remembered : ∀ birthday ∈ birthdays, next.handled.contains birthday.userId =
    ((scanner.handled.onDay now.date).contains birthday.userId ||
      !(about after.log (.birthday birthday.userId)).any (·.failsForNow scanner.publishTimeout))
  /-- The scan is complete, and an item from which no tasks can be made counts as one failure. -/
  counted : ∃ report, outcome = .ok report ∧ report.failed =
    refusedIn said + unmarkedIn said + (due.countP (!·.fanOut.isOk) +
      birthdays.countP fun birthday =>
        !(scanner.handled.onDay now.date).contains birthday.userId && !birthday.fanOut.isOk)

/-- The minutes of a scan in which every item has its fate: what is said about an item is what its
own fate makes of it, and all of it is on record. -/
theorem told_along {minutes : Minutes} {limit : Duration}
    (told : minutes.Told limit scanner now due birthdays said next outcome)
    (distinctTurns : (minutes.turns.map (·.reminder.id)).Nodup)
    (distinctCelebrations : (minutes.celebrations.map (·.birthday.userId)).Nodup)
    (along : (opening due birthdays store).GoesAlong due birthdays fates said after) :
    (∀ turn ∈ minutes.turns,
      turn.said = (fates (.reminder turn.reminder.id)).turnOf limit turn.reminder) ∧
    (∀ celebration ∈ minutes.celebrations, celebration.said =
      if (scanner.handled.onDay now.date).contains celebration.birthday.userId then []
      else (fates (.birthday celebration.birthday.userId)).celebrationOf celebration.birthday) ∧
    after.log = logOf minutes.turns minutes.celebrations ∧
    after.store = replay fates (logOf minutes.turns minutes.celebrations) store := by
  rw [told.trace_eq] at along
  obtain ⟨middle, ⟨_, responded, alongTurns⟩, _, respondedThen, alongCelebrations⟩ :=
    Program.along_append.1 along
  obtain ⟨-, rfl⟩ := Prod.mk.inj responded
  obtain ⟨-, rfl⟩ := Prod.mk.inj respondedThen
  have expected : (opening due birthdays store).agenda =
      [] ++ (minutes.turns.flatMap (entriesOf ·.reminder) ++
        minutes.celebrations.flatMap (birthdayEntries ·.birthday)) := by
    simp [opening, ← told.reminders_eq, ← told.birthdays_eq, List.flatMap_map]
  obtain ⟨turn_said, left, areMarks, rfl⟩ :=
    along_turns limit told.handled distinctTurns expected (by simp) alongTurns
  obtain ⟨celebration_said, leftThen, rfl⟩ := along_treats told.treats distinctCelebrations rfl
    (fun entry member => .inl (areMarks entry member)) alongCelebrations
  rw [advance_advance]
  exact ⟨turn_said, celebration_said, List.nil_append _, rfl⟩

/-- The faults of a scan are isolated. -/
theorem isolated (distinctReminders : (due.map (·.id)).Nodup)
    (distinctUsers : (birthdays.map (·.userId)).Nodup)
    (runs : (scanner.scan now).Runs (Program.AnsweredBy (answer due birthdays fates))
      (opening due birthdays store) said after (some (next, outcome))) :
    Isolated scanner now due birthdays store fates said next outcome after := by
  obtain ⟨minutes, tell⟩ := scan_minutes scanner.publishTimeout runs
  obtain ⟨middle, alongFront, alongBack⟩ := Program.along_append.1 (tell.trace_eq ▸ runs.along)
  have told : minutes.Told scanner.publishTimeout scanner now due birthdays said next outcome := by
    refine tell.told (fun reply rest begins => ?_) (fun reply rest begins => ?_)
    · rw [begins] at alongFront
      obtain ⟨between, responded, -⟩ := alongFront
      exact (Prod.mk.inj responded).1.symm
    · rw [begins] at alongBack
      obtain ⟨between, responded, -⟩ := alongBack
      exact (Prod.mk.inj responded).1.symm
  have distinctTurns : (minutes.turns.map (·.reminder.id)).Nodup := by
    rwa [← told.reminders_eq, List.map_map] at distinctReminders
  have distinctCelebrations : (minutes.celebrations.map (·.birthday.userId)).Nodup := by
    rwa [← told.birthdays_eq, List.map_map] at distinctUsers
  obtain ⟨turn_said, celebration_said, log_eq, store_eq⟩ :=
    told_along told distinctTurns distinctCelebrations runs.along
  have about_turns := log_eq ▸ about_turn minutes.celebrations distinctTurns
  have about_celebrations := log_eq ▸ about_celebration minutes.turns distinctCelebrations
  have quiet : ∀ celebration ∈ minutes.celebrations, ∀ answered ∈ celebration.said,
      answered.call.isMark = false := by
    intro celebration member answered isSaid
    rw [celebration_said celebration member] at isSaid
    exact (fates _).isMark_celebrationOf _ answered (List.mem_ite_nil_left.1 isSaid).2
  have each := told.treats.each distinctCelebrations
  constructor
  case said_eq =>
    rw [told.trace_eq, List.flatMap_congr turn_said, List.flatMap_congr celebration_said,
      ← told.reminders_eq, ← told.birthdays_eq, List.flatMap_map, List.flatMap_map]
  case reminder_said =>
    rw [← told.reminders_eq]
    refine List.forall_mem_map.2 fun turn member => ?_
    rw [about_turns turn member, turn_said turn member]
  case reminder_status =>
    intro id
    rw [log_eq, store_eq]
    exact get?_replay_own (marks_own told.handled quiet id) store
  case birthday_said =>
    rw [← told.birthdays_eq]
    refine List.forall_mem_map.2 fun celebration member => ?_
    rw [about_celebrations celebration member, celebration_said celebration member]
  case remembered =>
    rw [← told.birthdays_eq]
    refine List.forall_mem_map.2 fun celebration member => ?_
    rw [about_celebrations celebration member, (each celebration member).2]
  case counted =>
    have dropped : (minutes.celebrations.countP fun celebration =>
          !celebration.isSkipped && !celebration.birthday.fanOut.isOk) =
        minutes.celebrations.countP fun celebration =>
          !(scanner.handled.onDay now.date).contains celebration.birthday.userId &&
            !celebration.birthday.fanOut.isOk :=
      List.countP_congr fun celebration member => by simp [(each celebration member).1]
    refine ⟨_, told.outcome_eq, ?_⟩
    rw [tell.addsUp.failed_eq, inconvertible, dropped, ← told.reminders_eq, ← told.birthdays_eq,
      List.countP_map, List.countP_map]
    rfl

/-- A scan in which every item has its fate, and the stage after it. -/
def scanned (scanner : Scanner) (now : Instant) (due : List Reminder) (birthdays : List Birthday)
    (store : ReminderStore) (fates : Item → Fate) :
    (Scanner × Except IncompleteScan ScanReport) × Stage :=
  (scanner.scan now).run (answer due birthdays fates) (opening due birthdays store)

/-- What a scan has done about a reminder, and what it leaves of it in the store. -/
def ofReminder (ended : (Scanner × Except IncompleteScan ScanReport) × Stage) (id : ReminderId) :
    List Answered × Option Reminder :=
  (about ended.2.log (.reminder id), ended.2.store.get? id)

/-- What a scan has done about the birthday of a user, and whether it remembers the user. -/
def ofBirthday (ended : (Scanner × Except IncompleteScan ScanReport) × Stage) (user : UserId) :
    List Answered × Bool :=
  (about ended.2.log (.birthday user), ended.1.1.handled.contains user)

/-- Whatever the fates of the items of a scan, its faults are isolated; and what it does about an
item, and what it leaves of it, stay the same when other items have other fates. -/
theorem faults_isolated (distinctReminders : (due.map (·.id)).Nodup)
    (distinctUsers : (birthdays.map (·.userId)).Nodup) (scanner : Scanner) (now : Instant)
    (store : ReminderStore) :
    (∀ fates, Isolated scanner now due birthdays store fates
      ((scanner.scan now).transcript (answer due birthdays fates) (opening due birthdays store))
      (scanned scanner now due birthdays store fates).1.1
      (scanned scanner now due birthdays store fates).1.2
      (scanned scanner now due birthdays store fates).2) ∧
    ∀ fates others : Item → Fate,
      (∀ reminder ∈ due, others (.reminder reminder.id) = fates (.reminder reminder.id) →
        ofReminder (scanned scanner now due birthdays store others) reminder.id =
          ofReminder (scanned scanner now due birthdays store fates) reminder.id) ∧
      ∀ birthday ∈ birthdays,
        others (.birthday birthday.userId) = fates (.birthday birthday.userId) →
          ofBirthday (scanned scanner now due birthdays store others) birthday.userId =
            ofBirthday (scanned scanner now due birthdays store fates) birthday.userId := by
  have each : ∀ fates, Isolated scanner now due birthdays store fates
      ((scanner.scan now).transcript (answer due birthdays fates) (opening due birthdays store))
      (scanned scanner now due birthdays store fates).1.1
      (scanned scanner now due birthdays store fates).1.2
      (scanned scanner now due birthdays store fates).2 := fun fates =>
    isolated distinctReminders distinctUsers (Program.runs_answeredBy _ _ _)
  refine ⟨each, fun fates others =>
    ⟨fun reminder member same => ?_, fun birthday member same => ?_⟩⟩
  · have said := (each others).reminder_said reminder member
    rw [same, ← (each fates).reminder_said reminder member] at said
    refine Prod.ext said ?_
    show (scanned scanner now due birthdays store others).2.store.get? reminder.id =
      (scanned scanner now due birthdays store fates).2.store.get? reminder.id
    rw [(each others).reminder_status, (each fates).reminder_status, said, same]
  · have said := (each others).birthday_said birthday member
    rw [same, ← (each fates).birthday_said birthday member] at said
    refine Prod.ext said ?_
    show (scanned scanner now due birthdays store others).1.1.handled.contains birthday.userId =
      (scanned scanner now due birthdays store fates).1.1.handled.contains birthday.userId
    rw [(each others).remembered birthday member, (each fates).remembered birthday member, said]

/-- Two reminders that differ in their keys only: their tasks are published by the same calls. -/
def twins : List Reminder := [wish, { wish with id := ⟨2⟩ }]

/-- All calls succeed. -/
def smooth : Fate := ⟨some (.ok (.ofNat 1)), some (.ok (.ofNat 2)), some (.ok ()), true⟩

/-- The notification stays without an answer, and the mail and the mark fail. -/
def stuck : Fate :=
  ⟨none, some (.error (.unavailable "down")), some (.error (.unavailable "down")), false⟩

/-- The birthday of one user. -/
def party : List Birthday := [⟨⟨7⟩, "ada@example.com", "Ada"⟩]

/-- A scan of the twins and the birthday. -/
def twinScan (fates : Item → Fate) : (Scanner × Except IncompleteScan ScanReport) × Stage :=
  scanned watch (.midnight .epoch) twins party
    { ReminderStore.empty with reminders := twins } fates

/-- When all calls fail but those for the second twin, the first twin is kept and the birthday is
not remembered, and all is done about the second twin that is done when no call fails. -/
theorem faults_isolated_twins :
    (twinScan fun item => if item = .reminder ⟨2⟩ then smooth else stuck).2.store.reminders.map
        (·.status) = [.pending, .dispatched] ∧
      (twinScan fun item => if item = .reminder ⟨2⟩ then smooth else stuck).1.1.handled.contains
        ⟨7⟩ = false ∧
      ofReminder (twinScan fun item => if item = .reminder ⟨2⟩ then smooth else stuck) ⟨2⟩ =
        ofReminder (twinScan fun _ => smooth) ⟨2⟩ := by
  have distinct : (twins.map (·.id)).Nodup := by decide
  have alone : (party.map (·.userId)).Nodup := by decide
  have second : { wish with id := ⟨2⟩ } ∈ twins := by simp [twins]
  obtain ⟨-, alike⟩ := faults_isolated distinct alone watch (.midnight .epoch)
    { ReminderStore.empty with reminders := twins }
  refine ⟨by decide +kernel, by decide +kernel, ?_⟩
  exact (alike _ _).1 { wish with id := ⟨2⟩ } second rfl

end Stage

end ReminderDispatch
