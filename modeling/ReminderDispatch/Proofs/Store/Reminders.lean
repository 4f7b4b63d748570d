import Mathlib.Data.List.Nodup
import Mathlib.Logic.Function.Basic
import ReminderDispatch.Proofs.Dialogue
import ReminderDispatch.Store.Reminders

/-!
# The store of reminders in dialogues

How the store of reminders answers the calls of a program, when any of them may fail or stay without
an answer, and what becomes of a reminder in a dialogue: it stays as it is until it is marked.
-/

namespace ReminderDispatch

/-- The reminder after it was marked. -/
def Reminder.dispatched (reminder : Reminder) : Reminder := { reminder with status := .dispatched }

/-- A pending reminder is due from its time on. -/
theorem Reminder.isDue_of_pending {reminder : Reminder} {now : Instant}
    (pending : reminder.status = .pending) (begun : reminder.executeAt ≤ now) :
    reminder.isDue now = true := by
  simp [isDue, pending, begun]

namespace ReminderStore

variable {store after : ReminderStore} {id : ReminderId} {reminder : Reminder} {now : Instant}
  {trace : List Answered} {α : Type} {program : Program α} {out : Option α}

/-- The keys of the reminders, in the order of their insertion. -/
def keys (store : ReminderStore) : List ReminderId := store.reminders.map (·.id)

/-! ## Lookup -/

/-- A reminder that is found under a key has this key. -/
theorem get?_id (found : store.get? id = some reminder) : reminder.id = id := by
  simpa using List.find?_some found

/-- A reminder that is found is one of the store's. -/
theorem get?_mem (found : store.get? id = some reminder) : reminder ∈ store.reminders :=
  List.mem_of_find?_eq_some found

/-- With distinct keys, every reminder is found under its key. -/
theorem get?_of_mem (distinct : store.keys.Nodup) (member : reminder ∈ store.reminders) :
    store.get? reminder.id = some reminder := by
  cases found : store.get? reminder.id with
  | none =>
    simp only [get?, List.find?_eq_none, decide_eq_true_eq] at found
    exact absurd rfl (found reminder member)
  | some other =>
    have same : other.id = reminder.id := get?_id found
    rw [List.inj_on_of_nodup_map distinct (get?_mem found) member same]

/-- The change of one reminder leaves the keys as they are. -/
theorem keys_changeFirst (id : ReminderId) (reminders : List Reminder) :
    (changeFirst id Reminder.dispatched reminders).map (·.id) = reminders.map (·.id) := by
  induction reminders with
  | nil => rfl
  | cons first more ih =>
    unfold changeFirst
    split
    · rfl
    · rw [List.map_cons, List.map_cons, ih]

/-- Reminders of which those with some keys are dispatched. -/
def dispatching (ids : List ReminderId) (reminders : List Reminder) : List Reminder :=
  reminders.map fun reminder => if reminder.id ∈ ids then reminder.dispatched else reminder

/-- Where no key is given nothing is dispatched. -/
theorem dispatching_nil (reminders : List Reminder) : dispatching [] reminders = reminders := by
  simp [dispatching]

/-- Those with some keys are dispatched, and then those with others. -/
theorem dispatching_append (ids others : List ReminderId) (reminders : List Reminder) :
    dispatching (ids ++ others) reminders = dispatching others (dispatching ids reminders) := by
  unfold dispatching
  rw [List.map_map]
  refine List.map_congr_left fun reminder _ => ?_
  by_cases first : reminder.id ∈ ids
  · simp [first, Reminder.dispatched]
  · simp [first]

/-- The keys are the same when reminders are dispatched. -/
theorem keys_dispatching (ids : List ReminderId) (reminders : List Reminder) :
    (dispatching ids reminders).map (·.id) = reminders.map (·.id) := by
  unfold dispatching
  rw [List.map_map]
  refine List.map_congr_left fun reminder _ => ?_
  by_cases known : reminder.id ∈ ids
  · simp [known, Reminder.dispatched]
  · simp [known]

/-- A reminder with another key is as it was. -/
theorem dispatching_of_absent {reminders : List Reminder} (absent : id ∉ reminders.map (·.id)) :
    dispatching [id] reminders = reminders := by
  refine (List.map_congr_left fun reminder member => ?_).trans (List.map_id _)
  have different : reminder.id ≠ id := ne_of_mem_of_not_mem (List.mem_map_of_mem member) absent
  exact if_neg fun same => different (List.mem_singleton.1 same)

/-- The change of one reminder is seen under its key only. -/
theorem find?_changeFirst (id other : ReminderId) (reminders : List Reminder) :
    (changeFirst id Reminder.dispatched reminders).find? (fun reminder => reminder.id = other) =
      if other = id then (reminders.find? fun reminder => reminder.id = other).map (·.dispatched)
      else reminders.find? fun reminder => reminder.id = other := by
  induction reminders with
  | nil => simp [changeFirst]
  | cons first more ih =>
    unfold changeFirst
    by_cases isFirst : first.id = id
    · have same : first.dispatched.id = id := isFirst
      by_cases asked : other = id
      · simp [isFirst, same, asked]
      · simp [isFirst, same, asked, Ne.symm asked]
    · rw [if_neg isFirst, List.find?_cons, List.find?_cons, ih]
      by_cases asked : first.id = other
      · have different : other ≠ id := fun same => isFirst (asked.trans same)
        simp [asked, different]
      · simp [asked]

/-- A lookup finds nothing exactly for the keys that no reminder has. -/
theorem get?_eq_none_iff : store.get? id = none ↔ id ∉ store.keys := by
  simp only [get?, keys, List.find?_eq_none, decide_eq_true_eq, List.mem_map, not_exists, not_and]

/-! ## Marks -/

/-- A reminder that is there can be marked. -/
theorem mark_of_found (found : store.get? id = some reminder) :
    store.mark id =
      (.ok (), { store with
        reminders := changeFirst id Reminder.dispatched store.reminders }) := by
  unfold mark
  rw [found]
  rfl

/-- A mark for a key that no reminder has fails, and the store stays as it is. -/
theorem mark_of_absent (absent : id ∉ store.keys) :
    store.mark id = (.error (noReminder id), store) := by
  unfold mark
  rw [get?_eq_none_iff.2 absent]

/-- A mark changes the status of one reminder, and nothing else. -/
theorem mark_eq (marked : store.mark id = (.ok (), after)) :
    after = { store with reminders := changeFirst id Reminder.dispatched store.reminders } := by
  cases found : store.get? id with
  | none =>
    rw [mark_of_absent (get?_eq_none_iff.1 found)] at marked
    cases marked
  | some reminder =>
    rw [mark_of_found found] at marked
    exact (Prod.mk.inj marked).2.symm

/-- A mark that fails has not found the key, and changes nothing. -/
theorem mark_failed {failure : StoreError} (failed : store.mark id = (.error failure, after)) :
    id ∉ store.keys ∧ failure = noReminder id ∧ after = store := by
  cases found : store.get? id with
  | none =>
    have absent := get?_eq_none_iff.1 found
    rw [mark_of_absent absent] at failed
    cases failed
    exact ⟨absent, rfl, rfl⟩
  | some reminder =>
    rw [mark_of_found found] at failed
    cases failed

/-- A mark leaves the users as they are, whether it fails or not. -/
theorem users_mark (store : ReminderStore) (id : ReminderId) :
    (store.mark id).2.users = store.users := by
  unfold mark
  cases store.get? id <;> rfl

/-- A mark leaves the keys as they are. -/
theorem keys_mark (marked : store.mark id = (.ok (), after)) : after.keys = store.keys := by
  rw [mark_eq marked]
  exact keys_changeFirst id store.reminders

/-- A reminder is found as it was, or as dispatched when it is the one that was marked. -/
theorem get?_mark (marked : store.mark id = (.ok (), after)) (other : ReminderId) :
    after.get? other =
      if other = id then (store.get? other).map (·.dispatched) else store.get? other := by
  rw [mark_eq marked]
  exact find?_changeFirst id other store.reminders

/-- A reminder that was marked is dispatched. -/
theorem get?_mark_self (marked : store.mark id = (.ok (), after)) :
    ∃ reminder : Reminder, after.get? id = some reminder.dispatched := by
  cases found : store.get? id with
  | none =>
    rw [mark_of_absent (get?_eq_none_iff.1 found)] at marked
    cases marked
  | some reminder =>
    have next := get?_mark marked id
    rw [if_pos rfl, found] at next
    exact ⟨reminder, next.trans (Option.map_some ..)⟩

/-- With distinct keys, one reminder has the key, and all others stand before and behind it. -/
theorem exists_split (distinct : store.keys.Nodup) (found : store.get? id = some reminder) :
    ∃ front back, store.reminders = front ++ reminder :: back ∧
      ∀ other ∈ front ++ back, other.id ≠ id := by
  obtain ⟨front, back, split⟩ := List.append_of_mem (get?_mem found)
  refine ⟨front, back, split, fun other member => ?_⟩
  rw [keys, split, List.map_append, List.map_cons] at distinct
  have apart := (List.nodup_middle.1 distinct)
  rw [← List.map_append, get?_id found] at apart
  exact ne_of_mem_of_not_mem (List.mem_map_of_mem member) (List.nodup_cons.1 apart).1

/-! ## Deletions -/

/-- A reminder that is there can be deleted. -/
theorem delete_of_mem (member : id ∈ store.keys) :
    store.delete id =
      (.ok (), { store with reminders := store.reminders.filter (·.id ≠ id) }) := by
  obtain ⟨reminder, isStored, owner⟩ := List.mem_map.1 member
  have fewer : (store.reminders.filter (·.id ≠ id)).length ≠ store.reminders.length := by
    intro allLeft
    have isLeft := List.length_filter_eq_length_iff.1 allLeft reminder isStored
    exact of_decide_eq_true isLeft owner
  exact if_neg fewer

/-- If no reminder has the key a deletion fails, and the store stays as it is. -/
theorem delete_of_absent (absent : id ∉ store.keys) :
    store.delete id = (.error (noReminder id), store) := by
  have all : store.reminders.filter (·.id ≠ id) = store.reminders :=
    List.filter_eq_self.2 fun reminder member =>
      decide_eq_true (ne_of_mem_of_not_mem (List.mem_map_of_mem member) absent)
  unfold delete
  rw [all, if_pos rfl]

/-- A deletion leaves the reminders with other keys, and nothing else has changed. -/
theorem delete_eq (deleted : store.delete id = (.ok (), after)) :
    id ∈ store.keys ∧ after = { store with reminders := store.reminders.filter (·.id ≠ id) } := by
  by_cases member : id ∈ store.keys
  · rw [delete_of_mem member] at deleted
    exact ⟨member, (Prod.mk.inj deleted).2.symm⟩
  · rw [delete_of_absent member] at deleted
    cases deleted

/-- A deletion that fails has not found the key, and changes nothing. -/
theorem delete_failed {failure : StoreError}
    (failed : store.delete id = (.error failure, after)) :
    id ∉ store.keys ∧ failure = noReminder id ∧ after = store := by
  by_cases member : id ∈ store.keys
  · rw [delete_of_mem member] at failed
    cases failed
  · rw [delete_of_absent member] at failed
    cases failed
    exact ⟨member, rfl, rfl⟩

/-- Reminders with other keys are found as before after a deletion. -/
theorem get?_delete (deleted : store.delete id = (.ok (), after)) {other : ReminderId}
    (different : other ≠ id) : after.get? other = store.get? other := by
  rw [(delete_eq deleted).2]
  unfold get?
  rw [List.find?_filter]
  congr 1
  funext reminder
  by_cases asked : reminder.id = other <;> simp [asked, different]

/-- With distinct keys, a deletion takes out one reminder. -/
theorem delete_split (distinct : store.keys.Nodup) (deleted : store.delete id = (.ok (), after)) :
    ∃ front reminder back, store.reminders = front ++ reminder :: back ∧ reminder.id = id ∧
      (∀ other ∈ front ++ back, other.id ≠ id) ∧
      after = { store with reminders := front ++ back } := by
  obtain ⟨member, changed⟩ := delete_eq deleted
  cases found : store.get? id with
  | none => exact absurd member (get?_eq_none_iff.1 found)
  | some reminder =>
    obtain ⟨front, back, split, others⟩ := exists_split distinct found
    have owner := get?_id found
    refine ⟨front, reminder, back, split, owner, others, ?_⟩
    have kept : (front ++ reminder :: back).filter (·.id ≠ id) = front ++ back := by
      have all : (front ++ back).filter (·.id ≠ id) = front ++ back :=
        List.filter_eq_self.2 fun other member => decide_eq_true (others other member)
      rw [List.filter_append, List.filter_cons_of_neg (by simp [owner]), ← List.filter_append, all]
    rw [changed, split, kept]

/-! ## Marks of distinct keys -/

/-- The first reminder with a key is changed, and those before and behind it are not. -/
theorem changeFirst_split {front back : List Reminder} (change : Reminder → Reminder)
    (before : ∀ other ∈ front, other.id ≠ id) (owner : reminder.id = id) :
    changeFirst id change (front ++ reminder :: back) = front ++ change reminder :: back := by
  induction front with
  | nil => exact if_pos owner
  | cons first more ih =>
    obtain ⟨other, others⟩ := List.forall_mem_cons.1 before
    exact (if_neg other).trans (congrArg (first :: ·) (ih others))

/-- With distinct keys, to change the first reminder with a key is to dispatch all with it. -/
theorem changeFirst_eq_dispatching {reminders : List Reminder}
    (distinct : (reminders.map (·.id)).Nodup) (id : ReminderId) :
    changeFirst id Reminder.dispatched reminders = dispatching [id] reminders := by
  induction reminders with
  | nil => rfl
  | cons first more ih =>
    obtain ⟨apart, distinctRest⟩ := List.nodup_cons.1 distinct
    have split : dispatching [id] (first :: more) =
        (if first.id ∈ [id] then first.dispatched else first) :: dispatching [id] more := rfl
    unfold changeFirst
    rw [split]
    by_cases isFirst : first.id = id
    · have absent : id ∉ more.map (·.id) := isFirst ▸ apart
      rw [if_pos isFirst, dispatching_of_absent absent, if_pos (List.mem_singleton.2 isFirst)]
    · rw [if_neg isFirst, ih distinctRest, if_neg fun same => isFirst (List.mem_singleton.1 same)]

/-- With distinct keys, a mark dispatches the reminder with the key, if there is one. -/
theorem mark_snd (distinct : store.keys.Nodup) (id : ReminderId) :
    (store.mark id).2 = { store with reminders := dispatching [id] store.reminders } := by
  cases found : store.get? id with
  | none =>
    have absent := get?_eq_none_iff.1 found
    rw [mark_of_absent absent, dispatching_of_absent absent]
  | some reminder => rw [mark_of_found found, changeFirst_eq_dispatching distinct]

/-- With distinct keys, a mark changes one reminder, and to mark it again changes nothing. -/
theorem mark_split (distinct : store.keys.Nodup) (marked : store.mark id = (.ok (), after)) :
    after.mark id = (.ok (), after) ∧
      ∃ front reminder back, store.reminders = front ++ reminder :: back ∧ reminder.id = id ∧
        (∀ other ∈ front ++ back, other.id ≠ id) ∧
        after = { store with reminders := front ++ reminder.dispatched :: back } := by
  cases found : store.get? id with
  | none =>
    rw [mark_of_absent (get?_eq_none_iff.1 found)] at marked
    cases marked
  | some reminder =>
    obtain ⟨front, back, split, others⟩ := exists_split distinct found
    have owner := get?_id found
    have before : ∀ other ∈ front, other.id ≠ id := fun other member =>
      others other (List.mem_append_left _ member)
    have changed := mark_eq marked
    rw [split, changeFirst_split _ before owner] at changed
    refine ⟨?_, front, reminder, back, split, owner, others, changed⟩
    obtain ⟨same, stillFound⟩ := get?_mark_self marked
    have again : changeFirst id Reminder.dispatched after.reminders = after.reminders := by
      rw [changed]
      exact changeFirst_split _ before owner
    rw [mark_of_found stillFound, again]

/-! ## Due reminders -/

/-- The due reminders are the pending ones whose time has come. -/
theorem dueReminders_eq (store : ReminderStore) (now : Instant) :
    store.dueReminders now = store.reminders.filter fun reminder =>
      reminder.status = .pending ∧ reminder.executeAt ≤ now := by
  refine List.filter_congr fun reminder _ => ?_
  rw [Bool.eq_iff_iff]
  simp [Reminder.isDue]

/-- With distinct keys, to dispatch those with the keys of due reminders is to dispatch the due
ones. -/
theorem dispatching_due (distinct : store.keys.Nodup) (now : Instant) :
    dispatching ((store.dueReminders now).map (·.id)) store.reminders =
      store.reminders.map fun reminder =>
        if reminder.status = .pending ∧ reminder.executeAt ≤ now then reminder.dispatched
        else reminder := by
  refine List.map_congr_left fun reminder member => if_congr ?_ rfl rfl
  rw [dueReminders_eq]
  constructor
  · intro known
    obtain ⟨other, isDue, same⟩ := List.mem_map.1 known
    obtain ⟨isStored, pending⟩ := List.mem_filter.1 isDue
    rw [← List.inj_on_of_nodup_map distinct isStored member same]
    exact of_decide_eq_true pending
  · intro pending
    exact List.mem_map_of_mem (List.mem_filter.2 ⟨member, decide_eq_true pending⟩)

/-! ## Creation -/

/-- What can come of a creation: the request is incomplete, or no number is left, or the reminder has
the parts of the request and the number after the last one and is stored behind all others. Only in
the last case anything changes. -/
inductive Creates (store : ReminderStore) (request : ReminderRequest) :
    Option (Except StoreError Reminder) → ReminderStore → Prop where
  /-- A part of the request is missing. -/
  | refused {missing : String} (incomplete : request.validate = .error missing) :
      Creates store request (some (.error (.validation ⟨missing⟩))) store
  /-- No number is left. -/
  | brokenOff {time : Instant} (complete : request.validate = .ok time)
      (full : store.lastId = .maxValue) : Creates store request none store
  /-- The reminder was created. -/
  | created {time : Instant} {number : Int64} (complete : request.validate = .ok time)
      (next : nextNumber? store.lastId = some number) {reminder : Reminder}
      (parts : reminder = ⟨⟨number⟩, request.userId, request.email, request.title, request.body,
        request.kind, time, .pending⟩) :
      Creates store request (some (.ok reminder)) { store with
        lastId := number
        reminders := store.reminders ++ [reminder] }

/-- Nothing else comes of a creation. -/
theorem creates (store : ReminderStore) (request : ReminderRequest) :
    store.Creates request (store.create request).1 (store.create request).2 := by
  unfold create
  cases checked : request.validate with
  | error missing => exact .refused checked
  | ok time =>
    cases next : nextNumber? store.lastId with
    | none => exact .brokenOff checked (nextNumber?_eq_none_iff.1 next)
    | some number => exact .created checked next rfl

/-- A creation has come out in one of the ways that there are. -/
theorem creates_of_eq {request : ReminderRequest} {made : Option (Except StoreError Reminder)}
    (eq : store.create request = (made, after)) : store.Creates request made after := by
  have creates := store.creates request
  rwa [eq] at creates

/-! ## Answers -/

/-- How the store answers a call, and the store afterwards. Any call may fail, or stay without an
answer until its limit has passed. A mark that is said to have succeeded has taken effect; one that
seems to have failed may have taken effect. What the broker answers does not concern the store. -/
inductive Responds : (call : Call) → Option call.Reply → ReminderStore → ReminderStore → Prop where
  /-- The reminders that are due. -/
  | reminders (now : Instant) (store : ReminderStore) :
      Responds (.dueReminders now) (some (.ok (store.dueReminders now))) store store
  /-- Today's birthdays. -/
  | birthdays (now : Instant) (store : ReminderStore) :
      Responds (.dueBirthdays now) (some (.ok (store.dueBirthdays now))) store store
  /-- A mark has taken effect, whatever is heard of it. -/
  | marked {id : ReminderId} {store after : ReminderStore}
      (marked : store.mark id = (.ok (), after)) (reply : Option (Call.mark id).Reply) :
      Responds (.mark id) reply store after
  /-- The broker has accepted a task. -/
  | published (type : TaskType) (body : List UInt8) (id : TaskId) (store : ReminderStore) :
      Responds (.publish type body) (some (.ok id)) store store
  /-- A call has failed. -/
  | failed (call : Call) (failure : call.Failure) (store : ReminderStore) :
      Responds call (some (.error failure)) store store
  /-- A call stays without an answer. -/
  | silent (call : Call) (store : ReminderStore) : Responds call none store store

/-- A store that answers every call at once, beside a broker that accepts every task. -/
def promptly : (call : Call) → ReminderStore → Option call.Reply × ReminderStore
  | .dueReminders now, store => (some (.ok (store.dueReminders now)), store)
  | .dueBirthdays now, store => (some (.ok (store.dueBirthdays now)), store)
  | .publish _ _, store => (some (.ok (.ofNat 1)), store)
  | .mark id, store =>
    let (outcome, after) := store.mark id
    (some outcome, after)
  | .createNotification _, store | .send _, store | .handOver _, store => (none, store)

/-- The prompt answers are among those that may be given. -/
theorem responds_promptly (call : Call) (store : ReminderStore) :
    Responds call (promptly call store).1 store (promptly call store).2 := by
  cases call with
  | dueReminders now => exact .reminders now store
  | dueBirthdays now => exact .birthdays now store
  | publish type body => exact .published type body _ store
  | mark id =>
    change Responds (.mark id) (some (store.mark id).1) store (store.mark id).2
    rcases marked : store.mark id with ⟨failure | ⟨⟩, after⟩
    · obtain ⟨-, -, rfl⟩ := mark_failed marked
      exact .failed (.mark id) failure after
    · exact .marked marked _
  | createNotification | send | handOver => exact .silent _ store

/-- An answer leaves the store as it is, unless the call was a mark that took effect. -/
theorem Responds.cases_eq {call : Call} {reply : Option call.Reply}
    (responds : Responds call reply store after) :
    after = store ∨ ∃ id, call = .mark id ∧ store.mark id = (.ok (), after) := by
  cases responds with
  | marked marked reply => exact .inr ⟨_, rfl, marked⟩
  | reminders | birthdays | published | failed | silent => exact .inl rfl

/-- A mark that is said to have succeeded has taken effect. -/
theorem Responds.marks {reply : Option (Call.mark id).Reply}
    (responds : Responds (.mark id) reply store after)
    (succeeded : Answered.isOk ⟨.mark id, reply⟩ = true) :
    store.mark id = (.ok (), after) := by
  cases responds with
  | marked marked reply => exact marked
  | failed | silent => contradiction

/-- A dialogue leaves the keys as they are. -/
theorem keys_runs (runs : program.Runs Responds store trace after out) :
    after.keys = store.keys := by
  induction runs with
  | done value store => rfl
  | cut program store => rfl
  | ask answered _ ih =>
    rcases answered.cases_eq with rfl | ⟨id, -, marked⟩
    · exact ih
    · exact ih.trans (keys_mark marked)

/-- A dialogue leaves the users as they are. -/
theorem users_runs (runs : program.Runs Responds store trace after out) :
    after.users = store.users := by
  induction runs with
  | done value store => rfl
  | cut program store => rfl
  | ask answered _ ih =>
    rcases answered.cases_eq with rfl | ⟨id, -, marked⟩
    · exact ih
    · rw [ih, mark_eq marked]

/-- A dispatched reminder stays so. -/
theorem get?_runs_dispatched (runs : program.Runs Responds store trace after out)
    (found : store.get? id = some reminder.dispatched) :
    after.get? id = some reminder.dispatched := by
  induction runs with
  | done value store => exact found
  | cut program store => exact found
  | ask answered _ ih =>
    rcases answered.cases_eq with rfl | ⟨other, -, marked⟩
    · exact ih found
    · apply ih
      rw [get?_mark marked, found]
      exact ite_self _

/-- In a dialogue a reminder stays as it is, or it is marked and dispatched. -/
theorem get?_runs (runs : program.Runs Responds store trace after out)
    (found : store.get? id = some reminder) :
    after.get? id = some reminder ∨ after.get? id = some reminder.dispatched ∧
      ∃ answered ∈ trace, answered.call = .mark id := by
  induction runs with
  | done value store => exact .inl found
  | cut program store => exact .inl found
  | ask answered goesOn ih =>
    have later : ∀ more : List Answered, ∀ first, (∃ answered ∈ more, answered.call = .mark id) →
        ∃ answered ∈ first :: more, answered.call = .mark id := by
      rintro more first ⟨mark, member, isMark⟩
      exact ⟨mark, List.mem_cons_of_mem first member, isMark⟩
    rcases answered.cases_eq with rfl | ⟨other, isMark, marked⟩
    · exact (ih found).imp_right (And.imp_right (later _ _))
    · have next := get?_mark marked id
      by_cases same : id = other
      · rw [if_pos same, found] at next
        refine .inr ⟨get?_runs_dispatched goesOn next, ?_⟩
        exact ⟨_, List.mem_cons_self, isMark.trans (congrArg Call.mark same.symm)⟩
      · rw [if_neg same, found] at next
        exact (ih next).imp_right (And.imp_right (later _ _))

/-- A reminder that was marked with success is dispatched from then on. -/
theorem get?_runs_marked {answered : Answered} (runs : program.Runs Responds store trace after out)
    (member : answered ∈ trace) (isMark : answered.call = .mark id)
    (succeeded : answered.isOk = true) :
    ∃ reminder : Reminder, after.get? id = some reminder.dispatched := by
  induction runs with
  | done value store => exact absurd member List.not_mem_nil
  | cut program store => exact absurd member List.not_mem_nil
  | ask responds goesOn ih =>
    rcases List.mem_cons.1 member with rfl | later
    · clear ih
      subst isMark
      obtain ⟨reminder, found⟩ := get?_mark_self (responds.marks succeeded)
      exact ⟨reminder, get?_runs_dispatched goesOn found⟩
    · exact ih later

/-- A dispatched reminder is not due. -/
theorem ne_of_mem_dueReminders {other : Reminder} (distinct : store.keys.Nodup)
    (found : store.get? id = some reminder.dispatched) (isDue : other ∈ store.dueReminders now) :
    other.id ≠ id := by
  rintro rfl
  obtain ⟨member, pending⟩ := List.mem_filter.1 isDue
  obtain rfl := Option.some.inj ((get?_of_mem distinct member).symm.trans found)
  simp [Reminder.isDue, Reminder.dispatched] at pending

end ReminderStore

end ReminderDispatch
