import ReminderDispatch.Proofs.Lists
import ReminderDispatch.Proofs.Machine
import ReminderDispatch.Proofs.Store.Reminders

/-!
# The store of reminders over its whole life

Reminders are inserted under keys of their own or created under the next number, they are marked and
deleted, in any order. An archive is a store in use, with the keys of all reminders that were ever
stored. The keys are distinct because a number that was given once lies behind the last number for
good; so it does not matter that one operation looks at the first reminder with a key and another
one at all of them.

Numbers have 64 bits. A created reminder gets a greater key than any reminder before it, also before
those that are deleted. When the greatest number is given no key is greater: a creation then breaks
off, and nothing changes.
-/

namespace ReminderDispatch

/-- What is asked of a store of reminders. -/
inductive StoreRequest where
  /-- Insert a reminder as it is. -/
  | insert (reminder : Reminder)
  /-- Create a reminder. -/
  | create (request : ReminderRequest)
  /-- Delete the reminder with a key. -/
  | delete (id : ReminderId)
  /-- Mark the reminder with a key as dispatched. -/
  | mark (id : ReminderId)
  /-- Insert a user. -/
  | addUser (user : User)
  deriving DecidableEq, Repr

/-- A store in use. -/
structure Archive where
  /-- The store. -/
  store : ReminderStore
  /-- The keys of all reminders that were ever stored, in order. -/
  stored : List ReminderId
  deriving DecidableEq, Repr

namespace Archive

variable (archive : Archive)

/-- Nothing was ever stored. -/
def empty : Archive := ⟨.empty, []⟩

/-- The outcome of a request, and the archive as the request has left it. There is no outcome when
the request breaks off. -/
def answer : StoreRequest → Option (Except StoreError Unit) × Archive
  | .insert reminder =>
    (some (.ok ()), ⟨archive.store.insert reminder, archive.stored ++ [reminder.id]⟩)
  | .create request =>
    let (made, store) := archive.store.create request
    match made with
    | some (.ok reminder) => (some (.ok ()), ⟨store, archive.stored ++ [reminder.id]⟩)
    | some (.error failure) => (some (.error failure), { archive with store := store })
    | none => (none, { archive with store := store })
  | .delete id =>
    let (outcome, store) := archive.store.delete id
    (some outcome, { archive with store := store })
  | .mark id =>
    let (outcome, store) := archive.store.mark id
    (some outcome, { archive with store := store })
  | .addUser user => (some (.ok ()), { archive with store := archive.store.addUser user })

/-- The archive after a request. -/
def perform (request : StoreRequest) : Archive := (archive.answer request).2

/-- No reminder is inserted under a key that is there. -/
def Allows : StoreRequest → Prop
  | .insert reminder => reminder.id ∉ archive.store.keys
  | .create _ | .delete _ | .mark _ | .addUser _ => True

instance (request : StoreRequest) : Decidable (archive.Allows request) :=
  match request with
  | .insert reminder => inferInstanceAs (Decidable (reminder.id ∉ archive.store.keys))
  | .create _ | .delete _ | .mark _ | .addUser _ => .isTrue trivial

/-- Archives and the requests to their stores. -/
def machine : Machine Archive StoreRequest := ⟨Allows, perform⟩

instance (archive : Archive) (request : StoreRequest) :
    Decidable (machine.Allows archive request) :=
  inferInstanceAs (Decidable (archive.Allows request))

variable {archive : Archive} {id : ReminderId} {reminder : Reminder} {after : ReminderStore}

/-! ## Numbers -/

/-- The next number is greater. -/
theorem lt_next {last next : Int64} (counts : nextNumber? last = some next) : last < next := by
  rw [Int64.lt_iff_toInt_lt, toInt_of_nextNumber? counts]
  exact Int.lt_succ _

/-- The greater one of two numbers is not less than either of them. -/
theorem le_max (first second : Int64) :
    first ≤ max first second ∧ second ≤ max first second := by
  have greater : max first second = if first ≤ second then second else first := rfl
  rw [greater]
  split
  · exact ⟨‹_›, Int64.le_refl _⟩
  · exact ⟨Int64.le_refl _, (Int64.le_total first second).resolve_left ‹_›⟩

/-! ## One request -/

/-- The store refuses a request: a part of it is missing, or there is no reminder with the key. -/
inductive Refuses (archive : Archive) : StoreRequest → StoreError → Prop where
  /-- A reminder cannot be created without some part. -/
  | create {request : ReminderRequest} {missing : String}
      (incomplete : request.validate = .error missing) :
      Refuses archive (.create request) (.validation ⟨missing⟩)
  /-- A reminder that is not there cannot be deleted. -/
  | delete {id : ReminderId} (absent : id ∉ archive.store.keys) :
      Refuses archive (.delete id) (ReminderStore.noReminder id)
  /-- A reminder that is not there cannot be marked. -/
  | mark {id : ReminderId} (absent : id ∉ archive.store.keys) :
      Refuses archive (.mark id) (ReminderStore.noReminder id)

/-- What one request can do to an archive, with its outcome. -/
inductive Change (before : Archive) :
    StoreRequest → Option (Except StoreError Unit) → Archive → Prop where
  /-- The request was refused. -/
  | refuse {request : StoreRequest} {failure : StoreError}
      (refuses : before.Refuses request failure) :
      Change before request (some (.error failure)) before
  /-- The request has broken off. -/
  | breakOff {request : ReminderRequest} {time : Instant} (complete : request.validate = .ok time)
      (full : before.store.lastId = .maxValue) : Change before (.create request) none before
  /-- A reminder was inserted. -/
  | insert (reminder : Reminder) :
      Change before (.insert reminder) (some (.ok ()))
        ⟨before.store.insert reminder, before.stored ++ [reminder.id]⟩
  /-- A reminder was created. -/
  | create {request : ReminderRequest} {reminder : Reminder} {store : ReminderStore}
      (created : before.store.create request = (some (.ok reminder), store)) :
      Change before (.create request) (some (.ok ())) ⟨store, before.stored ++ [reminder.id]⟩
  /-- A reminder was deleted. -/
  | delete {id : ReminderId} {store : ReminderStore}
      (deleted : before.store.delete id = (.ok (), store)) :
      Change before (.delete id) (some (.ok ())) { before with store := store }
  /-- A reminder was marked. -/
  | mark {id : ReminderId} {store : ReminderStore}
      (marked : before.store.mark id = (.ok (), store)) :
      Change before (.mark id) (some (.ok ())) { before with store := store }
  /-- A user was inserted. -/
  | addUser (user : User) :
      Change before (.addUser user) (some (.ok ()))
        { before with store := before.store.addUser user }

/-- Every request makes one of the listed changes, and comes out as listed. -/
theorem change (archive : Archive) (request : StoreRequest) :
    archive.Change request (archive.answer request).1 (archive.answer request).2 := by
  cases request with
  | insert reminder => exact .insert reminder
  | create request =>
    rcases made : archive.store.create request with ⟨outcome, store⟩
    simp only [answer, made]
    cases ReminderStore.creates_of_eq made with
    | refused incomplete => exact .refuse (.create incomplete)
    | brokenOff complete full => exact .breakOff complete full
    | created => exact .create made
  | delete id =>
    rcases deleted : archive.store.delete id with ⟨failure | ⟨⟩, store⟩
    · obtain ⟨absent, rfl, rfl⟩ := ReminderStore.delete_failed deleted
      simp only [answer, deleted]
      exact .refuse (.delete absent)
    · simp only [answer, deleted]
      exact .delete deleted
  | mark id =>
    rcases marked : archive.store.mark id with ⟨failure | ⟨⟩, store⟩
    · obtain ⟨absent, rfl, rfl⟩ := ReminderStore.mark_failed marked
      simp only [answer, marked]
      exact .refuse (.mark absent)
    · simp only [answer, marked]
      exact .mark marked
  | addUser user => exact .addUser user

/-- The keys are distinct and in the order in which they were stored, and none is greater than the
last number. -/
structure Sound (archive : Archive) : Prop where
  /-- No two reminders have one key. -/
  distinct : archive.store.keys.Nodup
  /-- The reminders are in the order in which they were stored. -/
  in_order : archive.store.keys.Sublist archive.stored
  /-- The last number is the greatest one. -/
  bounded : ∀ id ∈ archive.stored, id.value ≤ archive.store.lastId

/-- Nothing was stored in an empty archive. -/
theorem empty_sound : empty.Sound := ⟨List.nodup_nil, .refl _, by simp [empty]⟩

/-- A reminder that is stored behind all others has a key of its own. -/
theorem Sound.append (sound : archive.Sound) (fresh : reminder.id ∉ archive.store.keys)
    {lastId : Int64} (grows : archive.store.lastId ≤ lastId) (within : reminder.id.value ≤ lastId) :
    Sound ⟨{ archive.store with
      lastId := lastId
      reminders := archive.store.reminders ++ [reminder] }, archive.stored ++ [reminder.id]⟩ := by
  have keys : (archive.store.reminders ++ [reminder]).map (·.id) =
      archive.store.keys ++ [reminder.id] := List.map_append
  refine ⟨?_, ?_, fun id member => ?_⟩
  · unfold ReminderStore.keys
    rw [keys]
    exact nodup_append_singleton sound.distinct fresh
  · unfold ReminderStore.keys
    rw [keys]
    exact sound.in_order.append (.refl _)
  · rcases List.mem_append.1 member with earlier | new
    · exact Int64.le_trans (sound.bounded id earlier) grows
    · rw [List.mem_singleton.1 new]
      exact within

/-- A created reminder has a greater key than any reminder that was ever stored, and is put behind all
others. -/
theorem Sound.lt_create (sound : archive.Sound) {request : ReminderRequest}
    (created : archive.store.create request = (some (.ok reminder), after)) :
    (∀ id ∈ archive.stored, id.value < reminder.id.value) ∧
      after = { archive.store with
        lastId := reminder.id.value
        reminders := archive.store.reminders ++ [reminder] } := by
  cases ReminderStore.creates_of_eq created with
  | created complete next parts =>
    rw [parts]
    exact ⟨fun id member => Int64.lt_of_le_of_lt (sound.bounded id member) (lt_next next), rfl⟩

/-- Every change keeps the keys distinct and in order. -/
theorem Sound.of_change (sound : archive.Sound) {request : StoreRequest}
    {outcome : Option (Except StoreError Unit)} {later : Archive}
    (allowed : archive.Allows request) (change : archive.Change request outcome later) :
    later.Sound := by
  cases change with
  | refuse | breakOff => exact sound
  | insert reminder =>
    obtain ⟨grows, within⟩ := le_max archive.store.lastId reminder.id.value
    exact sound.append allowed grows within
  | @create request reminder store created =>
    obtain ⟨greater, rfl⟩ := sound.lt_create created
    have fresh : reminder.id ∉ archive.store.keys := fun member =>
      Int64.lt_irrefl (greater _ (sound.in_order.subset member))
    have grows : archive.store.lastId ≤ reminder.id.value := by
      cases ReminderStore.creates_of_eq created with
      | created complete next parts =>
        rw [parts]
        exact Int64.le_of_lt (lt_next next)
    exact sound.append fresh grows (Int64.le_refl _)
  | @delete id store deleted =>
    have left : store.keys.Sublist archive.store.keys := by
      rw [(ReminderStore.delete_eq deleted).2]
      exact List.filter_sublist.map _
    have lastId : store.lastId = archive.store.lastId := by
      rw [(ReminderStore.delete_eq deleted).2]
    exact ⟨sound.distinct.sublist left, left.trans sound.in_order,
      fun id member => lastId ▸ sound.bounded id member⟩
  | @mark id store marked =>
    have keys : store.keys = archive.store.keys := ReminderStore.keys_mark marked
    have lastId : store.lastId = archive.store.lastId := by rw [ReminderStore.mark_eq marked]
    exact ⟨keys ▸ sound.distinct, keys ▸ sound.in_order,
      fun id member => lastId ▸ sound.bounded id member⟩
  | addUser user => exact ⟨sound.distinct, sound.in_order, sound.bounded⟩

/-- The keys are distinct and in order in every archive. -/
theorem Sound.leads {later : Archive} (sound : archive.Sound)
    (run : machine.Leads archive later) : later.Sound := by
  induction run with
  | refl => exact sound
  | tail _ step sound =>
    obtain ⟨request, allowed, rfl⟩ := step
    exact sound.of_change allowed (change _ request)

/-! ## The life of a reminder -/

/-- A change that does not delete a reminder leaves it as it is or marks it. -/
theorem get?_of_change (found : archive.store.get? id = some reminder) {request : StoreRequest}
    {outcome : Option (Except StoreError Unit)} {later : Archive} (kept : request ≠ .delete id)
    (change : archive.Change request outcome later) :
    later.store.get? id = some reminder ∨ later.store.get? id = some reminder.dispatched := by
  have appended (new : Reminder) :
      (archive.store.reminders ++ [new]).find? (fun reminder => reminder.id = id) =
        some reminder := by
    have first : archive.store.reminders.find? (fun reminder => reminder.id = id) =
        some reminder := found
    rw [List.find?_append, first, Option.some_or]
  cases change with
  | refuse | breakOff => exact .inl found
  | insert new => exact .inl (appended new)
  | @create request new store created =>
    cases ReminderStore.creates_of_eq created with
    | created complete next parts => exact .inl (appended new)
  | @delete other store deleted =>
    have different : id ≠ other := fun same => kept (congrArg StoreRequest.delete same.symm)
    exact .inl ((ReminderStore.get?_delete deleted different).trans found)
  | @mark other store marked =>
    have next := ReminderStore.get?_mark marked id
    rw [found] at next
    by_cases same : id = other
    · rw [if_pos same] at next
      exact .inr next
    · rw [if_neg same] at next
      exact .inl next
  | addUser user => exact .inl found

/-- Until a reminder is deleted it stays as it is, but for the one change of its status. -/
theorem get?_run (found : archive.store.get? id = some reminder) {requests : List StoreRequest}
    (kept : .delete id ∉ requests) :
    (machine.run archive requests).store.get? id = some reminder ∨
      (machine.run archive requests).store.get? id = some reminder.dispatched := by
  induction requests generalizing archive reminder with
  | nil => exact .inl found
  | cons request more ih =>
    rw [List.mem_cons, not_or] at kept
    obtain ⟨first, rest⟩ := kept
    rcases get?_of_change found (Ne.symm first) (change archive request) with same | marked
    · exact ih same rest
    · exact .inr ((or_self_iff).1 (ih marked rest))

/-! ## Archives in use -/

/-- What can be relied on in a store in use. -/
structure Orderly (archive : Archive) : Prop where
  /-- No two reminders have one key. -/
  distinct : archive.store.keys.Nodup
  /-- The reminders are in the order in which they were stored. -/
  in_order : archive.store.keys.Sublist archive.stored
  /-- A created reminder is put behind all others, under a greater key than any reminder that was
  ever stored. -/
  creates : ∀ request reminder after,
    archive.store.create request = (some (.ok reminder), after) →
      (∀ id ∈ archive.stored, id.value < reminder.id.value) ∧
        after = { archive.store with
          lastId := reminder.id.value
          reminders := archive.store.reminders ++ [reminder] }
  /-- As long as the greatest number is not given, a reminder is created from every valid request. -/
  accepts : archive.store.lastId ≠ .maxValue → ∀ request time, request.validate = .ok time →
    ∃ reminder after, archive.store.create request = (some (.ok reminder), after)
  /-- A request breaks off only if it is to create a reminder and the greatest number is given, and
  changes nothing then. -/
  breaksOff : ∀ request after, archive.answer request = (none, after) →
    (∃ creation, request = .create creation) ∧ archive.store.lastId = .maxValue ∧ after = archive
  /-- A mark changes the status of the reminder with the key and nothing else, and a second mark
  changes nothing. -/
  marks : ∀ id after, archive.store.mark id = (.ok (), after) →
    after.mark id = (.ok (), after) ∧
      ∃ front reminder back, archive.store.reminders = front ++ reminder :: back ∧
        reminder.id = id ∧ (∀ other ∈ front ++ back, other.id ≠ id) ∧
        after = { archive.store with reminders := front ++ reminder.dispatched :: back }
  /-- A deletion takes out the reminder with the key and nothing else. -/
  deletes : ∀ id after, archive.store.delete id = (.ok (), after) →
    ∃ front reminder back, archive.store.reminders = front ++ reminder :: back ∧
      reminder.id = id ∧ (∀ other ∈ front ++ back, other.id ≠ id) ∧
      after = { archive.store with reminders := front ++ back }
  /-- Until a reminder is deleted it stays as it is, but for the one change of its status. -/
  keeps : ∀ id reminder requests, archive.store.get? id = some reminder →
    .delete id ∉ requests →
      (machine.run archive requests).store.get? id = some reminder ∨
        (machine.run archive requests).store.get? id = some reminder.dispatched
  /-- The due reminders are the pending ones whose time has come, in the order of the store. -/
  due_eq : ∀ now, archive.store.dueReminders now =
    archive.store.reminders.filter fun reminder =>
      reminder.status = .pending ∧ reminder.executeAt ≤ now
  /-- A request fails if a part is missing or no reminder has the key, and changes nothing then. -/
  refuses : ∀ request failure after, archive.answer request = (some (.error failure), after) →
    archive.Refuses request failure ∧ after = archive

/-- A request that breaks off has met the greatest number, and changes nothing. -/
theorem breaksOff_of_answer {request : StoreRequest} {later : Archive}
    (brokenOff : archive.answer request = (none, later)) :
    (∃ creation, request = .create creation) ∧ archive.store.lastId = .maxValue ∧
      later = archive := by
  have change := archive.change request
  rw [brokenOff] at change
  cases change with
  | breakOff complete full => exact ⟨⟨_, rfl⟩, full, rfl⟩

/-- A request that fails is refused, and changes nothing. -/
theorem refuses_of_answer {request : StoreRequest} {failure : StoreError} {later : Archive}
    (failed : archive.answer request = (some (.error failure), later)) :
    archive.Refuses request failure ∧ later = archive := by
  have change := archive.change request
  rw [failed] at change
  cases change with
  | refuse refuses => exact ⟨refuses, rfl⟩

/-- A valid request is met as long as the greatest number is not given. -/
theorem exists_created (store : ReminderStore) (isLeft : store.lastId ≠ .maxValue)
    {request : ReminderRequest} {time : Instant} (valid : request.validate = .ok time) :
    ∃ reminder after, store.create request = (some (.ok reminder), after) := by
  rcases made : store.create request with ⟨outcome, after⟩
  cases ReminderStore.creates_of_eq made with
  | refused incomplete =>
    rw [valid] at incomplete
    contradiction
  | brokenOff complete full => exact absurd full isLeft
  | created => exact ⟨_, _, rfl⟩

/-- The reminders of a store have keys of their own that are not given again, and every request does
what it is for and nothing else, or breaks off when the greatest number is given. -/
theorem reminders_orderly (run : machine.Leads empty archive) : archive.Orderly := by
  have sound := empty_sound.leads run
  exact {
    distinct := sound.distinct
    in_order := sound.in_order
    creates := fun request reminder after created => sound.lt_create created
    accepts := fun isLeft request time valid => exists_created archive.store isLeft valid
    breaksOff := fun request after brokenOff => breaksOff_of_answer brokenOff
    marks := fun id after marked => ReminderStore.mark_split sound.distinct marked
    deletes := fun id after deleted => ReminderStore.delete_split sound.distinct deleted
    keeps := fun id reminder requests found kept => get?_run found kept
    due_eq := fun now => ReminderStore.dueReminders_eq archive.store now
    refuses := fun request failure after failed => refuses_of_answer failed }

/-- A reminder of a gift. -/
def gift (number : Int64) : Reminder :=
  ⟨⟨number⟩, ⟨7⟩, "ada@example.com", "Gift", "Buy a gift", "alert", .midnight .epoch, .pending⟩

/-- The request for it. -/
def giftRequest : ReminderRequest :=
  ⟨⟨7⟩, "ada@example.com", "Gift", "Buy a gift", "alert", some (.midnight .epoch)⟩

/-- One reminder is marked, and another one is deleted before a third one is created. -/
def deletedOnce : List StoreRequest :=
  [.insert (gift 3), .create giftRequest, .mark ⟨3⟩, .delete ⟨4⟩, .create giftRequest]

/-- The key of the deleted reminder is not given again. -/
theorem reminders_orderly_deletedOnce :
    machine.Leads empty (machine.run empty deletedOnce) ∧
      (machine.run empty deletedOnce).Orderly ∧
      (machine.run empty deletedOnce).stored = [⟨3⟩, ⟨4⟩, ⟨5⟩] ∧
      (machine.run empty deletedOnce).store.reminders = [(gift 3).dispatched, gift 5] := by
  have run : machine.Leads empty (machine.run empty deletedOnce) :=
    machine.leads_run empty deletedOnce (by decide +kernel)
  exact ⟨run, reminders_orderly run, by decide +kernel⟩

/-- A reminder has the greatest number. -/
def exhausted : Archive := machine.run empty [.insert (gift .maxValue)]

/-- When the greatest number is given, a valid request for a reminder gets neither a reminder nor a
failure: the creation breaks off. -/
theorem numbers_run_out :
    machine.Leads empty exhausted ∧ ⟨.maxValue⟩ ∈ exhausted.stored ∧
      giftRequest.validate = .ok (.midnight .epoch) ∧
      exhausted.store.create giftRequest = (none, exhausted.store) := by
  have filled : machine.Leads empty exhausted := machine.leads_run empty _ (by decide +kernel)
  exact ⟨filled, by decide +kernel, rfl, by decide +kernel⟩

end Archive

end ReminderDispatch
