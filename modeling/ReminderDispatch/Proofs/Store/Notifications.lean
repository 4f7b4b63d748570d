import Mathlib.Data.List.Sort
import Mathlib.Logic.Function.Basic
import ReminderDispatch.Proofs.Machine
import ReminderDispatch.Store.Notifications

/-!
# The store of notifications as a map

A catalogue has a place for every number and a notification at the numbers of those that were
created and not deleted. A store of notifications, which looks for the first record with a key and
lists its records from the end, replies to every request as the catalogue does, in every state that
it comes to. For its records are those of the catalogue in the order of their numbers, and since no
number is given twice, the first record with a key is the only one.

Numbers have 64 bits, so that at most `2 ^ 63 - 1` notifications can be numbered. The creation of
one more breaks off, and nothing changes.
-/

namespace ReminderDispatch

/-! ## Requests and replies -/

/-- What is asked of those who keep notifications. -/
inductive NoticeRequest where
  /-- Create a notification. -/
  | create (request : NotificationRequest)
  /-- Look up the notification with a key. -/
  | get (id : NotificationId)
  /-- List the notifications of a user. -/
  | list (userId : UserId)
  /-- A notification was read. -/
  | markRead (id : NotificationId)
  /-- Delete a notification. -/
  | delete (id : NotificationId)
  /-- Set the clock. -/
  | setClock (time : Instant)
  deriving DecidableEq, Repr

namespace NoticeRequest

/-- The request is for a new notification. -/
def isCreation : NoticeRequest → Bool
  | .create _ => true
  | .get _ | .list _ | .markRead _ | .delete _ | .setClock _ => false

/-- What the clock shows after the request. -/
def clockAfter (clock : Instant) : NoticeRequest → Instant
  | .setClock time => time
  | .create _ | .get _ | .list _ | .markRead _ | .delete _ => clock

end NoticeRequest

/-- What is replied to a request. -/
inductive NoticeReply where
  /-- One notification, or why there is none. -/
  | notification (outcome : Except StoreError StoredNotification)
  /-- A list of notifications. -/
  | notifications (records : List StoredNotification)
  /-- The request was carried out, or why it was not. -/
  | settled (outcome : Except StoreError Unit)
  /-- There is no reply: the call has broken off. -/
  | brokenOff

/-- The request was refused. -/
def NoticeReply.isRefusal : NoticeReply → Bool
  | .notification (.error _) | .settled (.error _) => true
  | .notification (.ok _) | .notifications _ | .settled (.ok _) | .brokenOff => false

/-- What is replied about a notification that was to be created. -/
def NoticeReply.ofCreation : Option StoredNotification → NoticeReply
  | some record => .notification (.ok record)
  | none => .brokenOff

/-- How notifications are kept in states of some kind. -/
structure NoticeKeeping (σ : Type) where
  /-- Create a notification at a time, unless this breaks off. -/
  create : σ → Instant → NotificationRequest → Option StoredNotification × σ
  /-- Look up the notification with a key. -/
  get : σ → NotificationId → Except StoreError StoredNotification
  /-- The notifications of a user, the newest first. -/
  ofUser : σ → UserId → List StoredNotification
  /-- A notification was read. -/
  markRead : σ → NotificationId → Except StoreError StoredNotification × σ
  /-- Delete a notification. -/
  delete : σ → NotificationId → Except StoreError Unit × σ

namespace NoticeKeeping

variable {σ : Type} (keeping : NoticeKeeping σ)

/-- The reply to a request, and the state as the request has left it. -/
def serve (clock : Instant) (state : σ) : NoticeRequest → NoticeReply × σ
  | .create request =>
    let (record, after) := keeping.create state clock request
    (.ofCreation record, after)
  | .get id => (.notification (keeping.get state id), state)
  | .list userId => (.notifications (keeping.ofUser state userId), state)
  | .markRead id =>
    let (outcome, after) := keeping.markRead state id
    (.notification outcome, after)
  | .delete id =>
    let (outcome, after) := keeping.delete state id
    (.settled outcome, after)
  | .setClock _ => (.settled (.ok ()), state)

/-- Calls that fail leave the state as it is. -/
structure Spares : Prop where
  /-- A mark that fails changes nothing. -/
  markRead : ∀ state id failure, (keeping.markRead state id).1 = .error failure →
    (keeping.markRead state id).2 = state
  /-- A deletion that fails changes nothing. -/
  delete : ∀ state id failure, (keeping.delete state id).1 = .error failure →
    (keeping.delete state id).2 = state

variable {keeping}

/-- A request that is refused changes nothing. -/
theorem Spares.serve (spares : keeping.Spares) {clock : Instant} {state : σ}
    {request : NoticeRequest} (refused : (keeping.serve clock state request).1.isRefusal = true) :
    (keeping.serve clock state request).2 = state := by
  cases request with
  | create request =>
    change (NoticeReply.ofCreation (keeping.create state clock request).1).isRefusal = true at refused
    cases created : (keeping.create state clock request).1 <;> rw [created] at refused <;> contradiction
  | get id => rfl
  | list userId => rfl
  | markRead id =>
    change (NoticeReply.notification (keeping.markRead state id).1).isRefusal = true at refused
    cases marked : (keeping.markRead state id).1 with
    | ok record =>
      rw [marked] at refused
      contradiction
    | error failure => exact spares.markRead state id failure marked
  | delete id =>
    change (NoticeReply.settled (keeping.delete state id).1).isRefusal = true at refused
    cases deleted : (keeping.delete state id).1 with
    | ok done =>
      rw [deleted] at refused
      contradiction
    | error failure => exact spares.delete state id failure deleted
  | setClock time => rfl

end NoticeKeeping

/-! ## Catalogues -/

/-- Notifications by their numbers. -/
structure Catalogue where
  /-- How many notifications were ever created. -/
  created : Nat
  /-- The notification with each key, unless it was not created or is deleted. -/
  entry : NotificationId → Option StoredNotification

namespace Catalogue

variable (catalogue : Catalogue)

/-- Nothing was ever created. -/
def empty : Catalogue := ⟨0, fun _ => none⟩

/-- The key of the notification that was created as the one with a number. -/
def key (number : Nat) : NotificationId := ⟨.ofNat number⟩

/-- The unread notification under the next number. -/
def newcomer (now : Instant) (request : NotificationRequest) : StoredNotification where
  id := key (catalogue.created + 1)
  userId := request.userId
  title := request.title
  body := request.body
  kind := request.kind
  status := .unread
  createdAt := now

/-- There is a number for one more notification. -/
def HasNumber : Prop := catalogue.created + 1 < twoTo 63

instance : Decidable catalogue.HasNumber :=
  inferInstanceAs (Decidable (catalogue.created + 1 < twoTo 63))

/-- Create an unread notification under the next number, if there is one. -/
def create (now : Instant) (request : NotificationRequest) :
    Option StoredNotification × Catalogue :=
  if catalogue.HasNumber then
    let record := catalogue.newcomer now request
    (some record,
      ⟨catalogue.created + 1, Function.update catalogue.entry record.id (some record)⟩)
  else (none, catalogue)

/-- The notification with a key. -/
def get (id : NotificationId) : Except StoreError StoredNotification :=
  match catalogue.entry id with
  | some record => .ok record
  | none => .error (NotificationStore.noNotification id)

/-- The notifications in the order of their numbers. -/
def inOrder : List StoredNotification :=
  (List.range catalogue.created).filterMap fun earlier => catalogue.entry (key (earlier + 1))

/-- The notifications of a user, from the greatest number down. -/
def ofUser (userId : UserId) : List StoredNotification :=
  catalogue.inOrder.reverse.filter fun record => record.userId = userId

/-- The notification with a key was read. -/
def markRead (id : NotificationId) : Except StoreError StoredNotification × Catalogue :=
  match catalogue.entry id with
  | some record => (.ok record.asRead,
      { catalogue with entry := Function.update catalogue.entry id (some record.asRead) })
  | none => (.error (NotificationStore.noNotification id), catalogue)

/-- Delete the notification with a key. -/
def delete (id : NotificationId) : Except StoreError Unit × Catalogue :=
  match catalogue.entry id with
  | some _ => (.ok (), { catalogue with entry := Function.update catalogue.entry id none })
  | none => (.error (NotificationStore.noNotification id), catalogue)

/-- Notifications that are kept by their numbers. -/
def keeping : NoticeKeeping Catalogue := ⟨create, get, ofUser, markRead, delete⟩

variable {catalogue : Catalogue} {number other : Nat}

/-- The number of a key, as long as numbers fit into 64 bits. -/
theorem toInt_key (fits : number < twoTo 63) : (key number).value.toInt = number :=
  Int64.toInt_ofNat_of_lt fits

/-- Keys are in the order of their numbers. -/
theorem key_lt (less : number < other) (fits : other < twoTo 63) :
    (key number).value < (key other).value := by
  rw [Int64.lt_iff_toInt_lt, toInt_key (Nat.lt_trans less fits), toInt_key fits]
  exact Int.ofNat_lt.2 less

/-- A notification is created under the next number. -/
theorem create_of_hasNumber (hasNumber : catalogue.HasNumber) (now : Instant)
    (request : NotificationRequest) :
    catalogue.create now request = (some (catalogue.newcomer now request),
      ⟨catalogue.created + 1, Function.update catalogue.entry (key (catalogue.created + 1))
        (some (catalogue.newcomer now request))⟩) :=
  if_pos hasNumber

/-- Without a number nothing is created. -/
theorem create_of_full (full : ¬catalogue.HasNumber) (now : Instant)
    (request : NotificationRequest) : catalogue.create now request = (none, catalogue) :=
  if_neg full

/-- What is not in the catalogue is neither marked nor deleted, and nothing changes. -/
theorem keeping_spares : keeping.Spares := by
  constructor
  · intro catalogue id failure failed
    change (catalogue.markRead id).1 = _ at failed
    change (catalogue.markRead id).2 = catalogue
    unfold markRead at failed ⊢
    cases entered : catalogue.entry id with
    | none => rfl
    | some record =>
      rw [entered] at failed
      contradiction
  · intro catalogue id failure failed
    change (catalogue.delete id).1 = _ at failed
    change (catalogue.delete id).2 = catalogue
    unfold delete at failed ⊢
    cases entered : catalogue.entry id with
    | none => rfl
    | some record =>
      rw [entered] at failed
      contradiction

end Catalogue

/-! ## Stores that hold a catalogue -/

namespace NotificationStore

variable {store after : NotificationStore} {catalogue : Catalogue} {id : NotificationId}
  {record : StoredNotification} {front back : List StoredNotification}

/-- Notifications that are kept in a list. -/
def keeping : NoticeKeeping NotificationStore := ⟨create, get, ofUser, markRead, delete⟩

/-- The keys of the notifications, in the order of their creation. -/
def keys (store : NotificationStore) : List NotificationId := store.records.map (·.id)

/-- The notifications of a catalogue are in the list, in the order of their numbers. -/
structure Holds (store : NotificationStore) (catalogue : Catalogue) : Prop where
  /-- There was a number for each notification. -/
  fits : catalogue.created < twoTo 63
  /-- The number of the last notification is that of all that were created. -/
  last : store.lastId = .ofNat catalogue.created
  /-- Keys grow along the list. -/
  ordered : store.keys.Pairwise fun earlier later => earlier.value < later.value
  /-- Each notification has a number that was given. -/
  numbered : ∀ record ∈ store.records, ∃ number, 0 < number ∧ number ≤ catalogue.created ∧
    record.id = Catalogue.key number
  /-- The notification with a key is the one in the list. -/
  entry_iff : ∀ id record,
    catalogue.entry id = some record ↔ record ∈ store.records ∧ record.id = id

/-- An empty list holds an empty catalogue. -/
theorem empty_holds : empty.Holds .empty where
  fits := Nat.two_pow_pos 63
  last := rfl
  ordered := .nil
  numbered record member := absurd member List.not_mem_nil
  entry_iff id record := by simp [empty, Catalogue.empty]

/-- The first notification with a key is the one in the catalogue. -/
theorem Holds.get_eq (holds : store.Holds catalogue) (id : NotificationId) :
    store.get id = catalogue.get id := by
  unfold get Catalogue.get
  cases found : store.records.find? fun record => record.id = id with
  | none =>
    have absent : catalogue.entry id = none := by
      apply Option.eq_none_iff_forall_ne_some.2
      intro record entered
      obtain ⟨member, same⟩ := (holds.entry_iff id record).1 entered
      have passed := List.find?_eq_none.1 found record member
      simp [same] at passed
    rw [absent]
  | some record =>
    have same : record.id = id := by simpa using List.find?_some found
    have entered := (holds.entry_iff id record).2 ⟨List.mem_of_find?_eq_some found, same⟩
    rw [entered]

/-- No two notifications have one key. -/
theorem Holds.distinct (holds : store.Holds catalogue) : store.keys.Nodup :=
  holds.ordered.imp fun less same => by
    rw [same] at less
    exact Int64.lt_irrefl less

/-! ## Creation -/

/-- The count of a store goes on as long as the catalogue has a number, and then breaks off. -/
theorem Holds.nextNumber?_lastId (holds : store.Holds catalogue) :
    nextNumber? store.lastId =
      if catalogue.HasNumber then some (.ofNat (catalogue.created + 1)) else none := by
  have last : store.lastId.toInt = catalogue.created := by
    rw [holds.last]
    exact Int64.toInt_ofNat_of_lt holds.fits
  have fits := holds.fits
  by_cases hasNumber : catalogue.HasNumber
  · have isLeft : store.lastId ≠ .maxValue := by
      intro isGreatest
      rw [isGreatest, Int64.toInt_maxValue] at last
      change catalogue.created + 1 < 2 ^ 63 at hasNumber
      omega
    rw [if_pos hasNumber, nextNumber?, if_neg isLeft, holds.last, Int64.ofNat_add]
    rfl
  · rw [if_neg hasNumber, nextNumber?_eq_none_iff, ← Int64.toInt_inj, last, Int64.toInt_maxValue]
    change ¬catalogue.created + 1 < 2 ^ 63 at hasNumber
    change catalogue.created < 2 ^ 63 at fits
    omega

/-- A store puts a new notification behind all others, under the number that the catalogue gives. -/
theorem Holds.create_of_hasNumber (holds : store.Holds catalogue)
    (hasNumber : catalogue.HasNumber) (now : Instant) (request : NotificationRequest) :
    store.create now request = (some (catalogue.newcomer now request),
      ⟨store.records ++ [catalogue.newcomer now request], .ofNat (catalogue.created + 1)⟩) := by
  have next := holds.nextNumber?_lastId
  rw [if_pos hasNumber] at next
  unfold NotificationStore.create
  rw [next]
  rfl

/-- Without a number the creation breaks off, and the store stays as it is. -/
theorem Holds.create_of_full (holds : store.Holds catalogue) (full : ¬catalogue.HasNumber)
    (now : Instant) (request : NotificationRequest) :
    store.create now request = (none, store) := by
  have next := holds.nextNumber?_lastId
  rw [if_neg full] at next
  unfold NotificationStore.create
  rw [next]

/-- All notifications have numbers below the next one. -/
theorem Holds.less_than_next (holds : store.Holds catalogue) (hasNumber : catalogue.HasNumber)
    (member : record ∈ store.records) :
    record.id.value < (Catalogue.key (catalogue.created + 1)).value := by
  obtain ⟨number, -, within, isKey⟩ := holds.numbered record member
  rw [isKey]
  exact Catalogue.key_lt (Nat.lt_succ_of_le within) hasNumber

/-- With a new notification a store holds the catalogue with this notification. -/
theorem Holds.add (holds : store.Holds catalogue) (hasNumber : catalogue.HasNumber)
    (isNext : record.id = Catalogue.key (catalogue.created + 1)) :
    NotificationStore.Holds ⟨store.records ++ [record], .ofNat (catalogue.created + 1)⟩
      ⟨catalogue.created + 1, Function.update catalogue.entry
        (Catalogue.key (catalogue.created + 1)) (some record)⟩ := by
  have less : ∀ other ∈ store.records, other.id.value < record.id.value := by
    intro other member
    rw [isNext]
    exact holds.less_than_next hasNumber member
  refine ⟨hasNumber, rfl, ?_, ?_, ?_⟩
  · unfold keys
    rw [List.map_append, List.pairwise_append]
    refine ⟨holds.ordered, List.pairwise_singleton _ _, ?_⟩
    intro earlier isEarlier later isLater
    obtain ⟨other, member, rfl⟩ := List.mem_map.1 isEarlier
    rw [List.mem_singleton.1 isLater]
    exact less other member
  · intro other member
    rw [List.mem_append, List.mem_singleton] at member
    rcases member with earlier | rfl
    · obtain ⟨given, positive, within, isKey⟩ := holds.numbered other earlier
      exact ⟨given, positive, Nat.le_succ_of_le within, isKey⟩
    · exact ⟨catalogue.created + 1, Nat.succ_pos _, Nat.le_refl _, isNext⟩
  · intro id other
    change Function.update catalogue.entry (Catalogue.key (catalogue.created + 1)) _ id = _ ↔ _
    rw [List.mem_append, List.mem_singleton]
    by_cases isNew : id = Catalogue.key (catalogue.created + 1)
    · rw [isNew, Function.update_self, Option.some_inj]
      constructor
      · rintro rfl
        exact ⟨.inr rfl, isNext⟩
      · rintro ⟨earlier | rfl, same⟩
        · have isLess := less other earlier
          rw [same, isNext] at isLess
          exact absurd isLess Int64.lt_irrefl
        · rfl
    · rw [Function.update_of_ne isNew, holds.entry_iff]
      constructor
      · exact fun both => ⟨.inl both.1, both.2⟩
      · rintro ⟨earlier | rfl, same⟩
        · exact ⟨earlier, same⟩
        · exact absurd (same.symm.trans isNext) isNew

/-- A store creates a notification as the catalogue does. -/
theorem Holds.create (holds : store.Holds catalogue) (now : Instant)
    (request : NotificationRequest) :
    (store.create now request).1 = (catalogue.create now request).1 ∧
      (store.create now request).2.Holds (catalogue.create now request).2 := by
  by_cases hasNumber : catalogue.HasNumber
  · rw [holds.create_of_hasNumber hasNumber, Catalogue.create_of_hasNumber hasNumber]
    exact ⟨rfl, holds.add hasNumber rfl⟩
  · rw [holds.create_of_full hasNumber, Catalogue.create_of_full hasNumber]
    exact ⟨rfl, holds⟩

/-! ## Reading -/

/-- The first notification with a key is noted as read, and no other. -/
theorem readFirst_split (before : ∀ other ∈ front, other.id ≠ record.id) :
    readFirst record.id (front ++ record :: back) = front ++ record.asRead :: back := by
  induction front with
  | nil => exact if_pos rfl
  | cons first more ih =>
    have isOther : first.id ≠ record.id := before first List.mem_cons_self
    rw [List.cons_append, readFirst, if_neg isOther,
      ih fun other isMore => before other (List.mem_cons_of_mem _ isMore)]
    rfl

/-- One notification has a key, and all others stand before and behind it. -/
theorem Holds.exists_split (holds : store.Holds catalogue)
    (entered : catalogue.entry id = some record) :
    ∃ front back, store.records = front ++ record :: back ∧ record.id = id ∧
      ∀ other ∈ front ++ back, other.id ≠ id := by
  obtain ⟨member, same⟩ := (holds.entry_iff id record).1 entered
  obtain ⟨front, back, split⟩ := List.append_of_mem member
  refine ⟨front, back, split, same, fun other isOther => ?_⟩
  have distinct := holds.distinct
  rw [keys, split, List.map_append, List.map_cons] at distinct
  have apart := List.nodup_middle.1 distinct
  rw [← List.map_append, same] at apart
  exact ne_of_mem_of_not_mem (List.mem_map_of_mem isOther) (List.nodup_cons.1 apart).1

/-- A notification that was read keeps its place, and the catalogue has it as read. -/
theorem Holds.read (holds : store.Holds catalogue) (entered : catalogue.entry id = some record) :
    { store with records := readFirst id store.records }.Holds
      { catalogue with entry := Function.update catalogue.entry id (some record.asRead) } := by
  obtain ⟨front, back, split, same, others⟩ := holds.exists_split entered
  have read : readFirst id store.records = front ++ record.asRead :: back := by
    rw [split, ← same]
    exact readFirst_split fun other isBefore =>
      same ▸ others other (List.mem_append_left _ isBefore)
  have keys : (front ++ record.asRead :: back).map (·.id) = store.keys := by
    rw [NotificationStore.keys, split, List.map_append, List.map_append]
    rfl
  rw [read]
  refine ⟨holds.fits, holds.last, ?_, ?_, ?_⟩
  · unfold NotificationStore.keys
    rw [keys]
    exact holds.ordered
  · intro other member
    have isKey : other.id ∈ store.keys := keys ▸ List.mem_map_of_mem member
    obtain ⟨kept, isKept, sameKey⟩ := List.mem_map.1 isKey
    rw [← sameKey]
    exact holds.numbered kept isKept
  · intro key other
    change Function.update catalogue.entry id _ key = _ ↔ _
    rw [List.perm_middle.mem_iff, List.mem_cons]
    by_cases asked : key = id
    · rw [asked, Function.update_self, Option.some_inj]
      constructor
      · rintro rfl
        exact ⟨.inl rfl, same⟩
      · rintro ⟨rfl | isOther, sameKey⟩
        · rfl
        · exact absurd sameKey (others other isOther)
    · rw [Function.update_of_ne asked, holds.entry_iff, split, List.perm_middle.mem_iff,
        List.mem_cons]
      constructor
      · rintro ⟨rfl | isOther, sameKey⟩
        · exact absurd (sameKey.symm.trans same) asked
        · exact ⟨.inr isOther, sameKey⟩
      · rintro ⟨rfl | isOther, sameKey⟩
        · exact absurd (sameKey.symm.trans same) asked
        · exact ⟨.inr isOther, sameKey⟩

/-- A notification in the catalogue is found and noted as read. -/
theorem Holds.markRead_of_entered (holds : store.Holds catalogue)
    (entered : catalogue.entry id = some record) :
    store.markRead id =
      (.ok record.asRead, { store with records := readFirst id store.records }) := by
  unfold NotificationStore.markRead
  rw [holds.get_eq, Catalogue.get, entered]

/-- What is not in the catalogue is not found, and the store stays as it is. -/
theorem Holds.markRead_of_absent (holds : store.Holds catalogue)
    (absent : catalogue.entry id = none) :
    store.markRead id = (.error (noNotification id), store) := by
  unfold NotificationStore.markRead
  rw [holds.get_eq, Catalogue.get, absent]

/-- A store notes of a notification that it was read as the catalogue does. -/
theorem Holds.markRead (holds : store.Holds catalogue) (id : NotificationId) :
    (store.markRead id).1 = (catalogue.markRead id).1 ∧
      (store.markRead id).2.Holds (catalogue.markRead id).2 := by
  unfold Catalogue.markRead
  cases entered : catalogue.entry id with
  | none =>
    rw [holds.markRead_of_absent entered]
    exact ⟨rfl, holds⟩
  | some record =>
    rw [holds.markRead_of_entered entered]
    exact ⟨rfl, holds.read entered⟩

/-! ## Deletion -/

/-- A notification that is deleted leaves the list, and all others stay. -/
theorem Holds.erase (holds : store.Holds catalogue) (id : NotificationId) :
    { store with records := store.records.filter (·.id ≠ id) }.Holds
      { catalogue with entry := Function.update catalogue.entry id none } where
  fits := holds.fits
  last := holds.last
  ordered := holds.ordered.sublist (List.filter_sublist.map _)
  numbered record member := holds.numbered record (List.mem_of_mem_filter member)
  entry_iff key record := by
    change Function.update catalogue.entry id none key = _ ↔ _
    rw [List.mem_filter, decide_eq_true_eq]
    by_cases asked : key = id
    · rw [asked, Function.update_self]
      constructor
      · intro impossible
        contradiction
      · exact fun both => absurd both.2 both.1.2
    · rw [Function.update_of_ne asked, holds.entry_iff]
      constructor
      · exact fun both => ⟨⟨both.1, fun same => asked (both.2.symm.trans same)⟩, both.2⟩
      · exact fun both => ⟨both.1.1, both.2⟩

/-- A notification with the key is taken out. -/
theorem delete_of_mem (member : record ∈ store.records) :
    store.delete record.id =
      (.ok (), { store with records := store.records.filter (·.id ≠ record.id) }) := by
  have fewer : (store.records.filter (·.id ≠ record.id)).length ≠ store.records.length := by
    intro allLeft
    have isLeft := List.length_filter_eq_length_iff.1 allLeft record member
    exact of_decide_eq_true isLeft rfl
  exact if_neg fewer

/-- If no notification has the key all are left. -/
theorem delete_of_absent (absent : ∀ record ∈ store.records, record.id ≠ id) :
    store.delete id = (.error (noNotification id), store) := by
  have all : store.records.filter (·.id ≠ id) = store.records :=
    List.filter_eq_self.2 fun record member => decide_eq_true (absent record member)
  unfold delete
  rw [all, if_pos rfl]

/-- A store deletes a notification as the catalogue does. -/
theorem Holds.delete (holds : store.Holds catalogue) (id : NotificationId) :
    (store.delete id).1 = (catalogue.delete id).1 ∧
      (store.delete id).2.Holds (catalogue.delete id).2 := by
  unfold Catalogue.delete
  cases entered : catalogue.entry id with
  | none =>
    have absent : ∀ record ∈ store.records, record.id ≠ id := by
      intro record member same
      have isEntered := (holds.entry_iff id record).2 ⟨member, same⟩
      rw [entered] at isEntered
      contradiction
    rw [delete_of_absent absent]
    exact ⟨rfl, holds⟩
  | some record =>
    obtain ⟨member, rfl⟩ := (holds.entry_iff id record).1 entered
    rw [delete_of_mem member]
    exact ⟨rfl, holds.erase record.id⟩

/-- A mark or a deletion that fails leaves every store as it is. -/
theorem keeping_spares : keeping.Spares := by
  constructor
  · intro store id failure failed
    change (store.markRead id).1 = _ at failed
    change (store.markRead id).2 = store
    unfold NotificationStore.markRead at failed ⊢
    cases got : store.get id with
    | error other => rfl
    | ok record =>
      rw [got] at failed
      contradiction
  · intro store id failure failed
    change (store.delete id).1 = _ at failed
    change (store.delete id).2 = store
    by_cases absent : ∀ record ∈ store.records, record.id ≠ id
    · rw [delete_of_absent absent]
    · push Not at absent
      obtain ⟨record, member, rfl⟩ := absent
      rw [delete_of_mem member] at failed
      contradiction

/-! ## Lists -/

/-- The list holds the notifications of the catalogue in the order of their numbers. -/
theorem Holds.inOrder_eq (holds : store.Holds catalogue) :
    catalogue.inOrder = store.records := by
  let before := fun earlier later : StoredNotification => earlier.id.value < later.id.value
  have irreflexive : Std.Irrefl before := ⟨fun _ => Int64.lt_irrefl⟩
  have antisymmetric : Std.Antisymm before :=
    ⟨fun _ _ less greater => absurd greater (Int64.lt_asymm less)⟩
  have stored : store.records.Pairwise before := by
    have ordered := holds.ordered
    rw [keys, List.pairwise_map] at ordered
    exact ordered
  have entered : catalogue.inOrder.Pairwise before := by
    refine List.pairwise_filterMap.2 ?_
    refine List.Pairwise.imp_of_mem ?_ List.pairwise_lt_range
    intro earlier later _ isLater less record isRecord other isOther
    rw [List.mem_range] at isLater
    change record.id.value < other.id.value
    rw [((holds.entry_iff _ record).1 isRecord).2, ((holds.entry_iff _ other).1 isOther).2]
    exact Catalogue.key_lt (Nat.succ_lt_succ less) (Nat.lt_of_le_of_lt isLater holds.fits)
  refine entered.eq_of_mem_iff stored fun record => ?_
  unfold Catalogue.inOrder
  rw [List.mem_filterMap]
  constructor
  · rintro ⟨earlier, -, isRecord⟩
    exact ((holds.entry_iff _ record).1 isRecord).1
  · intro member
    obtain ⟨number, positive, within, isKey⟩ := holds.numbered record member
    have successor : number - 1 + 1 = number := Nat.sub_add_cancel positive
    refine ⟨number - 1, List.mem_range.2 (by omega), ?_⟩
    rw [successor]
    exact (holds.entry_iff _ record).2 ⟨member, isKey⟩

/-- A store lists the notifications of a user as the catalogue does. -/
theorem Holds.ofUser_eq (holds : store.Holds catalogue) (userId : UserId) :
    store.ofUser userId = catalogue.ofUser userId := by
  unfold ofUser Catalogue.ofUser
  rw [holds.inOrder_eq]

/-! ## All requests -/

/-- A store replies to a request as the catalogue does, and then holds what the catalogue has. -/
theorem Holds.serve (holds : store.Holds catalogue) (clock : Instant) (request : NoticeRequest) :
    (keeping.serve clock store request).1 = (Catalogue.keeping.serve clock catalogue request).1 ∧
      (keeping.serve clock store request).2.Holds
        (Catalogue.keeping.serve clock catalogue request).2 := by
  cases request with
  | create request =>
    obtain ⟨same, held⟩ := holds.create clock request
    exact ⟨congrArg NoticeReply.ofCreation same, held⟩
  | get id => exact ⟨congrArg NoticeReply.notification (holds.get_eq id), holds⟩
  | list userId => exact ⟨congrArg NoticeReply.notifications (holds.ofUser_eq userId), holds⟩
  | setClock time => exact ⟨rfl, holds⟩
  | markRead id =>
    obtain ⟨same, held⟩ := holds.markRead id
    exact ⟨congrArg NoticeReply.notification same, held⟩
  | delete id =>
    obtain ⟨same, held⟩ := holds.delete id
    exact ⟨congrArg NoticeReply.settled same, held⟩

end NotificationStore

end ReminderDispatch
