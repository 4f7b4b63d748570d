import ReminderDispatch.Proofs.Store.Notifications

/-!
# The store of notifications over its whole life

A notice board is a store of notifications in use, with its clock and with the catalogue to which
the same requests are made. The store holds the catalogue after every number of requests, so that
what is known of a map from keys to notifications is known of the store: who is found, what one
request changes, and what a user is shown.
-/

namespace ReminderDispatch

/-- A store in use beside a catalogue. -/
structure NoticeBoard where
  /-- The store. -/
  store : NotificationStore
  /-- The catalogue. -/
  catalogue : Catalogue
  /-- The reading of the clock. -/
  clock : Instant

namespace NoticeBoard

variable (board : NoticeBoard)

/-- Nothing was ever created. -/
def opened (clock : Instant) : NoticeBoard := ⟨.empty, .empty, clock⟩

/-- The reply of the store to a request, and the store after it. -/
def served (request : NoticeRequest) : NoticeReply × NotificationStore :=
  NotificationStore.keeping.serve board.clock board.store request

/-- The reply of the catalogue to a request, and the catalogue after it. -/
def catalogued (request : NoticeRequest) : NoticeReply × Catalogue :=
  Catalogue.keeping.serve board.clock board.catalogue request

/-- The board after a request. -/
def perform (request : NoticeRequest) : NoticeBoard where
  store := (board.served request).2
  catalogue := (board.catalogued request).2
  clock := request.clockAfter board.clock

/-- Boards and the requests to them, every one of which may be made at any time. -/
def machine : Machine NoticeBoard NoticeRequest := ⟨fun _ _ => True, perform⟩

/-- What can be relied on in a store in use. -/
structure Orderly (board : NoticeBoard) : Prop where
  /-- The store replies to every request as the catalogue does. -/
  agrees : ∀ request, (board.served request).1 = (board.catalogued request).1
  /-- As long as there is a next number, a new notification is unread and has this number and the
  time of the clock. -/
  creates : board.catalogue.created + 1 < twoTo 63 → ∀ request,
    (board.store.create board.clock request).1 = some {
      id := Catalogue.key (board.catalogue.created + 1)
      userId := request.userId
      title := request.title
      body := request.body
      kind := request.kind
      status := .unread
      createdAt := board.clock }
  /-- When no number is left every creation breaks off, and the store stays as it is. -/
  breaksOff : ¬board.catalogue.created + 1 < twoTo 63 → ∀ request,
    board.store.create board.clock request = (none, board.store)
  /-- The next number is the one after the number of creations, and greater than all others. -/
  numbers : board.catalogue.created + 1 < twoTo 63 →
    (Catalogue.key (board.catalogue.created + 1)).value.toInt = board.catalogue.created + 1 ∧
      ∀ record ∈ board.store.records,
        record.id.value < (Catalogue.key (board.catalogue.created + 1)).value
  /-- A lookup finds what the catalogue has under the key. -/
  gets : ∀ id record, board.catalogue.entry id = some record →
    board.store.get id = .ok record ∧ record.id = id
  /-- A mark changes the status of the notification with the key and nothing else, and a second
  mark changes nothing. -/
  marks : ∀ id record, board.catalogue.entry id = some record →
    ∃ front back after, board.store.records = front ++ record :: back ∧
      (∀ other ∈ front ++ back, other.id ≠ id) ∧
      after = { board.store with records := front ++ record.asRead :: back } ∧
      board.store.markRead id = (.ok record.asRead, after) ∧
      after.markRead id = (.ok record.asRead, after)
  /-- A deletion takes out the notification with the key and nothing else. -/
  deletes : ∀ id record, board.catalogue.entry id = some record →
    ∃ front back, board.store.records = front ++ record :: back ∧
      (∀ other ∈ front ++ back, other.id ≠ id) ∧
      board.store.delete id = (.ok (), { board.store with records := front ++ back })
  /-- What the catalogue does not have is not found. -/
  refuses : ∀ id, board.catalogue.entry id = none →
    board.store.get id = .error (NotificationStore.noNotification id) ∧
      board.store.markRead id = (.error (NotificationStore.noNotification id), board.store) ∧
      board.store.delete id = (.error (NotificationStore.noNotification id), board.store)
  /-- A request that is refused changes nothing. -/
  unchanged : ∀ request, (board.served request).1.isRefusal = true → board.perform request = board
  /-- A user is shown the notifications that the catalogue has for the user, each once, from the
  greatest number down. -/
  lists : ∀ userId,
    ((board.store.ofUser userId).Pairwise fun newer older => older.id.value < newer.id.value) ∧
      ∀ record, record ∈ board.store.ofUser userId ↔
        board.catalogue.entry record.id = some record ∧ record.userId = userId

variable {board : NoticeBoard}

/-! ## Runs -/

/-- The catalogue counts the creations up to the greatest number. -/
theorem created_perform (board : NoticeBoard) (fits : board.catalogue.created < twoTo 63)
    (request : NoticeRequest) :
    (board.perform request).catalogue.created =
      min (board.catalogue.created + if request.isCreation then 1 else 0) (twoTo 63 - 1) := by
  have within : board.catalogue.created = min (board.catalogue.created + 0) (twoTo 63 - 1) :=
    (min_eq_left (Nat.le_pred_of_lt fits)).symm
  change (Catalogue.keeping.serve board.clock board.catalogue request).2.created = _
  cases request with
  | create request =>
    change (board.catalogue.create board.clock request).2.created = _
    by_cases hasNumber : board.catalogue.HasNumber
    · rw [Catalogue.create_of_hasNumber hasNumber]
      exact (min_eq_left (Nat.le_pred_of_lt hasNumber)).symm
    · rw [Catalogue.create_of_full hasNumber]
      change board.catalogue.created = min (board.catalogue.created + 1) (twoTo 63 - 1)
      have reached : twoTo 63 ≤ board.catalogue.created + 1 := Nat.le_of_not_lt hasNumber
      omega
  | get id => exact within
  | list userId => exact within
  | setClock time => exact within
  | markRead id =>
    change (board.catalogue.markRead id).2.created = _
    unfold Catalogue.markRead
    cases board.catalogue.entry id <;> exact within
  | delete id =>
    change (board.catalogue.delete id).2.created = _
    unfold Catalogue.delete
    cases board.catalogue.entry id <;> exact within

/-- The store holds the catalogue after any requests, and the catalogue has counted the creations up
to the greatest number. -/
theorem holds_run (holds : board.store.Holds board.catalogue) (requests : List NoticeRequest) :
    (machine.run board requests).store.Holds (machine.run board requests).catalogue ∧
      (machine.run board requests).catalogue.created =
        min (board.catalogue.created + requests.countP (·.isCreation)) (twoTo 63 - 1) := by
  induction requests generalizing board with
  | nil => exact ⟨holds, (min_eq_left (Nat.le_pred_of_lt holds.fits)).symm⟩
  | cons request more ih =>
    have next : (board.perform request).store.Holds (board.perform request).catalogue :=
      (holds.serve board.clock request).2
    obtain ⟨held, counted⟩ := ih next
    refine ⟨held, counted.trans ?_⟩
    rw [board.created_perform holds.fits request, List.countP_cons]
    omega

/-! ## Single requests -/

/-- A second mark changes nothing. -/
theorem marked_twice (holds : board.store.Holds board.catalogue) {id : NotificationId}
    {record : StoredNotification} (entered : board.catalogue.entry id = some record) :
    ∃ front back after, board.store.records = front ++ record :: back ∧
      (∀ other ∈ front ++ back, other.id ≠ id) ∧
      after = { board.store with records := front ++ record.asRead :: back } ∧
      board.store.markRead id = (.ok record.asRead, after) ∧
      after.markRead id = (.ok record.asRead, after) := by
  obtain ⟨front, back, split, same, others⟩ := holds.exists_split entered
  have before : ∀ other ∈ front, other.id ≠ id := fun other isBefore =>
    others other (List.mem_append_left _ isBefore)
  have first : NotificationStore.readFirst id (front ++ record :: back) =
      front ++ record.asRead :: back := by
    rw [← same] at before ⊢
    exact NotificationStore.readFirst_split before
  have second : NotificationStore.readFirst id (front ++ record.asRead :: back) =
      front ++ record.asRead :: back := by
    have sameAsRead : record.asRead.id = id := same
    rw [← sameAsRead] at before ⊢
    exact NotificationStore.readFirst_split before
  have marked := holds.markRead_of_entered entered
  have kept := holds.read entered
  rw [split, first] at marked kept
  have again := kept.markRead_of_entered (Function.update_self ..)
  rw [second] at again
  exact ⟨front, back, _, split, others, rfl, marked, again⟩

/-- A deletion takes out one notification. -/
theorem deleted_once (holds : board.store.Holds board.catalogue) {id : NotificationId}
    {record : StoredNotification} (entered : board.catalogue.entry id = some record) :
    ∃ front back, board.store.records = front ++ record :: back ∧
      (∀ other ∈ front ++ back, other.id ≠ id) ∧
      board.store.delete id = (.ok (), { board.store with records := front ++ back }) := by
  obtain ⟨front, back, split, rfl, others⟩ := holds.exists_split entered
  have member : record ∈ board.store.records := by simp [split]
  have left : board.store.records.filter (·.id ≠ record.id) = front ++ back := by
    rw [split, List.filter_append, List.filter_cons_of_neg (by simp), ← List.filter_append]
    exact List.filter_eq_self.2 fun other isOther => by simpa using others other isOther
  have deleted := NotificationStore.delete_of_mem member
  rw [left] at deleted
  exact ⟨front, back, split, others, deleted⟩

/-- A user is shown the notifications for the user, from the greatest number down. -/
theorem shown (holds : board.store.Holds board.catalogue) (userId : UserId) :
    ((board.store.ofUser userId).Pairwise fun newer older => older.id.value < newer.id.value) ∧
      ∀ record, record ∈ board.store.ofUser userId ↔
        board.catalogue.entry record.id = some record ∧ record.userId = userId := by
  have ordered := holds.ordered
  rw [NotificationStore.keys, List.pairwise_map] at ordered
  refine ⟨(List.pairwise_reverse.2 ordered).sublist List.filter_sublist, fun record => ?_⟩
  unfold NotificationStore.ofUser
  rw [List.mem_filter, List.mem_reverse, decide_eq_true_eq, holds.entry_iff]
  exact and_congr_left fun _ => ⟨fun member => ⟨member, rfl⟩, fun both => both.1⟩

/-- A request that the store refuses leaves the board as it is. -/
theorem perform_refused
    (agrees : ∀ request, (board.served request).1 = (board.catalogued request).1)
    {request : NoticeRequest} (refused : (board.served request).1.isRefusal = true) :
    board.perform request = board := by
  have alsoRefused : (board.catalogued request).1.isRefusal = true := by
    rw [← agrees request]
    exact refused
  have clock : request.clockAfter board.clock = board.clock := by
    cases request with
    | setClock time => exact absurd refused Bool.false_ne_true
    | create | get | list | markRead | delete => rfl
  unfold perform
  rw [clock]
  unfold served at refused ⊢
  unfold catalogued at alsoRefused ⊢
  rw [NotificationStore.keeping_spares.serve refused, Catalogue.keeping_spares.serve alsoRefused]

/-- What the catalogue does not have is neither found nor marked nor deleted. -/
theorem not_found (holds : board.store.Holds board.catalogue) {id : NotificationId}
    (absent : board.catalogue.entry id = none) :
    board.store.get id = .error (NotificationStore.noNotification id) ∧
      board.store.markRead id = (.error (NotificationStore.noNotification id), board.store) ∧
      board.store.delete id = (.error (NotificationStore.noNotification id), board.store) := by
  refine ⟨?_, holds.markRead_of_absent absent,
    NotificationStore.delete_of_absent fun record member same => ?_⟩
  · rw [holds.get_eq, Catalogue.get, absent]
  · have entered := (holds.entry_iff id record).2 ⟨member, same⟩
    rw [absent] at entered
    contradiction

/-- A store that holds a catalogue does what a map from keys to notifications does. -/
theorem orderly_of_holds (holds : board.store.Holds board.catalogue) : board.Orderly where
  agrees request := (holds.serve board.clock request).1
  creates hasNumber request := by
    rw [holds.create_of_hasNumber hasNumber]
    rfl
  breaksOff full request := holds.create_of_full full board.clock request
  numbers hasNumber :=
    ⟨Catalogue.toInt_key hasNumber, fun _ member => holds.less_than_next hasNumber member⟩
  gets id record entered := by
    refine ⟨?_, ((holds.entry_iff id record).1 entered).2⟩
    rw [holds.get_eq id]
    unfold Catalogue.get
    rw [entered]
  marks id record entered := marked_twice holds entered
  deletes id record entered := deleted_once holds entered
  refuses id absent := not_found holds absent
  unchanged request refused :=
    perform_refused (fun request => (holds.serve board.clock request).1) refused
  lists userId := shown holds userId

/-- After any requests, the notification that was created as the one with a number has this number
for a key, and the store does what a map from keys to notifications does. Creations are numbered
until the greatest number is reached. -/
theorem notifications_mapped (clock : Instant) (requests : List NoticeRequest) :
    (machine.run (opened clock) requests).Orderly ∧
      (machine.run (opened clock) requests).catalogue.created =
        min (requests.countP (·.isCreation)) (twoTo 63 - 1) := by
  have opening : (opened clock).store.Holds (opened clock).catalogue :=
    NotificationStore.empty_holds
  obtain ⟨holds, created⟩ := holds_run opening requests
  rw [show (opened clock).catalogue.created = 0 from rfl, Nat.zero_add] at created
  exact ⟨orderly_of_holds holds, created⟩

/-- A notification of a gift for a user. -/
def gift (userId : UserId) : NotificationRequest := ⟨userId, "Gift", "Buy a gift", "alert"⟩

/-- Of four notifications, the first one is read, and the third one is deleted before the fourth one
is created. What is asked of a notification that was never created is refused. -/
def readAndDeleted : List NoticeRequest :=
  [.create (gift ⟨7⟩), .create (gift ⟨8⟩), .create (gift ⟨7⟩), .markRead ⟨1⟩, .delete ⟨3⟩,
    .markRead ⟨9⟩, .create (gift ⟨7⟩), .get ⟨3⟩]

/-- The number of the deleted notification is not given again, and the user is shown the other two.
-/
theorem notifications_mapped_readAndDeleted :
    (machine.run (opened (.midnight .epoch)) readAndDeleted).Orderly ∧
      (machine.run (opened (.midnight .epoch)) readAndDeleted).catalogue.created = 4 ∧
      (machine.run (opened (.midnight .epoch)) readAndDeleted).store.keys = [⟨1⟩, ⟨2⟩, ⟨4⟩] ∧
      ((machine.run (opened (.midnight .epoch)) readAndDeleted).store.ofUser ⟨7⟩).map
        (fun record => (record.id, record.status)) = [(⟨4⟩, .unread), (⟨1⟩, .read)] := by
  obtain ⟨orderly, created⟩ := notifications_mapped (.midnight .epoch) readAndDeleted
  have four : min (readAndDeleted.countP (·.isCreation)) (twoTo 63 - 1) = 4 := by decide +kernel
  exact ⟨orderly, created.trans four, by decide +kernel, by decide +kernel⟩

end NoticeBoard

end ReminderDispatch
