import ReminderDispatch.FanOut
import ReminderDispatch.Producer
import ReminderDispatch.Scan.Settings

/-!
# One scan

A scan asks for the reminders that are due and then for today's birthdays, publishes the two tasks
of every item, and marks reminders as dispatched. The two halves are independent: when one query
fails, the other half still takes place. A reminder of which a task could not be published for a
reason that may pass stays pending for the next scan; one that can never become tasks is marked
without any. Birthdays have no state in the store: the scanner remembers the users whose birthday it
handled today.
-/

namespace ReminderDispatch

/-- What a scan did. -/
structure ScanReport where
  /-- The reminders that were due. -/
  dueReminders : Nat
  /-- The users whose birthday is today. -/
  dueBirthdays : Nat
  /-- The tasks that the broker accepted. -/
  enqueued : Nat
  /-- The failed calls, queries apart, and the items from which no tasks can be made. -/
  failed : Nat
  /-- The reminders that were marked. -/
  marked : Nat
  /-- The birthdays that were handled earlier today. -/
  skippedBirthdays : Nat
  deriving DecidableEq, Repr

namespace ScanReport

/-- Nothing was done. -/
def none : ScanReport := ⟨0, 0, 0, 0, 0, 0⟩

/-- One thing failed. -/
def oneFailed : ScanReport := { none with failed := 1 }

/-- One reminder was marked. -/
def oneMarked : ScanReport := { none with marked := 1 }

/-- One birthday was skipped. -/
def oneSkipped : ScanReport := { none with skippedBirthdays := 1 }

/-- What two parts of a scan did together. -/
instance : Add ScanReport := ⟨fun a b =>
  ⟨a.dueReminders + b.dueReminders, a.dueBirthdays + b.dueBirthdays, a.enqueued + b.enqueued,
    a.failed + b.failed, a.marked + b.marked, a.skippedBirthdays + b.skippedBirthdays⟩⟩

/-- Nothing before something adds nothing to it. -/
@[simp] theorem none_add (report : ScanReport) : none + report = report := by
  show ScanReport.mk (0 + _) (0 + _) (0 + _) (0 + _) (0 + _) (0 + _) = report
  simp only [Nat.zero_add]

end ScanReport

/-- At least one query of a scan failed. -/
structure IncompleteScan where
  /-- What the other half did. -/
  report : ScanReport
  /-- The failed queries, in order. -/
  failures : List FailedQuery
  deriving DecidableEq, Repr

/-- The failure in words. -/
def IncompleteScan.message (scan : IncompleteScan) : String := FailedQuery.summary scan.failures

/-- The users whose birthday was handled on a day. -/
structure HandledBirthdays where
  /-- The day. -/
  day : Option Date
  /-- The users. -/
  users : List UserId
  deriving DecidableEq, Repr

namespace HandledBirthdays

/-- No birthday was handled on any day. -/
def empty : HandledBirthdays := ⟨none, []⟩

/-- What was handled on a day: the same for the same day, and nothing yet for another day. -/
def onDay (handled : HandledBirthdays) (today : Date) : HandledBirthdays :=
  if handled.day = some today then handled else ⟨some today, []⟩

/-- The birthday of a user was handled. -/
def contains (handled : HandledBirthdays) (user : UserId) : Bool := handled.users.contains user

/-- The birthday of a user is handled now. -/
def insert (handled : HandledBirthdays) (user : UserId) : HandledBirthdays :=
  if handled.contains user then handled else { handled with users := handled.users ++ [user] }

/-- The day stays the same when a birthday is handled. -/
@[simp] theorem day_insert (handled : HandledBirthdays) (user : UserId) :
    (handled.insert user).day = handled.day := by
  unfold insert
  split <;> rfl

/-- After the birthday of a user was handled, this one is handled, and no other one is in addition.
-/
theorem contains_insert (handled : HandledBirthdays) (user other : UserId) :
    (handled.insert user).contains other = true ↔ other = user ∨ handled.contains other = true := by
  unfold insert
  split
  · rename_i known
    constructor
    · exact .inr
    · rintro (rfl | isKnown)
      · exact known
      · exact isKnown
  · unfold contains
    rw [List.contains_append, Bool.or_eq_true, List.contains_cons, List.contains_nil, Bool.or_false,
      beq_iff_eq]
    exact Or.comm

/-- A user whose birthday was not handled before is among those with handled birthdays if it is
handled now. -/
theorem contains_insert_self {handled : HandledBirthdays} {user : UserId}
    (isNew : ¬ handled.contains user = true) (done : Bool) :
    (if done then handled.insert user else handled).contains user = done := by
  cases done with
  | false => exact Bool.eq_false_iff.2 isNew
  | true => exact (contains_insert handled user user).2 (.inl rfl)

/-- For other users it makes no difference whether a birthday is handled. -/
theorem contains_insert_other (handled : HandledBirthdays) {user other : UserId}
    (different : other ≠ user) (done : Bool) :
    (if done then handled.insert user else handled).contains other = handled.contains other := by
  cases done with
  | false => rfl
  | true => rw [if_pos rfl, Bool.eq_iff_iff, contains_insert, or_iff_right different]

end HandledBirthdays

/-- What scans items. -/
structure Scanner where
  /-- How the scanner runs. -/
  settings : ScannerSettings
  /-- The limit of every publication. -/
  publishTimeout : Duration
  /-- The birthdays that were handled. -/
  handled : HandledBirthdays
  deriving DecidableEq, Repr

namespace Scanner

/-- A scanner that has handled no birthday. -/
def new (settings : ScannerSettings) (publishTimeout : Duration) : Scanner :=
  ⟨settings, publishTimeout, .empty⟩

/-- The outcome of publishing the tasks of an item. -/
structure Publication where
  /-- How many tasks were accepted. -/
  accepted : Nat
  /-- How many tasks were not. -/
  refused : Nat
  /-- A task was not accepted for a reason that may pass. -/
  retry : Bool
  deriving DecidableEq, Repr

/-- What a publication adds to the report. -/
def Publication.report (publication : Publication) : ScanReport :=
  { ScanReport.none with enqueued := publication.accepted, failed := publication.refused }

/-- Publish payloads one after the other, whatever becomes of each. -/
def publishAll (limit : Duration) : List TaskPayload → Program Publication
  | [] => pure ⟨0, 0, false⟩
  | payload :: more => do
    let outcome ← enqueue limit payload
    let rest ← publishAll limit more
    match outcome with
    | .ok _ => pure { rest with accepted := rest.accepted + 1 }
    | .error failure =>
      pure ⟨rest.accepted, rest.refused + 1, failure.kind.allowsRetry || rest.retry⟩

/-- A call to a store that counts as failed with a timeout when its limit passes. -/
def ask (scanner : Scanner) (call : Call) (isStore : call.Failure = StoreError) :
    Program (Except StoreError call.Result) := do
  match ← Program.within scanner.settings.ioTimeout call with
  | some (.ok result) => pure (.ok result)
  | some (.error failure) => pure (.error (isStore ▸ failure))
  | none => pure (.error (.timeout scanner.settings.ioTimeout))

/-- Mark a reminder as dispatched. -/
def mark (scanner : Scanner) (reminder : Reminder) : Program ScanReport := do
  match ← scanner.ask (.mark reminder.id) rfl with
  | .ok _ => pure .oneMarked
  | .error _ => pure .oneFailed

/-- Publish the tasks of a reminder and mark it, unless a task should be published again. -/
def handleReminder (scanner : Scanner) (reminder : Reminder) : Program ScanReport :=
  match reminder.fanOut with
  | .error _ => do
    let marked ← scanner.mark reminder
    pure (.oneFailed + marked)
  | .ok tasks => do
    let publication ← publishAll scanner.publishTimeout tasks.payloads
    if publication.retry then pure publication.report
    else
      let marked ← scanner.mark reminder
      pure (publication.report + marked)

/-- Handle reminders one after the other. -/
def handleReminders (scanner : Scanner) : List Reminder → Program ScanReport
  | [] => pure .none
  | reminder :: more => do
    let first ← scanner.handleReminder reminder
    let rest ← scanner.handleReminders more
    pure (first + rest)

/-- Publish the tasks of a birthday: whether the birthday is handled for today, and the report. -/
def handleBirthday (scanner : Scanner) (birthday : Birthday) : Program (Bool × ScanReport) :=
  match birthday.fanOut with
  | .error _ => pure (true, .oneFailed)
  | .ok tasks => do
    let publication ← publishAll scanner.publishTimeout tasks.payloads
    pure (!publication.retry, publication.report)

/-- Handle birthdays one after the other, each user once a day. -/
def handleBirthdays (scanner : Scanner) (handled : HandledBirthdays) :
    List Birthday → Program (HandledBirthdays × ScanReport)
  | [] => pure (handled, .none)
  | birthday :: more =>
    if handled.contains birthday.userId then do
      let (last, rest) ← scanner.handleBirthdays handled more
      pure (last, .oneSkipped + rest)
    else do
      let (done, first) ← scanner.handleBirthday birthday
      let next := if done then handled.insert birthday.userId else handled
      let (last, rest) ← scanner.handleBirthdays next more
      pure (last, first + rest)

/-- The half of a scan that handles reminders: its report, and its failure if the query failed. -/
def scanReminders (scanner : Scanner) (now : Instant) :
    Program (ScanReport × Option FailedQuery) := do
  match ← scanner.ask (.dueReminders now) rfl with
  | .error failure => pure (.none, some (.reminders failure))
  | .ok (reminders : List Reminder) =>
    let report ← scanner.handleReminders reminders
    pure ({ ScanReport.none with dueReminders := reminders.length } + report, none)

/-- The half of a scan that handles birthdays: the birthdays that are handled after it, its report,
and its failure if the query failed. -/
def scanBirthdays (scanner : Scanner) (now : Instant) :
    Program (HandledBirthdays × ScanReport × Option FailedQuery) := do
  match ← scanner.ask (.dueBirthdays now) rfl with
  | .error failure => pure (scanner.handled, .none, some (.birthdays failure))
  | .ok (birthdays : List Birthday) =>
    let (handled, report) ← scanner.handleBirthdays (scanner.handled.onDay now.date) birthdays
    pure (handled, { ScanReport.none with dueBirthdays := birthdays.length } + report, none)

/-- One scan: the scanner after it, and what it did. -/
def scan (scanner : Scanner) (now : Instant) :
    Program (Scanner × Except IncompleteScan ScanReport) := do
  let (first, reminderFailure) ← scanner.scanReminders now
  let (handled, second, birthdayFailure) ← scanner.scanBirthdays now
  let report := first + second
  let failures := reminderFailure.toList ++ birthdayFailure.toList
  let outcome := if failures.isEmpty then .ok report else .error ⟨report, failures⟩
  pure ({ scanner with handled := handled }, outcome)

end Scanner

end ReminderDispatch
