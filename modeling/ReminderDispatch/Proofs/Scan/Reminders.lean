import ReminderDispatch.Proofs.Lists
import ReminderDispatch.Proofs.Scan.Calls
import ReminderDispatch.Proofs.Store.Reminders

/-!
# Reminders under scans

No reminder is lost by the scanner. A mark is the only thing that takes a reminder from those that
wait, and in every dialogue of a scan, cut off anywhere, a mark comes right after both tasks of its
reminder were accepted, unless no tasks can be made from the reminder.
-/

namespace ReminderDispatch.Scanner

variable {store middle after : ReminderStore} {trace front back : List Answered} {scanner : Scanner}
  {now : Instant} {reminders due : List Reminder} {reminder : Reminder} {tasks : FanOut}
  {out : Option (Scanner × Except IncompleteScan ScanReport)}

/-! ## Guarded marks -/

/-- One of the reminders has the key, and both of its tasks were accepted at the end of the dialogue,
unless no tasks can be made from it. -/
def Cleared (reminders : List Reminder) (id : ReminderId) (trace : List Answered) : Prop :=
  ∃ reminder ∈ reminders, reminder.id = id ∧ ∀ tasks, reminder.fanOut = .ok tasks →
    ∃ start published, trace = start ++ published ∧
      published.map (·.call) = tasks.payloads.map (·.publication) ∧ published.all (·.isOk) = true

/-- Every reminder is cleared right before it is marked. -/
def Guarded (reminders : List Reminder) (trace : List Answered) : Prop :=
  ∀ front answered back, trace = front ++ answered :: back → ∀ id, answered.call = .mark id →
    Cleared reminders id front

/-- What was said before does not matter. -/
theorem Cleared.prepend {id : ReminderId} (cleared : Cleared reminders id back)
    (front : List Answered) : Cleared reminders id (front ++ back) := by
  obtain ⟨reminder, member, same, accepted⟩ := cleared
  refine ⟨reminder, member, same, fun tasks valid => ?_⟩
  obtain ⟨start, published, rfl, facts⟩ := accepted tasks valid
  exact ⟨front ++ start, published, (List.append_assoc _ _ _).symm, facts⟩

/-- Where nothing is marked all marks are guarded. -/
theorem guarded_of_quiet (quiet : ∀ answered ∈ trace, answered.call.isMark = false) :
    Guarded reminders trace := by
  intro front answered back split id isMark
  have noMark := quiet answered (by simp [split])
  rw [isMark] at noMark
  cases noMark

/-- The beginning of a dialogue with guarded marks has guarded marks. -/
theorem Guarded.of_prefix (guarded : Guarded reminders (front ++ back)) : Guarded reminders front := by
  intro start answered rest split
  exact guarded start answered (rest ++ back) (by simp [split])

/-- Marks stay guarded when other reminders are known. -/
theorem Guarded.mono (guarded : Guarded reminders trace) (known : reminders ⊆ due) :
    Guarded due trace := by
  intro front answered back split id isMark
  obtain ⟨reminder, member, rest⟩ := guarded front answered back split id isMark
  exact ⟨reminder, known member, rest⟩

/-- Marks are guarded in two dialogues, one after the other, if they are in each. -/
theorem Guarded.append (first : Guarded reminders front) (second : Guarded reminders back) :
    Guarded reminders (front ++ back) := by
  intro start answered rest split id isMark
  rcases List.append_eq_append_iff.1 split with ⟨between, rfl, isBack⟩ |
    ⟨between, isFront, isRest⟩
  · exact (second between answered rest isBack id isMark).prepend front
  · cases between with
    | nil =>
      rw [List.append_nil] at isFront
      rw [← isFront, ← List.append_nil front]
      exact (second [] answered rest isRest.symm id isMark).prepend front
    | cons mark more =>
      obtain ⟨rfl, -⟩ := List.cons.inj isRest
      exact first start answered more isFront id isMark

/-- The calls that publish payloads are not marks. -/
theorem isMark_of_publications {published : List Answered} {payloads : List TaskPayload}
    (calls : published.map (·.call) = payloads.map (·.publication)) :
    ∀ answered ∈ published, answered.call.isMark = false := by
  intro answered member
  obtain ⟨payload, -, same⟩ := exists_publication calls member
  rw [same]
  rfl

/-- A mark is guarded at the end of a section in which both tasks of its reminder were accepted, if
tasks can be made from it. -/
theorem guarded_concat {published : List Answered} {mark : Answered}
    (quiet : ∀ answered ∈ published, answered.call.isMark = false) (isMark : mark.call = .mark reminder.id)
    (accepted : ∀ tasks, reminder.fanOut = .ok tasks →
      published.map (·.call) = tasks.payloads.map (·.publication) ∧
        published.all (·.isOk) = true) : Guarded [reminder] (published ++ [mark]) := by
  intro front answered back split id isAnswered
  rcases append_cons_eq_concat split with ⟨rfl, rfl, -⟩ | ⟨more, isPublished, -⟩
  · refine ⟨reminder, List.mem_singleton_self _, ?_, fun tasks valid => ?_⟩
    · exact Call.mark.inj (isMark.symm.trans isAnswered)
    · exact ⟨[], published, (List.nil_append _).symm, accepted tasks valid⟩
  · have noMark := quiet answered (by simp [isPublished])
    rw [isAnswered] at noMark
    cases noMark

/-- Marks are guarded in what a scan says about a reminder. -/
theorem Handled.guarded (handled : Handled reminder trace) : Guarded [reminder] trace := by
  cases handled with
  | dropped invalid isMark =>
    have quiet : ∀ answered ∈ ([] : List Answered), answered.call.isMark = false := by simp
    refine guarded_concat quiet isMark fun tasks valid => ?_
    rw [invalid] at valid
    contradiction
  | kept valid calls refused => exact guarded_of_quiet (isMark_of_publications calls)
  | passedOn valid calls accepted isMark =>
    refine guarded_concat (isMark_of_publications calls) isMark fun others isValid => ?_
    obtain rfl := Except.ok.inj (valid.symm.trans isValid)
    exact ⟨calls, accepted⟩

/-- Marks are guarded in what a scan says about reminders. -/
theorem guarded_flatten {sections : List (List Answered)}
    (handled : List.Forall₂ Handled reminders sections) : Guarded reminders sections.flatten := by
  induction handled with
  | nil => exact guarded_of_quiet (by simp)
  | @cons reminder first more rest handles _ ih =>
    rw [List.flatten_cons]
    exact (handles.guarded.mono (by simp)).append (ih.mono (by simp))

/-- Marks are guarded in all that a scan says. -/
theorem Outline.guarded (outline : Outline now due trace) : Guarded due trace := by
  have query : ∀ answered : Answered, answered.call = .dueReminders now →
      Guarded due [answered] := by
    intro answered isQuery
    refine guarded_of_quiet fun other isOther => ?_
    rw [List.mem_singleton.1 isOther, isQuery]
    rfl
  cases outline with
  | told handled quiet =>
    exact (query _ rfl).append ((guarded_flatten handled).append (guarded_of_quiet quiet))
  | untold isQuery failed quiet => exact (query _ isQuery).append (guarded_of_quiet quiet)

/-! ## Scans of a store -/

/-- A store that answers the query for reminders tells those that are due. -/
theorem eq_of_responds
    (responds : ReminderStore.Responds (.dueReminders now) (some (.ok due)) store after) :
    due = store.dueReminders now := by
  cases responds
  rfl

/-- In every scan of a store, cut off or not, what is said is the beginning of the outline for the
reminders that are due. -/
theorem scan_outline
    (runs : (scanner.scan now).Runs ReminderStore.Responds store trace after out) :
    ∃ more, Outline now (store.dueReminders now) (trace ++ more) ∧ (out.isSome → more = []) := by
  obtain ⟨more, last, outcome, complete, finished⟩ := runs.extend .silent
  refine ⟨more, ?_, finished⟩
  obtain ⟨due, outline⟩ := scan_runs complete
  generalize trace ++ more = said at complete outline
  cases outline with
  | told handled quiet =>
    obtain ⟨middle, told⟩ := complete.first_answered
    rw [eq_of_responds told] at handled ⊢
    exact .told handled quiet
  | untold isQuery failed quiet => exact .untold isQuery failed quiet

/-- Both tasks of a reminder were accepted, and then the reminder was marked. -/
def Accepts (trace : List Answered) (reminder : Reminder) (tasks : FanOut) : Prop :=
  ∃ start notification email mark rest, trace = start ++ notification :: email :: mark :: rest ∧
    notification.call = (TaskPayload.notification tasks.notification).publication ∧
    notification.isOk = true ∧ email.call = (TaskPayload.email tasks.email).publication ∧
    email.isOk = true ∧ mark.call = .mark reminder.id

/-- A reminder from which tasks can be made stays as it is in a scan, or it is dispatched after both
tasks were accepted. -/
theorem scan_accepts (distinct : store.keys.Nodup) (member : reminder ∈ store.reminders)
    (valid : reminder.fanOut = .ok tasks)
    (runs : (scanner.scan now).Runs ReminderStore.Responds store trace after out) :
    after.get? reminder.id = some reminder ∨
      after.get? reminder.id = some reminder.dispatched ∧ Accepts trace reminder tasks := by
  have found := ReminderStore.get?_of_mem distinct member
  refine (ReminderStore.get?_runs runs found).imp_right (And.imp_right ?_)
  rintro ⟨mark, isSaid, isMark⟩
  obtain ⟨front, back, rfl⟩ := List.append_of_mem isSaid
  obtain ⟨more, outline, -⟩ := scan_outline runs
  obtain ⟨owner, isDue, same, accepted⟩ := outline.guarded.of_prefix front mark back rfl _ isMark
  have isStored : owner ∈ store.reminders := (List.mem_filter.1 isDue).1
  obtain rfl := List.inj_on_of_nodup_map distinct isStored member same
  obtain ⟨start, published, rfl, calls, allOk⟩ := accepted tasks valid
  obtain ⟨notification, others, rfl, isNotification, rest⟩ := List.map_eq_cons_iff.1 calls
  obtain ⟨email, none, rfl, isEmail, ended⟩ := List.map_eq_cons_iff.1 rest
  obtain rfl := List.map_eq_nil_iff.1 ended
  simp only [List.all_cons, List.all_nil, Bool.and_true, Bool.and_eq_true] at allOk
  exact ⟨start, notification, email, mark, back, by simp, isNotification, allOk.1, isEmail,
    allOk.2, isMark⟩

/-- A scan that took place: what it said, until it ended or was cut off. -/
structure Round where
  /-- The scanner. -/
  scanner : Scanner
  /-- The time of the scan. -/
  now : Instant
  /-- What was said. -/
  trace : List Answered

/-- Scans of a store, one after the other. -/
inductive Scans : ReminderStore → List Round → ReminderStore → Prop where
  /-- No scan took place. -/
  | none (store : ReminderStore) : Scans store [] store
  /-- A scan took place, and then others. -/
  | more {round : Round} {rounds : List Round} {store middle after : ReminderStore}
      {out : Option (Scanner × Except IncompleteScan ScanReport)}
      (first : (round.scanner.scan round.now).Runs ReminderStore.Responds store round.trace middle
        out) (later : Scans middle rounds after) : Scans store (round :: rounds) after

/-- Scans leave the keys of the reminders as they are. -/
theorem keys_scans {rounds : List Round} (scans : Scans store rounds after) :
    after.keys = store.keys := by
  induction scans with
  | none store => rfl
  | more first _ ih => exact ih.trans (ReminderStore.keys_runs first)

/-- A reminder from which tasks can be made stays as it is, or both tasks were accepted in one of
the scans. -/
theorem scans_accept {rounds : List Round} (distinct : store.keys.Nodup)
    (member : reminder ∈ store.reminders) (valid : reminder.fanOut = .ok tasks)
    (scans : Scans store rounds after) :
    reminder ∈ after.reminders ∨ ∃ round ∈ rounds, Accepts round.trace reminder tasks := by
  induction scans with
  | none store => exact .inl member
  | more first _ ih =>
    rcases scan_accepts distinct member valid first with kept | ⟨-, accepts⟩
    · have isDistinct := ReminderStore.keys_runs first ▸ distinct
      refine (ih isDistinct (ReminderStore.get?_mem kept)).imp_right ?_
      rintro ⟨round, isLater, accepts⟩
      exact ⟨round, List.mem_cons_of_mem _ isLater, accepts⟩
    · exact .inr ⟨_, List.mem_cons_self, accepts⟩

/-- No reminder is lost by scans that are answered, not answered or cut off in any way.

A pending reminder that is dispatched by a scan has had both of its tasks accepted earlier in that
scan, if tasks can be made from it. So at any time it still waits, and is among the due ones from its
time on, or both of its tasks were accepted in one of the scans. A due reminder from which no tasks
can be made is marked, and nothing is published for it. -/
theorem no_reminder_lost {rounds : List Round} (distinct : store.keys.Nodup)
    (scans : Scans store rounds middle)
    (runs : (scanner.scan now).Runs ReminderStore.Responds middle trace after out) :
    (∀ reminder ∈ middle.reminders, reminder.status = .pending →
      ∀ tasks, reminder.fanOut = .ok tasks → ∀ later ∈ after.reminders, later.id = reminder.id →
        later.status = .dispatched → Accepts trace reminder tasks) ∧
    (∀ reminder ∈ store.reminders, reminder.status = .pending →
      ∀ tasks, reminder.fanOut = .ok tasks →
        (reminder ∈ after.reminders ∧ ∀ time, reminder.executeAt ≤ time →
          ∀ (due : List Reminder) (next : ReminderStore),
            ReminderStore.Responds (.dueReminders time) (some (.ok due)) after next →
              reminder ∈ due) ∨
        ∃ round ∈ rounds ++ [⟨scanner, now, trace⟩], Accepts round.trace reminder tasks) ∧
    (∃ more, Outline now (middle.dueReminders now) (trace ++ more) ∧ (out.isSome → more = [])) ∧
    ∀ reminder failure said, reminder.fanOut = .error failure → Handled reminder said →
      ∃ mark, said = [mark] ∧ mark.call = .mark reminder.id := by
  have isDistinct : middle.keys.Nodup := keys_scans scans ▸ distinct
  have lastDistinct : after.keys.Nodup := ReminderStore.keys_runs runs ▸ isDistinct
  refine ⟨?_, ?_, scan_outline runs, ?_⟩
  · intro reminder member pending tasks valid later isStored same isDispatched
    have found := ReminderStore.get?_of_mem lastDistinct isStored
    rw [same] at found
    rcases scan_accepts isDistinct member valid runs with kept | ⟨-, accepts⟩
    · obtain rfl := Option.some.inj (kept.symm.trans found)
      rw [pending] at isDispatched
      contradiction
    · exact accepts
  · intro reminder member pending tasks valid
    rcases scans_accept distinct member valid scans with kept | ⟨round, isRound, accepts⟩
    · rcases scan_accepts isDistinct kept valid runs with stays | ⟨-, accepts⟩
      · refine .inl ⟨ReminderStore.get?_mem stays, fun time begun due next told => ?_⟩
        rw [eq_of_responds told]
        exact List.mem_filter.2
          ⟨ReminderStore.get?_mem stays, Reminder.isDue_of_pending pending begun⟩
      · exact .inr ⟨_, List.mem_append_right _ (List.mem_singleton_self _), accepts⟩
    · exact .inr ⟨round, List.mem_append_left _ isRound, accepts⟩
  · intro reminder failure said invalid handled
    cases handled with
    | dropped _ isMark => exact ⟨_, rfl, isMark⟩
    | kept valid => simp [invalid] at valid
    | passedOn valid => simp [invalid] at valid

/-- A scanner with limits of five seconds. -/
def watch : Scanner := .new ⟨.ofSeconds 60, .ofSeconds 5, true⟩ (.ofSeconds 5)

/-- A reminder that is due from the epoch on. -/
def wish : Reminder where
  id := ⟨1⟩
  userId := ⟨7⟩
  email := "ada@example.com"
  title := "Gift"
  body := "The list has 3 items"
  kind := "alert"
  executeAt := .midnight .epoch
  status := .pending

/-- Tasks can be made from the reminder. -/
theorem wish_valid : ∃ tasks, wish.fanOut = .ok tasks := by
  have isValid : wish.fanOut.isOk = true := by decide +kernel
  cases fanOut : wish.fanOut with
  | ok tasks => exact ⟨tasks, rfl⟩
  | error failure => simp [fanOut] at isValid

/-- After a scan that was cut off at once, another one dispatches the reminder of a store. -/
theorem no_reminder_lost_wish :
    ∃ tasks trace, wish.fanOut = .ok tasks ∧
      (watch.scan (.midnight .epoch)).Runs ReminderStore.Responds ⟨[wish], [], 1⟩ trace
        ⟨[wish.dispatched], [], 1⟩
        (some ((watch.scan (.midnight .epoch)).run ReminderStore.promptly ⟨[wish], [], 1⟩).1) ∧
      Accepts trace wish tasks := by
  obtain ⟨tasks, valid⟩ := wish_valid
  have after : ((watch.scan (.midnight .epoch)).run ReminderStore.promptly ⟨[wish], [], 1⟩).2 =
      ⟨[wish.dispatched], [], 1⟩ := by decide +kernel
  obtain ⟨trace, runs⟩ := Program.runs_run ReminderStore.responds_promptly
    (watch.scan (.midnight .epoch)) ⟨[wish], [], 1⟩
  rw [after] at runs
  have before : Scans ⟨[wish], [], 1⟩ [⟨watch, .midnight .epoch, []⟩] ⟨[wish], [], 1⟩ :=
    .more (.cut _ _) (.none _)
  have lost := no_reminder_lost (by decide +kernel) before runs
  exact ⟨tasks, trace, valid, runs,
    lost.1 wish (by simp) rfl tasks valid wish.dispatched (by simp) rfl rfl⟩

end ReminderDispatch.Scanner
