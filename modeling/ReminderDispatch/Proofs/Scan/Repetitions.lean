import ReminderDispatch.Proofs.Pipeline.Stock
import ReminderDispatch.Proofs.Scan.Birthdays

/-!
# Repetitions

When a reminder is published again, and what a scan finds to do after one in which nothing failed.
A successful mark takes a reminder from those that are due for good. So tasks of a reminder are
published in several scans only if in each of them but the last a publication or the mark of this
very reminder failed; and after a scan without failures the next one at the same time has nothing
to do.
-/

namespace ReminderDispatch.Scanner

variable {store middle after : ReminderStore} {trace said rest : List Answered}
  {scanner next : Scanner} {now : Instant} {reminder other : Reminder}
  {rounds front back : List Round} {round : Round} {reminders : List Reminder}

/-! ## Turns of a reminder -/

/-- In a scan a reminder had its turn: it was one of those that were due, and `said` is all that was
said from its turn on. -/
def Round.ComesTo (round : Round) (reminder : Reminder) (said : List Answered) : Prop :=
  ∃ earlier later sections, List.Forall₂ Handled earlier sections ∧
    round.trace = ⟨.dueReminders round.now, some (.ok (earlier ++ reminder :: later))⟩ ::
      (sections.flatten ++ said)

/-- In a scan a reminder had its turn, and the first that was said then was that one of its tasks be
published. -/
def Round.Publishes (round : Round) (reminder : Reminder) : Prop :=
  ∃ answered rest tasks, round.ComesTo reminder (answered :: rest) ∧ reminder.fanOut = .ok tasks ∧
    ∃ payload ∈ tasks.payloads, answered.call = payload.publication

/-- The scan came to its end. -/
def Round.IsWhole (round : Round) : Prop :=
  ∃ before after outcome, (round.scanner.scan round.now).Runs ReminderStore.Responds before
    round.trace after (some outcome)

/-- A reminder of which nothing failed was marked with success. -/
theorem Handled.marked (handled : Handled reminder said)
    (accepted : ∀ answered ∈ said, answered.isOk = true) :
    ∃ mark ∈ said, mark.call = .mark reminder.id ∧ mark.isOk = true := by
  cases handled with
  | dropped invalid isMark =>
    exact ⟨_, List.mem_singleton_self _, isMark, accepted _ (List.mem_singleton_self _)⟩
  | kept valid calls refused =>
    have allOk : said.all (·.isOk) = true := List.all_eq_true.2 accepted
    rw [refused] at allOk
    contradiction
  | @passedOn tasks published mark valid calls isAccepted isMark =>
    have isLast : mark ∈ published ++ [mark] := by simp
    exact ⟨mark, isLast, isMark, accepted mark isLast⟩

/-- Of a reminder from which tasks can be made, the notification is published first. -/
theorem Handled.publishes {tasks : FanOut} (handled : Handled reminder said)
    (valid : reminder.fanOut = .ok tasks) (comes : round.ComesTo reminder (said ++ rest)) :
    round.Publishes reminder := by
  have isFirst : ∃ answered more, said = answered :: more ∧
      answered.call = (TaskPayload.notification tasks.notification).publication := by
    cases handled with
    | dropped invalid isMark =>
      rw [valid] at invalid
      contradiction
    | kept isValid calls refused =>
      obtain rfl := Except.ok.inj (valid.symm.trans isValid)
      obtain ⟨answered, more, rfl, isCall, -⟩ := List.map_eq_cons_iff.1 calls
      exact ⟨answered, more, rfl, isCall⟩
    | passedOn isValid calls accepted isMark =>
      obtain rfl := Except.ok.inj (valid.symm.trans isValid)
      obtain ⟨answered, more, rfl, isCall, -⟩ := List.map_eq_cons_iff.1 calls
      exact ⟨answered, _, List.cons_append .., isCall⟩
  obtain ⟨answered, more, rfl, isCall⟩ := isFirst
  exact ⟨answered, more ++ rest, tasks, comes, valid, _, List.mem_cons_self, isCall⟩

/-- A scan tells of its due reminders in its first answer. -/
theorem Round.ComesTo.isDue {out : Option (Scanner × Except IncompleteScan ScanReport)}
    (comes : round.ComesTo reminder said)
    (runs : (round.scanner.scan round.now).Runs ReminderStore.Responds store round.trace after
      out) : reminder ∈ store.dueReminders round.now := by
  obtain ⟨earlier, later, sections, -, split⟩ := comes
  rw [split] at runs
  obtain ⟨middle, told⟩ := runs.first_answered
  have among : reminder ∈ earlier ++ reminder :: later := by simp
  exact eq_of_responds told ▸ among

/-- In a scan that came to its end every reminder that was told of had its turn. -/
theorem exists_turn {outcome : Scanner × Except IncompleteScan ScanReport}
    (runs : (scanner.scan now).Runs ReminderStore.Responds store trace after (some outcome))
    (told : trace = ⟨.dueReminders now, some (.ok reminders)⟩ :: rest)
    (member : reminder ∈ reminders) :
    ∃ said others, Round.ComesTo ⟨scanner, now, trace⟩ reminder (said ++ others) ∧
      Handled reminder said := by
  obtain ⟨due, outline⟩ := scan_runs runs
  cases outline with
  | @told sections birthdays handled quiet =>
    obtain ⟨isDue, -⟩ := List.cons.inj told
    obtain rfl : due = reminders := by cases isDue; rfl
    obtain ⟨earlier, later, rfl⟩ := List.append_of_mem member
    obtain ⟨before, said, others, rfl, first, handles⟩ := forall₂_append_cons handled
    refine ⟨said, others.flatten ++ birthdays, ⟨earlier, later, before, first, ?_⟩, handles⟩
    simp
  | untold isQuery failed quiet =>
    obtain ⟨rfl, -⟩ := List.cons.inj told
    contradiction

/-! ## Later scans -/

/-- A dispatched reminder stays so in all scans. -/
theorem get?_scans_dispatched {id : ReminderId} (scans : Scans store rounds after)
    (found : store.get? id = some reminder.dispatched) :
    after.get? id = some reminder.dispatched := by
  induction scans with
  | none store => exact found
  | more first _ ih => exact ih (ReminderStore.get?_runs_dispatched first found)

/-- What takes place in a sequence of scans takes place between those before it and those after
it. -/
theorem scans_split (scans : Scans store (front ++ round :: back) after) :
    ∃ before middle out, Scans store front before ∧
      (round.scanner.scan round.now).Runs ReminderStore.Responds before round.trace middle out ∧
      Scans middle back after := by
  induction front generalizing store with
  | nil =>
    cases scans with
    | more first later => exact ⟨store, _, _, .none store, first, later⟩
  | cons head tail ih =>
    cases scans with
    | more first later =>
      obtain ⟨before, middle, out, earlier, runs, rest⟩ := ih later
      exact ⟨before, middle, out, .more first earlier, runs, rest⟩

/-- After a scan in which nothing failed of a reminder, the reminder has no turn in any other
scan. -/
theorem no_turn_again {first second : Round} {between : List Round}
    (distinct : store.keys.Nodup)
    (scans : Scans store (front ++ first :: (between ++ second :: back)) after)
    (comes : first.ComesTo reminder (said ++ rest)) (handled : Handled reminder said)
    (accepted : ∀ answered ∈ said, answered.isOk = true) (same : other.id = reminder.id)
    (again : List Answered) : ¬ second.ComesTo other again := by
  intro comesAgain
  obtain ⟨before, middle, out, earlier, runs, later⟩ := scans_split scans
  obtain ⟨start, last, outcome, others, runsAgain, -⟩ := scans_split later
  have isMarked : ∃ reminder : Reminder, middle.get? other.id = some reminder.dispatched := by
    obtain ⟨mark, isSaid, isMark, succeeded⟩ := handled.marked accepted
    obtain ⟨due, behind, sections, -, split⟩ := comes
    have inTrace : mark ∈ first.trace := by simp [split, isSaid]
    exact same ▸ ReminderStore.get?_runs_marked runs inTrace isMark succeeded
  obtain ⟨marked, found⟩ := isMarked
  have stillFound := get?_scans_dispatched others found
  have keys : start.keys = store.keys :=
    (keys_scans others).trans ((ReminderStore.keys_runs runs).trans (keys_scans earlier))
  have isDue := comesAgain.isDue runsAgain
  exact ReminderStore.ne_of_mem_dueReminders (keys ▸ distinct) stillFound isDue rfl

/-! ## Scans that find nothing to do -/

section Quiet

variable {σ : Type} {responds : (call : Call) → Option call.Reply → σ → σ → Prop} {state final : σ}
  {handled : HandledBirthdays} {birthdays : List Birthday}

/-- Birthdays that are done for the day are passed by. -/
theorem handleBirthdays_done
    (done : ∀ birthday ∈ birthdays, handled.contains birthday.userId = true) :
    scanner.handleBirthdays handled birthdays =
      pure (handled, { ScanReport.none with skippedBirthdays := birthdays.length }) := by
  induction birthdays with
  | nil => rfl
  | cons birthday more ih =>
    have rest := ih fun other isMore => done other (List.mem_cons_of_mem _ isMore)
    unfold handleBirthdays
    rw [if_pos (done birthday List.mem_cons_self), rest]
    have one_more : ScanReport.oneSkipped +
        { ScanReport.none with skippedBirthdays := more.length } =
          { ScanReport.none with skippedBirthdays := (birthday :: more).length } := by
      rw [List.length_cons, Nat.add_comm]
      rfl
    rw [← one_more]
    rfl

/-- The report on a scan that only passed birthdays by. -/
def passedBy (birthdays : Nat) : ScanReport :=
  { ScanReport.none with dueBirthdays := birthdays, skippedBirthdays := birthdays }

/-- A result that a store is certain to tell is heard. -/
theorem ask_told {call : Call} {isStore : call.Failure = StoreError} {result : call.Result}
    {outcome : Except StoreError call.Result}
    (isTold : ∀ reply after, responds call reply state after →
      reply = some (.ok result) ∧ after = state)
    (runs : (scanner.ask call isStore).Runs responds state trace final (some outcome)) :
    outcome = .ok result ∧ final = state := by
  obtain ⟨reply, -, told, rfl⟩ := ask_heard runs
  obtain ⟨rfl, rfl⟩ := isTold reply final told
  exact ⟨rfl, rfl⟩

/-- When no reminder is due, none is handled. -/
theorem scanReminders_idle {outcome : ScanReport × Option FailedQuery}
    (isTold : ∀ reply after, responds (.dueReminders now) reply state after →
      reply = some (.ok []) ∧ after = state)
    (runs : (scanner.scanReminders now).Runs responds state trace final (some outcome)) :
    outcome = (.none, none) ∧ final = state := by
  obtain ⟨found, asked, middle, rest, -, query, handles⟩ := runs.bind_cases
  obtain ⟨rfl, rfl⟩ := ask_told isTold query
  obtain ⟨-, rfl, rfl⟩ := Program.Runs.pure_cases handles
  exact ⟨rfl, rfl⟩

/-- When all birthdays are done for the day, they are counted and passed by. -/
theorem scanBirthdays_idle {outcome : HandledBirthdays × ScanReport × Option FailedQuery}
    (isTold : ∀ reply after, responds (.dueBirthdays now) reply state after →
      reply = some (.ok birthdays) ∧ after = state)
    (today : scanner.handled.day = some now.date)
    (done : ∀ birthday ∈ birthdays, scanner.handled.contains birthday.userId = true)
    (runs : (scanner.scanBirthdays now).Runs responds state trace final (some outcome)) :
    outcome = (scanner.handled, passedBy birthdays.length, none) ∧ final = state := by
  have sameDay : scanner.handled.onDay now.date = scanner.handled := if_pos today
  obtain ⟨found, asked, middle, rest, -, query, goesOn⟩ := runs.bind_cases
  obtain ⟨rfl, rfl⟩ := ask_told isTold query
  obtain ⟨passed, said, stop, nothing, -, handles, ends⟩ := Program.Runs.bind_cases goesOn
  rw [sameDay, handleBirthdays_done done] at handles
  obtain ⟨-, rfl, rfl⟩ := handles.pure_cases
  obtain ⟨-, rfl, rfl⟩ := Program.Runs.pure_cases ends
  have counted : { ScanReport.none with dueBirthdays := birthdays.length } +
      { ScanReport.none with skippedBirthdays := birthdays.length } =
        passedBy birthdays.length := by
    show ScanReport.mk 0 _ 0 0 0 (0 + _) = passedBy birthdays.length
    rw [Nat.zero_add]
    rfl
  exact ⟨congrArg (fun report => (scanner.handled, report, none)) counted, rfl⟩

/-- A scan does nothing when no reminder is due and all birthdays are done for the day. -/
theorem scan_idle {outcome : Scanner × Except IncompleteScan ScanReport}
    (noReminders : ∀ reply after, responds (.dueReminders now) reply state after →
      reply = some (.ok []) ∧ after = state)
    (isTold : ∀ reply after, responds (.dueBirthdays now) reply state after →
      reply = some (.ok birthdays) ∧ after = state)
    (today : scanner.handled.day = some now.date)
    (done : ∀ birthday ∈ birthdays, scanner.handled.contains birthday.userId = true)
    (runs : (scanner.scan now).Runs responds state trace final (some outcome)) :
    outcome = (scanner, .ok (passedBy birthdays.length)) ∧ final = state := by
  obtain ⟨first, asked, middle, rest, -, reminders, goesOn⟩ := runs.bind_cases
  obtain ⟨rfl, rfl⟩ := scanReminders_idle noReminders reminders
  obtain ⟨second, said, last, nothing, -, others, ends⟩ := Program.Runs.bind_cases goesOn
  obtain ⟨rfl, rfl⟩ := scanBirthdays_idle isTold today done others
  obtain ⟨-, rfl, rfl⟩ := Program.Runs.pure_cases ends
  rw [ScanReport.none_add]
  exact ⟨rfl, rfl⟩

end Quiet

/-! ## After a scan without failures -/

/-- A reminder that is due after a dialogue was due as it is before it. -/
theorem mem_of_isDue {α : Type} {program : Program α} {out : Option α}
    (distinct : store.keys.Nodup)
    (runs : program.Runs ReminderStore.Responds store trace after out)
    (isDue : reminder ∈ after.dueReminders now) : reminder ∈ store.dueReminders now := by
  obtain ⟨member, pending⟩ := List.mem_filter.1 isDue
  have keys := ReminderStore.keys_runs runs
  have found := ReminderStore.get?_of_mem (keys ▸ distinct) member
  have isKey : reminder.id ∈ store.keys := keys ▸ List.mem_map_of_mem member
  obtain ⟨before, wasStored, sameKey⟩ := List.mem_map.1 isKey
  have wasFound := ReminderStore.get?_of_mem distinct wasStored
  rcases ReminderStore.get?_runs runs wasFound with kept | ⟨dispatched, -⟩
  · rw [sameKey, found] at kept
    rw [Option.some.inj kept]
    exact List.mem_filter.2 ⟨wasStored, Option.some.inj kept ▸ pending⟩
  · exact absurd sameKey.symm
      (ReminderStore.ne_of_mem_dueReminders (keys ▸ distinct) dispatched isDue)

/-- After a scan in which nothing failed no reminder is due. -/
theorem none_due_after {outcome : Scanner × Except IncompleteScan ScanReport}
    (distinct : store.keys.Nodup)
    (runs : (scanner.scan now).Runs ReminderStore.Responds store trace after (some outcome))
    (accepted : ∀ answered ∈ trace, answered.isOk = true) : after.dueReminders now = [] := by
  apply List.eq_nil_iff_forall_not_mem.2
  intro reminder isDue
  have wasDue := mem_of_isDue distinct runs isDue
  have told : ∃ rest, trace = ⟨.dueReminders now, some (.ok (store.dueReminders now))⟩ :: rest := by
    obtain ⟨more, outline, complete⟩ := scan_outline runs
    rw [complete rfl, List.append_nil] at outline
    cases outline with
    | told handled quiet => exact ⟨_, rfl⟩
    | @untold query _ isQuery failed quiet =>
      rw [accepted query List.mem_cons_self] at failed
      contradiction
  obtain ⟨rest, told⟩ := told
  obtain ⟨said, others, ⟨earlier, later, sections, -, split⟩, handled⟩ :=
    exists_turn runs told wasDue
  have inTrace : ∀ answered ∈ said, answered ∈ trace := by
    intro answered isSaid
    show answered ∈ (Round.mk scanner now trace).trace
    rw [split]
    simp [isSaid]
  obtain ⟨mark, isSaid, isMark, succeeded⟩ :=
    handled.marked fun answered isSaid => accepted answered (inTrace answered isSaid)
  obtain ⟨marked, found⟩ :=
    ReminderStore.get?_runs_marked runs (inTrace mark isSaid) isMark succeeded
  have isDistinct := ReminderStore.keys_runs runs ▸ distinct
  exact ReminderStore.ne_of_mem_dueReminders isDistinct found isDue rfl

/-- Whatever is remembered, there could have been celebrations on the day that account for it. -/
theorem exists_past (limit : Duration) (handled : HandledBirthdays) (day : Date) :
    ∃ past, ∀ user, handled.contains user = true ↔ DoneOn limit past day user := by
  refine ⟨handled.users.map fun user => ⟨⟨user, "", ""⟩, day, .dropped⟩, fun user => ?_⟩
  rw [HandledBirthdays.contains, List.contains_iff_mem]
  constructor
  · intro member
    exact ⟨_, List.mem_map_of_mem member, ⟨rfl, rfl⟩, trivial⟩
  · rintro ⟨celebration, among, isOf, -⟩
    obtain ⟨known, member, rfl⟩ := List.mem_map.1 among
    exact isOf.2 ▸ member

/-- When nothing failed, each user who was celebrated is done for the day. -/
theorem Orderly.doneOn {limit : Duration} {past celebrations : List Celebration}
    {celebration : Celebration} (orderly : Orderly limit past celebrations)
    (accepted : ∀ answered ∈ celebration.said, answered.isOk = true)
    (member : celebration ∈ celebrations) :
    DoneOn limit (past ++ celebrations) celebration.day celebration.birthday.userId := by
  obtain ⟨earlier, later, rfl⟩ := List.append_of_mem member
  have fits := orderly.fits
  by_cases done : DoneOn limit (past ++ earlier) celebration.day celebration.birthday.userId
  · obtain ⟨other, isEarlier, facts⟩ := done
    refine ⟨other, ?_, facts⟩
    rw [← List.append_assoc]
    exact List.mem_append_left _ isEarlier
  · refine ⟨celebration, by simp, ⟨rfl, rfl⟩, ?_⟩
    cases fanOut : celebration.birthday.fanOut with
    | error failure =>
      unfold Celebration.Completes
      rw [fits.dropped done failure fanOut]
      trivial
    | ok tasks =>
      obtain ⟨published, treatment, calls⟩ := fits.published done tasks fanOut
      exact completes_of_accepted treatment calls accepted

/-- After a scan in which nothing failed, the scanner remembers today and all users who have
birthday. -/
theorem all_done_after {outcome : Except IncompleteScan ScanReport}
    (runs : (scanner.scan now).Runs ReminderStore.Responds store trace after
      (some (next, outcome)))
    (accepted : ∀ answered ∈ trace, answered.isOk = true) :
    next.handled.day = some now.date ∧
      ∀ birthday ∈ after.dueBirthdays now, next.handled.contains birthday.userId = true := by
  obtain ⟨report, reminders, middle, rest, rfl, first, goesOn⟩ := runs.bind_cases
  obtain ⟨⟨handled, second, failure⟩, said, last, nothing, rfl, birthdays, ends⟩ :=
    Program.Runs.bind_cases goesOn
  obtain ⟨rfl, rfl, same⟩ := ends.pure_cases
  obtain ⟨rfl, -⟩ := Prod.mk.inj same
  obtain ⟨past, recalls⟩ :=
    exists_past scanner.publishTimeout (scanner.handled.onDay now.date) now.date
  have users : after.users = middle.users := ReminderStore.users_runs birthdays
  rcases scanBirthdays_runs birthdays recalls with ⟨query, rfl, -, failed, -⟩ |
    ⟨told, celebrations, about, rfl, celebrated, today, remembered⟩
  · rw [accepted query (by simp)] at failed
    contradiction
  · obtain ⟨state, isTold⟩ := birthdays.first_answered
    have due : told = after.dueBirthdays now := by
      cases isTold
      unfold ReminderStore.dueBirthdays
      rw [users]
    refine ⟨today, fun birthday isDue => ?_⟩
    rw [← due, ← celebrated.birthdays_eq] at isDue
    obtain ⟨celebration, member, rfl⟩ := List.mem_map.1 isDue
    have isAccepted : ∀ answered ∈ celebration.said, answered.isOk = true := by
      intro answered isSaid
      apply accepted
      rw [celebrated.trace_eq]
      have among := List.mem_flatMap.2 ⟨celebration, member, isSaid⟩
      simp [among]
    have done := celebrated.orderly.doneOn isAccepted member
    rw [celebrated.today celebration member] at done
    exact (remembered _).2 done

/-- When each call is answered in time by collaborators of which no reminder is due and all
birthdays are done for the day, a scan does nothing. -/
theorem idle_runs {shared final : Collaborators}
    {outcome : Scanner × Except IncompleteScan ScanReport}
    {responds : (call : Call) → Option call.Reply → Collaborators → Collaborators → Prop}
    (inTime : ∀ call reply before after, responds call reply before after →
      ∃ reading, before.answer reading call = (reply, after))
    (noneDue : shared.reminders.dueReminders now = []) (today : scanner.handled.day = some now.date)
    (done : ∀ birthday ∈ shared.reminders.dueBirthdays now,
      scanner.handled.contains birthday.userId = true)
    (runs : (scanner.scan now).Runs responds shared trace final (some outcome)) :
    outcome = (scanner, .ok (passedBy (shared.reminders.dueBirthdays now).length)) ∧
      final = shared := by
  refine scan_idle ?_ ?_ today done runs
  · intro reply after answered
    obtain ⟨reading, same⟩ := inTime _ _ _ _ answered
    obtain ⟨rfl, rfl⟩ := Prod.mk.inj same
    exact ⟨congrArg (some ∘ Except.ok) noneDue, rfl⟩
  · intro reply after answered
    obtain ⟨reading, same⟩ := inTime _ _ _ _ answered
    obtain ⟨rfl, rfl⟩ := Prod.mk.inj same
    exact ⟨rfl, rfl⟩

/-- Tasks are published again only after a failure, in every run of scans that are answered, not
answered or cut off in any way.

Once nothing that was said about a reminder failed in a scan, the reminder has no turn in any later
one. So if a reminder was published in two scans, of which the first came to its end, then a
publication or the mark of this reminder failed in the first one. After a scan without failures, a
further scan by the same scanner at the same time, all calls of which are answered, comes to its
end, reports nothing but birthdays that it passed by, and changes nothing. -/
theorem republished_only_after_failure (distinct : store.keys.Nodup)
    (scans : Scans store rounds after) :
    (∀ front first between second back, rounds = front ++ first :: (between ++ second :: back) →
      ∀ reminder other : Reminder, other.id = reminder.id →
        (∀ said rest, first.ComesTo reminder (said ++ rest) → Handled reminder said →
          (∀ answered ∈ said, answered.isOk = true) → ∀ again, ¬ second.ComesTo other again) ∧
        (first.IsWhole → first.Publishes reminder → second.Publishes other →
          ∃ said rest, first.ComesTo reminder (said ++ rest) ∧ Handled reminder said ∧
            ∃ answered ∈ said, answered.isOk = false)) ∧
    ∀ (scanner : Scanner) (now : Instant) (trace : List Answered) (last : ReminderStore)
      (next : Scanner) (outcome : Except IncompleteScan ScanReport),
      (scanner.scan now).Runs ReminderStore.Responds after trace last (some (next, outcome)) →
      (∀ answered ∈ trace, answered.isOk = true) →
      ∀ shared : Collaborators, shared.reminders = last →
        (∀ reading, (next.scan now).run (Collaborators.atOnce reading) shared =
          ((next, .ok (passedBy (last.dueBirthdays now).length)), shared)) ∧
        ∀ said final result,
          (next.scan now).Runs Collaborators.Answers shared said final (some result) →
            result = (next, .ok (passedBy (last.dueBirthdays now).length)) ∧ final = shared := by
  constructor
  · rintro front first between second back rfl reminder other same
    have noTurn : ∀ said rest, first.ComesTo reminder (said ++ rest) → Handled reminder said →
        (∀ answered ∈ said, answered.isOk = true) → ∀ again, ¬ second.ComesTo other again := by
      intro said rest comes handled accepted
      exact no_turn_again distinct scans comes handled accepted same
    refine ⟨noTurn, ?_⟩
    rintro ⟨before, behind, outcome, runs⟩ ⟨answered, rest, tasks, comes, -⟩ publishesAgain
    obtain ⟨first, again, made, comesAgain, -⟩ := publishesAgain
    obtain ⟨earlier, later, sections, -, split⟩ := comes
    have told : reminder ∈ earlier ++ reminder :: later := by simp
    obtain ⟨said, others, comes, handled⟩ := exists_turn runs split told
    refine ⟨said, others, comes, handled, ?_⟩
    by_contra noFailure
    have accepted : ∀ answered ∈ said, answered.isOk = true := by
      intro answered isSaid
      by_contra notOk
      exact noFailure ⟨answered, isSaid, Bool.eq_false_iff.2 notOk⟩
    exact noTurn said others comes handled accepted _ comesAgain
  · rintro scanner now trace last next outcome runs accepted shared rfl
    have isDistinct : after.keys.Nodup := keys_scans scans ▸ distinct
    have noneDue := none_due_after isDistinct runs accepted
    obtain ⟨today, done⟩ := all_done_after runs accepted
    constructor
    · intro reading
      have goesOn := Program.runs_answeredBy (Collaborators.atOnce reading) (next.scan now) shared
      obtain ⟨isResult, isFinal⟩ :=
        idle_runs (fun _ _ _ _ same => ⟨reading, same⟩) noneDue today done goesOn
      exact Prod.ext isResult isFinal
    · intro said final result goesOn
      have inTime (call reply before after)
          (answers : Collaborators.Answers call reply before after) :
          ∃ reading, before.answer reading call = (reply, after) := by
        obtain ⟨reading, -, -, same⟩ := answers
        exact ⟨reading, same⟩
      exact idle_runs inTime noneDue today done goesOn

/-- A store with a reminder that is due, and a user whose birthday it is. -/
def occasions : ReminderStore := ⟨[wish], [⟨⟨7⟩, "ada@example.com", "Ada", .epoch⟩], 1⟩

/-- A store that answers every call at once, beside a broker that never answers. -/
def unheard : (call : Call) → ReminderStore → Option call.Reply × ReminderStore
  | .publish _ _, store => (none, store)
  | call, store => ReminderStore.promptly call store

/-- Such answers are among those that may be given. -/
theorem responds_unheard (call : Call) (store : ReminderStore) :
    ReminderStore.Responds call (unheard call store).1 store (unheard call store).2 := by
  cases call with
  | publish type body => exact .silent _ store
  | _ => exact ReminderStore.responds_promptly _ store

/-- What a scan at the epoch says when its calls are answered without choice. -/
def scanAtEpoch (answer : (call : Call) → ReminderStore → Option call.Reply × ReminderStore) :
    Round :=
  ⟨watch, .midnight .epoch, (watch.scan (.midnight .epoch)).transcript answer occasions⟩

/-- The reminder is published in such a scan. -/
theorem scanAtEpoch_publishes
    {answer : (call : Call) → ReminderStore → Option call.Reply × ReminderStore}
    (answers : ∀ call store, ReminderStore.Responds call (answer call store).1 store
      (answer call store).2) (told : answer (.dueReminders (.midnight .epoch)) occasions =
        (some (.ok (occasions.dueReminders (.midnight .epoch))), occasions)) :
    (scanAtEpoch answer).Publishes wish := by
  obtain ⟨tasks, valid⟩ := wish_valid
  have isDue : wish ∈ occasions.dueReminders (.midnight .epoch) := by decide +kernel
  have runs := Program.runs_transcript answers (watch.scan (.midnight .epoch)) occasions
  have split : ∃ rest, (watch.scan (.midnight .epoch)).transcript answer occasions =
      ⟨.dueReminders (.midnight .epoch), (answer (.dueReminders (.midnight .epoch)) occasions).1⟩ ::
        rest := ⟨_, rfl⟩
  obtain ⟨rest, split⟩ := split
  rw [told] at split
  obtain ⟨said, others, comes, handled⟩ := exists_turn runs split isDue
  exact handled.publishes valid comes

/-- A reminder is published in a scan during which the broker does not answer, and again in the next
one. After a third scan there is one birthday to pass by. -/
theorem republished_only_after_failure_unheard :
    ∃ (after last : ReminderStore) (next : Scanner),
      Scans occasions [scanAtEpoch unheard, scanAtEpoch ReminderStore.promptly] after ∧
      (scanAtEpoch unheard).Publishes wish ∧ (scanAtEpoch ReminderStore.promptly).Publishes wish ∧
      (∃ said rest, (scanAtEpoch unheard).ComesTo wish (said ++ rest) ∧ Handled wish said ∧
        ∃ answered ∈ said, answered.isOk = false) ∧
      ∀ shared : Collaborators, shared.reminders = last →
        ∀ reading, (next.scan (.midnight .epoch)).run (Collaborators.atOnce reading) shared =
          ((next, .ok (passedBy 1)), shared) := by
  have same : ((watch.scan (.midnight .epoch)).run unheard occasions).2 = occasions := by
    decide +kernel
  have first := Program.runs_transcript responds_unheard (watch.scan (.midnight .epoch)) occasions
  rw [same] at first
  have second := Program.runs_transcript ReminderStore.responds_promptly
    (watch.scan (.midnight .epoch)) occasions
  have scans : Scans occasions [scanAtEpoch unheard, scanAtEpoch ReminderStore.promptly] _ :=
    .more first (.more second (.none _))
  have firstPublishes : (scanAtEpoch unheard).Publishes wish :=
    scanAtEpoch_publishes responds_unheard rfl
  have secondPublishes : (scanAtEpoch ReminderStore.promptly).Publishes wish :=
    scanAtEpoch_publishes ReminderStore.responds_promptly rfl
  obtain ⟨again, idle⟩ := republished_only_after_failure (by decide +kernel) scans
  have failed := (again [] _ [] _ [] rfl wish wish rfl).2 ⟨_, _, _, first⟩ firstPublishes
    secondPublishes
  generalize isAfter : ((watch.scan (.midnight .epoch)).run ReminderStore.promptly occasions).2 =
    after at scans idle
  have third := Program.runs_transcript ReminderStore.responds_promptly
    (watch.scan (.midnight .epoch)) after
  have accepted : ((watch.scan (.midnight .epoch)).transcript ReminderStore.promptly after).all
      (·.isOk) = true := by
    rw [← isAfter]
    decide +kernel
  have quiet := idle watch (.midnight .epoch) _ _ _ _ third (List.all_eq_true.1 accepted)
  have one : (((watch.scan (.midnight .epoch)).run ReminderStore.promptly after).2.dueBirthdays
      (.midnight .epoch)).length = 1 := by
    rw [← isAfter]
    decide +kernel
  rw [one] at quiet
  exact ⟨after, _, _, scans, firstPublishes, secondPublishes, failed,
    fun shared isLast => (quiet shared isLast).1⟩

end ReminderDispatch.Scanner
