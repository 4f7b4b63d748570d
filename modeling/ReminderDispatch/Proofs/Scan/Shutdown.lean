import ReminderDispatch.Proofs.Scan.Spawned

/-!
# Shutting a scanner down

A scanner that is asked to stop begins at most one more scan, and none unless it waited for a tick
when it was asked. A scan that is being made goes on to its end: it is cut off only by a holder
whose time of grace is over. The holder learns that the scanner came to its end just when it did so
in time, and then no scan is made any more.
-/

namespace ReminderDispatch

/-- A scan came to its end by itself: it said all that it had to say, or it broke off. -/
def PastScan.EndedItself (past : PastScan) : Prop :=
  past.ending = .brokeOff ∨ ∃ result, past.ending = .finished result ∧
    Program.Runs ScanUnderway.Anything (past.scan.scanner.scan past.scan.wall) () past.scan.said ()
      (some result)

namespace SpawnedScanner

variable {spawned after : SpawnedScanner} {scan : ScanUnderway} {asked : Moment} {grace : Duration}

/-! ## Scanners that are over -/

/-- A scanner that is over stays as it is. -/
theorem over_of_change (isOver : spawned.task.isOver = true) (change : spawned.Change after) :
    after.task = spawned.task ∧ after.past = spawned.past := by
  have notOver (goesOn : spawned.task.isOver = false) :
      after.task = spawned.task ∧ after.past = spawned.past :=
    absurd (goesOn.symm.trans isOver) Bool.false_ne_true
  cases change with
  | stay | ask held | drop held | answer waits known | advance inTime => exact ⟨rfl, rfl⟩
  | align early | tick early silent starts | fail early =>
    exact notOver (ScannerTask.idle_of_early early).1
  | halt waits goesOn told | cut waits goesOn passed => exact notOver goesOn
  | scan rests due => exact notOver (by rw [rests]; rfl)
  | hear scans | rest scans ended silent | stop scans ended told | breakOff scans =>
    exact notOver (by rw [scans]; rfl)

/-- A scanner that is over stays as it is for ever. -/
theorem over_leads (isOver : spawned.task.isOver = true) (run : machine.Leads spawned after) :
    after.task = spawned.task ∧ after.past = spawned.past := by
  induction run with
  | refl => exact ⟨rfl, rfl⟩
  | tail _ step same =>
    obtain ⟨event, allowed, rfl⟩ := step
    have next := over_of_change (by rw [same.1]; exact isOver) (change allowed)
    exact ⟨next.1.trans same.1, next.2.trans same.2⟩

/-! ## Scans go on -/

/-- A scan that was being made still is, or is over. -/
def Keeps (spawned : SpawnedScanner) (scan : ScanUnderway) : Prop :=
  (∃ later, spawned.task.scan? = some later ∧ later.Continues scan) ∨
    ∃ past ∈ spawned.past, past.scan.Continues scan

/-- The scans that are over stay over. -/
theorem past_of_change (change : spawned.Change after) : spawned.past <+: after.past := by
  cases change with
  | rest scans ended silent | stop scans ended told | breakOff scans =>
    exact List.prefix_append _ _
  | cut waits goesOn passed =>
    unfold cut
    split
    · exact List.prefix_append _ _
    · exact List.prefix_rfl
  | stay | align | tick | fail | halt | scan | hear | ask | drop | answer | advance =>
    exact List.prefix_rfl

/-- A scan that is being made goes on or comes to its end. -/
theorem keeps_of_scan (makes : spawned.task.scan? = some scan) (change : spawned.Change after) :
    after.Keeps scan := by
  have same (next : ScannerTask) (is : spawned.task = next) : next.scan? = some scan := by
    rw [← is]
    exact makes
  have ends (ending : ScanEnding) (isPast : after.past = (spawned.close scan ending).past) :
      after.Keeps scan := by
    refine .inr ⟨⟨scan, spawned.now, ending⟩, ?_, .refl scan⟩
    rw [isPast]
    exact List.mem_append_right _ List.mem_cons_self
  cases change with
  | stay | ask held | drop held | answer waits known | advance inTime =>
    exact .inl ⟨scan, makes, .refl scan⟩
  | align early | tick early silent starts | fail early =>
    rw [(ScannerTask.idle_of_early early).2] at makes
    contradiction
  | halt waits goesOn told =>
    rw [waits] at makes
    contradiction
  | scan rests due =>
    have none := same _ rests
    contradiction
  | @hear ticker current reply scans =>
    obtain rfl := Option.some.inj (same _ scans)
    exact .inl ⟨_, rfl, current.hear_continues reply⟩
  | rest scans ended silent | stop scans ended told | breakOff scans =>
    obtain rfl := Option.some.inj (same _ scans)
    exact ends _ rfl
  | cut waits goesOn passed =>
    refine ends .cutOff ?_
    unfold cut
    rw [makes]

/-- A scan is kept, whatever happens. -/
theorem Keeps.of_change (keeps : spawned.Keeps scan) (change : spawned.Change after) :
    after.Keeps scan := by
  rcases keeps with ⟨current, makes, continues⟩ | ⟨past, isPast, continues⟩
  · rcases keeps_of_scan makes change with ⟨later, goesOn, more⟩ | ⟨past, isPast, more⟩
    · exact .inl ⟨later, goesOn, more.trans continues⟩
    · exact .inr ⟨past, isPast, more.trans continues⟩
  · exact .inr ⟨past, (past_of_change change).subset isPast, continues⟩

/-- A scan that is being made goes on or comes to its end in every run. -/
theorem keeps_leads (makes : spawned.task.scan? = some scan) (run : machine.Leads spawned after) :
    after.Keeps scan := by
  induction run with
  | refl => exact .inl ⟨scan, makes, .refl scan⟩
  | tail _ step keeps =>
    obtain ⟨event, allowed, rfl⟩ := step
    exact keeps.of_change (change allowed)

/-! ## What a holder knows -/

/-- The scanner stopped by itself, and not after a time. -/
def StoppedBy (spawned : SpawnedScanner) (time : Moment) : Prop :=
  ∃ stopped ∈ spawned.stoppedAt, stopped ≤ time

/-- What a holder knows is so. -/
structure Sound (spawned : SpawnedScanner) : Prop where
  /-- The time of the end is noted when the scanner stops. -/
  stopped : (∃ time ∈ spawned.stoppedAt, time ≤ spawned.now) ∧ spawned.task.hasStopped = true ∨
    spawned.stoppedAt = none ∧ spawned.task.hasStopped = false
  /-- A holder who waits does not wait for too long. -/
  waits : ∀ asked grace, spawned.handle = .waiting asked grace →
    asked ≤ spawned.now ∧ spawned.now ≤ asked + grace.nanos
  /-- A holder who has an answer knows whether the scanner stopped in time. -/
  answered : ∀ asked grace clean, spawned.handle = .answered asked grace clean →
    spawned.task.isOver = true ∧ (clean = true ↔ spawned.StoppedBy (asked + grace.nanos))
  /-- What was said in a scan, and what is left to do in it, make up the whole scan. -/
  whole : ∀ scan, spawned.task.scan? = some scan → scan.IsWhole
  /-- A scan ended by itself unless it was cut off when the grace was over. -/
  ends : ∀ past ∈ spawned.past, past.EndedItself ∨ past.ending = .cutOff ∧
    ∃ asked grace, spawned.handle = .answered asked grace false ∧ past.endedAt = asked + grace.nanos

/-- What is known of a scanner that was spawned and did not run yet. -/
theorem new_sound (scanner : Scanner) (now : Moment) : (new scanner now).Sound where
  stopped := .inr ⟨rfl, rfl⟩
  waits asked grace waits := by contradiction
  answered asked grace clean answered := by contradiction
  whole scan makes := by contradiction
  ends past isPast := absurd isPast List.not_mem_nil

/-- A scanner that is not over has not stopped. -/
theorem Sound.not_stopped (sound : spawned.Sound) (goesOn : spawned.task.isOver = false) :
    spawned.stoppedAt = none := by
  rcases sound.stopped with ⟨-, stopped⟩ | ⟨notStopped, -⟩
  · have isOver := ScannerTask.isOver_of_hasStopped stopped
    exact absurd (goesOn.symm.trans isOver) Bool.false_ne_true
  · exact notStopped

/-- A scan that was over before a holder had an answer ended by itself. -/
theorem Sound.ended (sound : spawned.Sound)
    (noAnswer : ∀ asked grace clean, spawned.handle ≠ .answered asked grace clean) :
    ∀ past ∈ spawned.past, past.EndedItself := by
  intro past member
  rcases sound.ends past member with itself | ⟨-, asked, grace, answered, -⟩
  · exact itself
  · exact absurd answered (noAnswer asked grace false)

/-- Nobody has an answer before the scanner is over. -/
theorem Sound.no_answer (sound : spawned.Sound) (goesOn : spawned.task.isOver = false) :
    ∀ asked grace clean, spawned.handle ≠ .answered asked grace clean := by
  intro asked grace clean answered
  have isOver := (sound.answered asked grace clean answered).1
  exact Bool.false_ne_true (goesOn.symm.trans isOver)

/-- A scanner that is not over goes on. -/
theorem Sound.goOn (sound : spawned.Sound) (goesOn : spawned.task.isOver = false)
    {task : ScannerTask} {past : List PastScan} {stoppedAt : Option Moment}
    (stops : stoppedAt = some spawned.now ∧ task.hasStopped = true ∨
      stoppedAt = spawned.stoppedAt ∧ task.hasStopped = false)
    (whole : ∀ scan, task.scan? = some scan → scan.IsWhole)
    (ends : ∀ one ∈ past, one ∈ spawned.past ∨ one.EndedItself) :
    { spawned with task := task, past := past, stoppedAt := stoppedAt }.Sound := by
  have noAnswer := sound.no_answer goesOn
  refine ⟨?_, sound.waits, fun asked grace clean answered => ?_, whole, fun one member => ?_⟩
  · rcases stops with ⟨rfl, stopped⟩ | ⟨rfl, goesOnStill⟩
    · exact .inl ⟨⟨_, rfl, Nat.le_refl _⟩, stopped⟩
    · exact .inr ⟨sound.not_stopped goesOn, goesOnStill⟩
  · exact absurd answered (noAnswer asked grace clean)
  · rcases ends one member with before | itself
    · exact .inl (sound.ended noAnswer one before)
    · exact .inl itself

/-- A scan that was made ends by itself. -/
theorem Sound.close (sound : spawned.Sound) {ticker : Ticker}
    (scans : spawned.task = .running (.scanning ticker scan)) {ending : ScanEnding}
    (itself : PastScan.EndedItself ⟨scan, spawned.now, ending⟩) {task : ScannerTask}
    {stoppedAt : Option Moment}
    (stops : stoppedAt = some spawned.now ∧ task.hasStopped = true ∨
      stoppedAt = spawned.stoppedAt ∧ task.hasStopped = false)
    (idle : task.scan? = none) :
    { spawned.close scan ending with task := task, stoppedAt := stoppedAt }.Sound := by
  refine sound.goOn (by rw [scans]; rfl) stops ?_ fun one member => ?_
  · intro scan makes
    rw [idle] at makes
    contradiction
  · rcases List.mem_append.1 member with before | new
    · exact .inl before
    · rw [List.mem_singleton.1 new]
      exact .inr itself

/-- A scan that has nothing left to do has ended by itself. -/
theorem Sound.finished (sound : spawned.Sound) {ticker : Ticker}
    (scans : spawned.task = .running (.scanning ticker scan))
    {result : Scanner × Except IncompleteScan ScanReport} (ended : scan.left = .done result) :
    PastScan.EndedItself ⟨scan, spawned.now, .finished result⟩ := by
  have whole := sound.whole scan (by rw [scans]; rfl)
  exact .inr ⟨result, rfl, whole.runs ended⟩

/-- A holder who has no answer yet does something else. -/
theorem Sound.handle (sound : spawned.Sound)
    (noAnswer : ∀ asked grace clean, spawned.handle ≠ .answered asked grace clean)
    {handle : ScannerHandle}
    (waits : ∀ asked grace, handle = .waiting asked grace →
      asked ≤ spawned.now ∧ spawned.now ≤ asked + grace.nanos)
    (answered : ∀ asked grace clean, handle = .answered asked grace clean →
      spawned.task.isOver = true ∧ (clean = true ↔ spawned.StoppedBy (asked + grace.nanos))) :
    { spawned with handle := handle }.Sound :=
  ⟨sound.stopped, waits, answered, sound.whole,
    fun past member => .inl (sound.ended noAnswer past member)⟩

/-- What a holder knows when the scanner is over is so. -/
theorem Sound.answer (sound : spawned.Sound) (waits : spawned.handle = .waiting asked grace)
    (isOver : spawned.task.isOver = true) :
    { spawned with handle := .answered asked grace spawned.task.hasStopped }.Sound := by
  apply sound.handle
  · intro _ _ _ answered
    rw [waits] at answered
    contradiction
  · intro asked grace waits
    contradiction
  · intro since span clean answered
    obtain ⟨rfl, rfl, rfl⟩ := ScannerHandle.answered.inj answered
    refine ⟨isOver, ?_⟩
    rcases sound.stopped with ⟨⟨time, stopped, before⟩, hasStopped⟩ | ⟨notStopped, goesOn⟩
    · have inTime : time ≤ asked + grace.nanos :=
        Nat.le_trans before (sound.waits asked grace waits).2
      exact ⟨fun _ => ⟨time, stopped, inTime⟩, fun _ => hasStopped⟩
    · constructor
      · intro hasStopped
        exact absurd (goesOn.symm.trans hasStopped) Bool.false_ne_true
      · rintro ⟨time, stopped, -⟩
        rw [notStopped] at stopped
        contradiction

/-- What a holder knows who has cut the scanner off is so. -/
theorem Sound.cut (sound : spawned.Sound) (waits : spawned.handle = .waiting asked grace)
    (goesOn : spawned.task.isOver = false) (passed : asked + grace.nanos ≤ spawned.now) :
    { spawned.cut with handle := .answered asked grace false }.Sound := by
  have notStopped := sound.not_stopped goesOn
  -- the holder looks in time: the grace is not over before this moment
  have atEnd : spawned.now = asked + grace.nanos :=
    Nat.le_antisymm (sound.waits asked grace waits).2 passed
  obtain ⟨cutOff, -, stoppedAt, -⟩ := spawned.cut_eq
  rw [notStopped] at stoppedAt
  refine ⟨.inr ⟨stoppedAt, by rw [cutOff]; rfl⟩, ?_, ?_, ?_, fun past member => ?_⟩
  · intro asked grace waits
    contradiction
  · intro since span clean answered
    obtain ⟨rfl, rfl, rfl⟩ := ScannerHandle.answered.inj answered
    refine ⟨by rw [cutOff]; rfl, ?_⟩
    constructor
    · intro clean
      contradiction
    · rintro ⟨time, stopped, -⟩
      rw [stoppedAt] at stopped
      contradiction
  · intro scan makes
    rw [cutOff] at makes
    contradiction
  · have before := sound.ended (sound.no_answer goesOn)
    have cases : past ∈ spawned.past ∨ past.ending = .cutOff ∧ past.endedAt = spawned.now := by
      unfold SpawnedScanner.cut at member
      split at member
      · rcases List.mem_append.1 member with earlier | new
        · exact .inl earlier
        · rw [List.mem_singleton.1 new]
          exact .inr ⟨rfl, rfl⟩
      · exact .inl member
    rcases cases with earlier | ⟨wasCut, endedAt⟩
    · exact .inl (before past earlier)
    · exact .inr ⟨wasCut, asked, grace, rfl, endedAt.trans atEnd⟩

/-- Whatever happens, what a holder knows is so. -/
theorem Sound.of_change (sound : spawned.Sound) (change : spawned.Change after) : after.Sound := by
  cases change with
  | stay => exact sound
  | align early | tick early silent starts | fail early =>
    refine sound.goOn (ScannerTask.idle_of_early early).1 (.inr ⟨rfl, rfl⟩) ?_ fun _ => .inl
    intro scan makes
    contradiction
  | halt waits goesOn told =>
    refine sound.goOn goesOn (.inl ⟨rfl, rfl⟩) ?_ fun _ => .inl
    intro scan makes
    contradiction
  | scan rests due =>
    refine sound.goOn (by rw [rests]; rfl) (.inr ⟨rfl, rfl⟩) ?_ fun _ => .inl
    intro scan makes
    rw [← Option.some.inj makes]
    exact ScanUnderway.start_isWhole _ _ _ _
  | @hear ticker current reply scans =>
    have whole := sound.whole current (by rw [scans]; rfl)
    refine sound.goOn (by rw [scans]; rfl) (.inr ⟨rfl, rfl⟩) ?_ fun _ => .inl
    intro scan makes
    rw [← Option.some.inj makes]
    exact whole.hear reply
  | rest scans ended silent =>
    exact sound.close scans (sound.finished scans ended) (.inr ⟨rfl, rfl⟩) rfl
  | stop scans ended told =>
    exact sound.close scans (sound.finished scans ended) (.inl ⟨rfl, rfl⟩) rfl
  | breakOff scans => exact sound.close scans (.inl rfl) (.inr ⟨rfl, rfl⟩) rfl
  | ask held =>
    refine sound.handle (fun _ _ _ answered => absurd (held.symm.trans answered) (by simp)) ?_ ?_
    · intro asked grace waits
      obtain ⟨rfl, rfl⟩ := ScannerHandle.waiting.inj waits
      exact ⟨Nat.le_refl _, Nat.le_add_right _ _⟩
    · intro asked grace clean answered
      contradiction
  | drop held =>
    refine sound.handle (fun _ _ _ answered => absurd (held.symm.trans answered) (by simp)) ?_ ?_
    · intro asked grace waits
      contradiction
    · intro asked grace clean answered
      contradiction
  | answer waits isOver => exact sound.answer waits isOver
  | cut waits goesOn passed => exact sound.cut waits goesOn passed
  | @advance span inTime =>
    refine ⟨?_, fun asked grace waits => ?_, sound.answered, sound.whole, sound.ends⟩
    · rcases sound.stopped with ⟨⟨time, stopped, before⟩, hasStopped⟩ | notStopped
      · exact .inl ⟨⟨time, stopped, Nat.le_trans before (Nat.le_add_right _ _)⟩, hasStopped⟩
      · exact .inr notStopped
    · have isWaiting : spawned.handle = .waiting asked grace := waits
      have deadline : asked + grace.nanos ∈ spawned.patience := by
        unfold patience
        rw [isWaiting]
        rfl
      have since := (sound.waits asked grace isWaiting).1
      exact ⟨Nat.le_trans since (Nat.le_add_right _ _), inTime _ deadline⟩

/-- Whatever happened since a scanner was spawned, what its holder knows is so. -/
theorem new_leads_sound {scanner : Scanner} {now : Moment}
    (run : machine.Leads (new scanner now) after) : after.Sound := by
  induction run with
  | refl => exact new_sound scanner now
  | tail _ step sound =>
    obtain ⟨event, allowed, rfl⟩ := step
    exact sound.of_change (change allowed)

/-! ## After the request -/

/-- A scan begins only when the scanner waits for a tick, and one at a time. -/
theorem starts_of_change (change : spawned.Change after) :
    after.starts = spawned.starts ∨ spawned.task.isResting = true ∧
      after.task.isResting = false ∧ after.starts = spawned.starts ++ [spawned.now] := by
  unfold starts
  rcases spans_of_change change with same | ⟨scanner, ticker, rests, leaves, -, more⟩ | ⟨span, rfl⟩
  · rw [same]
    exact .inl rfl
  · refine .inr ⟨by rw [rests]; rfl, leaves, ?_⟩
    rw [more, List.map_append]
    rfl
  · unfold spans
    rw [List.map_append, List.map_append]
    cases spawned.task.scan? with
    | none => exact .inl rfl
    | some scan => exact .inl rfl

/-- A scanner that was asked to stop does not begin to wait for a tick. -/
theorem rests_of_change (told : spawned.signal.isRequested = true)
    (change : spawned.Change after) (rests : after.task.isResting = true) :
    spawned.task.isResting = true := by
  cases change with
  | stay | ask held | drop held | answer waits known | advance inTime => exact rests
  | tick early silent starts | rest scans ended silent =>
    exact absurd (silent.symm.trans told) Bool.false_ne_true
  | align | fail | halt | scan | hear | stop | breakOff => contradiction
  | cut waits goesOn passed =>
    rw [spawned.cut_eq.1] at rests
    contradiction

/-- The holder has asked the scanner to stop at a time, and left it a time of grace. -/
def Asked (spawned : SpawnedScanner) (asked : Moment) (grace : Duration) : Prop :=
  spawned.handle = .waiting asked grace ∨ ∃ clean, spawned.handle = .answered asked grace clean

/-- The scanner hears a holder who has asked. -/
theorem Asked.told (isAsked : spawned.Asked asked grace) : spawned.signal.isRequested = true := by
  unfold signal
  rcases isAsked with waits | ⟨clean, answered⟩
  · rw [waits]
    rfl
  · rw [answered]
    rfl

/-- A holder who has asked goes on to wait, or has an answer. -/
theorem Asked.of_change (isAsked : spawned.Asked asked grace) (change : spawned.Change after) :
    after.Asked asked grace := by
  have notHeld : spawned.handle ≠ .held := by
    intro held
    rcases isAsked with waits | ⟨clean, answered⟩
    · exact absurd (held.symm.trans waits) (by simp)
    · exact absurd (held.symm.trans answered) (by simp)
  have waiting {since : Moment} {span : Duration} (waits : spawned.handle = .waiting since span) :
      since = asked ∧ span = grace := by
    rcases isAsked with isWaiting | ⟨clean, answered⟩
    · exact ScannerHandle.waiting.inj (waits.symm.trans isWaiting)
    · exact absurd (waits.symm.trans answered) (by simp)
  cases change with
  | stay | align | tick | fail | halt | scan | hear | rest | stop | breakOff | advance =>
    exact isAsked
  | ask held | drop held => exact absurd held notHeld
  | answer waits isOver =>
    obtain ⟨rfl, rfl⟩ := waiting waits
    exact .inr ⟨_, rfl⟩
  | cut waits goesOn passed =>
    obtain ⟨rfl, rfl⟩ := waiting waits
    exact .inr ⟨_, rfl⟩

/-- At most one more scan has begun, and none unless the scanner waited for a tick. -/
def Slows (before after : SpawnedScanner) : Prop :=
  after.starts = before.starts ∧
      (after.task.isResting = true → before.task.isResting = true) ∨
    before.task.isResting = true ∧ after.task.isResting = false ∧
      ∃ start, after.starts = before.starts ++ [start]

/-- After one scan that began no other one does. -/
theorem Slows.of_change {before : SpawnedScanner} (slows : before.Slows spawned)
    (told : spawned.signal.isRequested = true) (change : spawned.Change after) :
    before.Slows after := by
  have keepsResting := rests_of_change told change
  rcases slows with ⟨same, waited⟩ | ⟨waited, notResting, start, one⟩
  -- a scanner that has begun its last scan never waits for a tick again
  · rcases starts_of_change change with sameStill | ⟨rests, leaves, more⟩
    · exact .inl ⟨sameStill.trans same, fun rests => waited (keepsResting rests)⟩
    · exact .inr ⟨waited rests, leaves, _, by rw [more, same]⟩
  · rcases starts_of_change change with sameStill | ⟨rests, -, -⟩
    · refine .inr ⟨waited, ?_, start, sameStill.trans one⟩
      cases resting : after.task.isResting with
      | false => rfl
      | true => exact absurd (notResting.symm.trans (keepsResting resting)) Bool.false_ne_true
    · exact absurd (notResting.symm.trans rests) Bool.false_ne_true

/-- In every run after the request, at most one more scan begins. -/
theorem slows_leads (isAsked : spawned.Asked asked grace) (run : machine.Leads spawned after) :
    spawned.Slows after ∧ after.Asked asked grace := by
  induction run with
  | refl => exact ⟨.inl ⟨rfl, id⟩, isAsked⟩
  | tail _ step slowed =>
    obtain ⟨event, allowed, rfl⟩ := step
    obtain ⟨slows, stillAsked⟩ := slowed
    exact ⟨slows.of_change stillAsked.told (change allowed), stillAsked.of_change (change allowed)⟩

/-- What a holder can rely on who has asked a scanner to stop, and left it a time of grace. -/
structure WindsDown (before : SpawnedScanner) (grace : Duration) (after : SpawnedScanner) :
    Prop where
  /-- At most one more scan begins, and none unless the scanner waited for a tick. -/
  begins : after.starts = before.starts ∨
    before.task.isResting = true ∧ ∃ start, after.starts = before.starts ++ [start]
  /-- A scan that was being made goes on or comes to its end. -/
  keeps : ∀ scan, before.task.scan? = some scan → after.Keeps scan
  /-- A scan comes to its end by itself, or is cut off just when the grace is over. -/
  ends : ∀ past ∈ after.past, past.EndedItself ∨
    past.ending = .cutOff ∧ past.endedAt = before.now + grace.nanos ∧
      after.handle = .answered before.now grace false
  /-- The holder has an answer when the grace is over. -/
  waits : after.handle = .waiting before.now grace ∧ after.now ≤ before.now + grace.nanos ∨
    ∃ clean, after.handle = .answered before.now grace clean
  /-- The holder learns that the scanner came to its end just when it did so in time. -/
  answered : ∀ clean, after.handle = .answered before.now grace clean →
    (clean = true ↔ after.StoppedBy (before.now + grace.nanos))
  /-- A holder who has learned this will see no scan any more. -/
  quiet : after.handle = .answered before.now grace true →
    ∀ later, machine.Leads after later →
      later.task = .running .stopped ∧ later.past = after.past

/-- Whenever a spawned scanner is asked to stop, it winds down. -/
theorem shutdown_winds_down {scanner : Scanner} {now : Moment} {before : SpawnedScanner}
    (run : machine.Leads (new scanner now) before) (held : before.handle = .held)
    (grace : Duration) (later : machine.Leads (before.ask grace) after) :
    before.WindsDown grace after := by
  have asking : before.ask grace = { before with handle := .waiting before.now grace } := by
    unfold ask
    rw [held]
  have request : machine.Step before (before.ask grace) := ⟨.ask grace, trivial, rfl⟩
  have sound : after.Sound := new_leads_sound ((run.tail request).trans later)
  rw [asking] at later
  obtain ⟨slows, isAsked⟩ := slows_leads (.inl rfl) later
  -- what the holder knows is an invariant from the spawning on; the rest is counted from the request
  refine ⟨?_, fun scan makes => ?_, ?_, ?_, ?_, ?_⟩
  · rcases slows with ⟨same, -⟩ | ⟨waited, -, one⟩
    · exact .inl same
    · exact .inr ⟨waited, one⟩
  · refine keeps_leads ?_ later
    exact makes
  · intro past member
    rcases sound.ends past member with itself | ⟨wasCut, asked, span, answered, endedAt⟩
    · exact .inl itself
    · rcases isAsked with waits | ⟨clean, known⟩
      · exact absurd (answered.symm.trans waits) (by simp)
      · obtain ⟨rfl, rfl, -⟩ := ScannerHandle.answered.inj (known.symm.trans answered)
        exact .inr ⟨wasCut, endedAt, answered⟩
  · rcases isAsked with waits | answered
    · exact .inl ⟨waits, (sound.waits _ _ waits).2⟩
    · exact .inr answered
  · exact fun clean answered => (sound.answered _ _ clean answered).2
  · intro answered last more
    obtain ⟨isOver, clean⟩ := sound.answered _ _ _ answered
    obtain ⟨task, past⟩ := over_leads isOver more
    refine ⟨?_, past⟩
    rcases sound.stopped with ⟨-, stopped⟩ | ⟨notStopped, -⟩
    · rw [task]
      exact ScannerTask.eq_of_hasStopped stopped
    · obtain ⟨time, isStopped, -⟩ := clean.1 rfl
      rw [notStopped] at isStopped
      contradiction

/-- A scanner that scans every minute. -/
def everyMinute : Scanner := .new ⟨.ofSeconds 60, .ofSeconds 5, false⟩ (.ofSeconds 5)

/-- The scanner has begun to wait for its first tick, which comes at once. -/
def firstTick : List Event := [.begin (.midnight .epoch)]

/-- After the request the tick is heard first, and the queries of the scan have no answers. -/
def lastScan : List Event :=
  [.wake (.midnight .epoch), .advance (.ofSeconds 1), .hear fun _ => none, .hear fun _ => none,
    .finish, .look]

/-- One scan begins after the request, and the holder learns that the scanner has stopped. -/
theorem shutdown_winds_down_lastScan :
    (machine.run (new everyMinute 7) firstTick).handle = .held ∧
      (machine.run (new everyMinute 7) firstTick).starts = [] ∧
      (machine.run (new everyMinute 7) firstTick).WindsDown (.ofSeconds 5)
        (machine.run ((machine.run (new everyMinute 7) firstTick).ask (.ofSeconds 5)) lastScan) ∧
      (machine.run ((machine.run (new everyMinute 7) firstTick).ask (.ofSeconds 5))
        lastScan).starts = [7] ∧
      (machine.run ((machine.run (new everyMinute 7) firstTick).ask (.ofSeconds 5))
        lastScan).handle = .answered 7 (.ofSeconds 5) true := by
  have first : machine.Leads (new everyMinute 7) (machine.run (new everyMinute 7) firstTick) :=
    machine.leads_run _ _ (by decide +kernel)
  have second := machine.leads_run
    ((machine.run (new everyMinute 7) firstTick).ask (.ofSeconds 5)) lastScan (by decide +kernel)
  have held : (machine.run (new everyMinute 7) firstTick).handle = .held := by decide +kernel
  exact ⟨held, by decide +kernel, shutdown_winds_down first held _ second, by decide +kernel,
    by decide +kernel⟩

end SpawnedScanner

end ReminderDispatch
