import Mathlib.Data.List.Chain
import Mathlib.Order.Bounds.Basic
import ReminderDispatch.Proofs.Scan.Spawned

/-!
# The timetable of a scanner

A scanner that is never late keeps a timetable: the ticks are the multiples of the period since the
first scan, and every scan is made for the first tick after the beginning of the scan before it. It
begins at this tick, or at the end of the scan before it if that is later. So the ticks that pass
during one scan are the reason for no more than one scan, however long that scan took.

A ticker takes a tick that is heard a little late for one heard in time. This does no harm as long
as the period is longer than that.
-/

namespace ReminderDispatch

/-! ## Ticks -/

/-- A moment is a multiple of the period after the first one. -/
def IsTick (first : Moment) (period : Duration) (moment : Moment) : Prop :=
  ∃ number, moment = first + number * period.nanos

/-- The deadline is the first tick after a time. -/
def IsNextTick (first : Moment) (period : Duration) (time deadline : Moment) : Prop :=
  IsLeast {moment | time < moment ∧ IsTick first period moment} deadline

variable {first time deadline now : Nat} {period : Duration} {missed : Nat}

/-- A multiple that is greater than another one is not less than the one after that. -/
theorem multiple_succ_le {number other length : Nat}
    (less : first + number * length < first + other * length) :
    first + (number + 1) * length ≤ first + other * length := by
  have number_lt : number < other :=
    Nat.lt_of_mul_lt_mul_right (Nat.lt_of_add_lt_add_left less)
  exact Nat.add_le_add_left (Nat.mul_le_mul_right _ number_lt) _

/-- Of the ticks from one on, the one after the last that has come is the next one. -/
theorem IsTick.isNextTick (isTick : IsTick first period deadline)
    (come : deadline + missed * period.nanos ≤ time)
    (ahead : time < deadline + (missed + 1) * period.nanos) :
    IsNextTick first period time (deadline + (missed + 1) * period.nanos) := by
  obtain ⟨number, rfl⟩ := isTick
  have sum (count : Nat) : first + number * period.nanos + count * period.nanos =
      first + (number + count) * period.nanos := by
    rw [Nat.add_assoc, Nat.add_mul]
  rw [sum] at come ahead ⊢
  refine ⟨⟨ahead, _, rfl⟩, ?_⟩
  rintro moment ⟨later, other, rfl⟩
  exact multiple_succ_le (Nat.lt_of_le_of_lt come later)

/-- From a time that has come on, the next multiple of a length is found by a remainder. -/
theorem next_multiple {length : Nat} (positive : 0 < length) (due : deadline ≤ now) :
    ∃ missed, deadline + missed * length ≤ now ∧ now < deadline + (missed + 1) * length ∧
      now + length - (now - deadline) % length = deadline + (missed + 1) * length := by
  have split := Nat.div_add_mod' (now - deadline) length
  have within := Nat.mod_lt (now - deadline) positive
  refine ⟨(now - deadline) / length, ?_⟩
  rw [Nat.succ_mul]
  generalize (now - deadline) / length * length = dropped at split ⊢
  generalize (now - deadline) % length = passed at split within ⊢
  omega

/-- A ticker whose tick has come goes on with the next tick. -/
theorem Ticker.isNextTick_next {ticker : Ticker} (long : tolerance < ticker.period)
    (isTick : IsTick first ticker.period ticker.deadline) (due : ticker.deadline ≤ now) :
    IsNextTick first ticker.period now (ticker.next now).deadline := by
  have positive : 0 < ticker.period.nanos := Nat.zero_lt_of_lt long
  unfold next
  split
  · obtain ⟨missed, come, ahead, same⟩ := next_multiple positive due
    show IsNextTick first ticker.period now
      (now + ticker.period.nanos - (now - ticker.deadline) % ticker.period.nanos)
    rw [same]
    exact isTick.isNextTick come ahead
  · rename_i inTime
    have next : ticker.deadline + ticker.period.nanos =
        ticker.deadline + (0 + 1) * ticker.period.nanos := by
      rw [Nat.zero_add, Nat.one_mul]
    have come : ticker.deadline + 0 * ticker.period.nanos ≤ now := by
      rw [Nat.zero_mul]
      exact due
    have ahead : now < ticker.deadline + ticker.period.nanos :=
      Nat.lt_of_le_of_lt (Nat.le_of_not_lt inTime) (Nat.add_lt_add_left long _)
    show IsNextTick first ticker.period now (ticker.deadline + ticker.period.nanos)
    rw [next] at ahead ⊢
    exact isTick.isNextTick come ahead

/-! ## Timetables -/

/-- A scan is made for the first tick after the beginning of the one before it, and begins at this
tick or when the scan before it is over. -/
structure ScanSpan.Follows (first : Moment) (period : Duration) (before after : ScanSpan) :
    Prop where
  /-- The scan is made for the first tick after the beginning of the scan before it. -/
  deadline : IsNextTick first period before.begun after.deadline
  /-- The scan begins at the tick, or when the scan before it is over. -/
  begun : after.begun = max after.deadline before.endedAt

/-- The scans of a scanner that is never late. -/
structure Timely (first : Moment) (period : Duration) (spans : List ScanSpan) : Prop where
  /-- The first scan begins with the first tick. -/
  opens : ∀ span ∈ spans.head?, span.deadline = first ∧ span.begun = first
  /-- Every other scan follows the one before it. -/
  follows : spans.IsChain (ScanSpan.Follows first period)
  /-- No scan begins before its tick, or ends before it began. -/
  ordered : ∀ span ∈ spans, span.deadline ≤ span.begun ∧ span.begun ≤ span.endedAt

variable {spans : List ScanSpan} {span : ScanSpan}

/-- No scans were made. -/
theorem Timely.nil : Timely first period [] where
  opens span member := by contradiction
  follows := .nil
  ordered span member := absurd member List.not_mem_nil

/-- A scan is over before another one begins, which lasts for some time or none. -/
structure ScanSpan.Precedes (before after : ScanSpan) : Prop where
  /-- The scan is over before the other one begins. -/
  apart : before.endedAt ≤ after.begun
  /-- The other scan does not end before it began. -/
  ordered : after.begun ≤ after.endedAt

instance : Trans ScanSpan.Precedes ScanSpan.Precedes ScanSpan.Precedes :=
  ⟨fun first second =>
    ⟨Nat.le_trans first.apart (Nat.le_trans first.ordered second.apart), second.ordered⟩⟩

/-- The scans do not overlap. -/
theorem Timely.precedes (timely : Timely first period spans) :
    spans.Pairwise ScanSpan.Precedes := by
  -- to precede is transitive, so that neighbours are enough
  refine List.isChain_iff_pairwise.1 (List.isChain_iff_getElem.2 fun i within => ?_)
  have follows := timely.follows.getElem i within
  refine ⟨?_, (timely.ordered _ (List.getElem_mem within)).2⟩
  rw [follows.begun]
  exact Nat.le_max_right _ _

/-- A tick that passes during a scan is the reason for the next scan only. -/
theorem Timely.once (timely : Timely first period spans) {i j : Nat} {before after : ScanSpan}
    (isBefore : spans[i]? = some before) (isAfter : spans[j]? = some after) (later : i < j)
    (passed : after.deadline ≤ before.endedAt) : j = i + 1 := by
  obtain ⟨lower, rfl⟩ := List.getElem?_eq_some_iff.1 isBefore
  obtain ⟨upper, rfl⟩ := List.getElem?_eq_some_iff.1 isAfter
  by_contra distant
  -- the scan before the later one begins after the earlier one, and its next tick later still
  obtain ⟨between, rfl⟩ : ∃ between, j = between + 1 := ⟨j - 1, by omega⟩
  have apart := (List.pairwise_iff_getElem.1 timely.precedes i between lower (by omega)
    (by omega)).apart
  have next := (timely.follows.getElem between upper).deadline.1.1
  exact Nat.lt_irrefl _ (Nat.lt_of_le_of_lt apart (Nat.lt_of_lt_of_le next passed))

/-- Scans that follow each other from a tick on are no more than the ticks that are left. -/
theorem countP_follows_le (positive : 0 < period.nanos) (length number : Nat)
    (follows : spans.IsChain (ScanSpan.Follows first period))
    (ordered : ∀ span ∈ spans, span.deadline ≤ span.begun)
    (begins : ∀ span ∈ spans.head?, first + number * period.nanos ≤ span.deadline) :
    spans.countP (fun span => span.begun ≤ first + length) ≤
      length / period.nanos + 1 - number := by
  induction spans generalizing number with
  | nil => exact Nat.zero_le _
  | cons span more ih =>
    obtain ⟨next, chain⟩ := List.isChain_cons.1 follows
    have begun : first + number * period.nanos ≤ span.begun :=
      Nat.le_trans (begins span rfl) (ordered span List.mem_cons_self)
    have goesOn : ∀ other ∈ more.head?,
        first + (number + 1) * period.nanos ≤ other.deadline := by
      intro other isNext
      obtain ⟨⟨later, count, isTick⟩, -⟩ := (next other isNext).deadline
      rw [isTick] at later ⊢
      exact multiple_succ_le (Nat.lt_of_le_of_lt begun later)
    have rest := ih (number + 1) chain
      (fun other member => ordered other (List.mem_cons_of_mem _ member)) goesOn
    rw [List.countP_cons]
    split
    · rename_i counted
      have within : first + number * period.nanos ≤ first + length :=
        Nat.le_trans begun (of_decide_eq_true counted)
      have number_le : number ≤ length / period.nanos :=
        (Nat.le_div_iff_mul_le positive).2 (Nat.le_of_add_le_add_left within)
      omega
    · omega

/-- In a time that begins with the first scan, no more scans begin than there are ticks in it. -/
theorem Timely.few (timely : Timely first period spans) (positive : 0 < period.nanos)
    (length : Nat) :
    spans.countP (fun span => first ≤ span.begun ∧ span.begun ≤ first + length) ≤
      length / period.nanos + 1 := by
  have opens : ∀ span ∈ spans.head?, first + 0 * period.nanos ≤ span.deadline := by
    intro span isHead
    rw [(timely.opens span isHead).1, Nat.zero_mul]
    exact Nat.le_refl _
  have all := countP_follows_le positive length 0 timely.follows
    (fun span member => (timely.ordered span member).1) opens
  refine Nat.le_trans (List.countP_mono_left fun span _ within => ?_) all
  exact decide_eq_true (of_decide_eq_true within).2

/-- A scan is made for the next tick. -/
theorem Timely.append (timely : Timely first period spans) (due : deadline ≤ now)
    (opens : spans = [] → deadline = first ∧ now = first)
    (next : ∀ last ∈ spans.getLast?,
      IsNextTick first period last.begun deadline ∧ now = max deadline last.endedAt) :
    Timely first period (spans ++ [⟨deadline, now, now⟩]) := by
  refine ⟨fun span isHead => ?_, ?_, fun span member => ?_⟩
  · cases spans with
    | nil =>
      obtain rfl := Option.some.inj isHead
      exact opens rfl
    | cons head more => exact timely.opens span isHead
  · refine timely.follows.append (.singleton _) fun last isLast span isNext => ?_
    obtain rfl := Option.some.inj isNext
    exact ⟨(next last isLast).1, (next last isLast).2⟩
  · rcases List.mem_append.1 member with before | new
    · exact timely.ordered span before
    · rw [List.mem_singleton.1 new]
      exact ⟨due, Nat.le_refl _⟩

/-- The last scan lasts longer. -/
theorem Timely.prolong {begun ended later : Nat}
    (timely : Timely first period (spans ++ [⟨deadline, begun, ended⟩])) (longer : ended ≤ later) :
    Timely first period (spans ++ [⟨deadline, begun, later⟩]) := by
  obtain ⟨front, -, last⟩ := List.isChain_append.1 timely.follows
  refine ⟨fun span isHead => ?_, ?_, fun span member => ?_⟩
  · cases spans with
    | nil =>
      obtain rfl := Option.some.inj isHead
      exact timely.opens ⟨deadline, begun, ended⟩ rfl
    | cons head more => exact timely.opens span isHead
  · refine front.append (.singleton _) fun before isBefore span isNext => ?_
    obtain rfl := Option.some.inj isNext
    have follows := last before isBefore _ rfl
    exact ⟨follows.deadline, follows.begun⟩
  · rcases List.mem_append.1 member with before | new
    · exact timely.ordered span (List.mem_append_left _ before)
    · obtain ⟨due, ordered⟩ := timely.ordered _ (List.mem_append_right _ List.mem_cons_self)
      rw [List.mem_singleton.1 new]
      exact ⟨due, Nat.le_trans ordered longer⟩

/-! ## Scanners that are never late -/

/-- The time at which a scanner goes on by itself. -/
def ScannerTask.alarm : ScannerTask → Option Moment
  | .running loop => loop.alarm
  | .spawned _ | .cutOff => none

namespace SpawnedScanner

/-- Spawned scanners that are never late: no time passes while a wait is over. -/
def punctual : Machine SpawnedScanner Event where
  Allows spawned event := spawned.Allows event ∧
    ∀ alarm ∈ spawned.task.alarm, (spawned.perform event).now ≤ max spawned.now alarm
  perform := perform

instance (spawned : SpawnedScanner) (event : Event) : Decidable (punctual.Allows spawned event) :=
  inferInstanceAs (Decidable (spawned.Allows event ∧
    ∀ alarm ∈ spawned.task.alarm, (spawned.perform event).now ≤ max spawned.now alarm))

variable {spawned after : SpawnedScanner}

/-- At a time, and after some scans, a deadline is that of the first tick of all, which has come, or
of the next one after the beginning of the last scan. -/
def Awaits (first : Moment) (period : Duration) (now : Moment) (spans : List ScanSpan)
    (deadline : Moment) : Prop :=
  spans = [] ∧ deadline = now ∨
    ∃ last ∈ spans.getLast?, IsNextTick first period last.begun deadline ∧
      now ≤ max deadline last.endedAt

/-- At a time, and after some scans, a scanner waits for the right tick or will do so. -/
def Fits (first : Moment) (period : Duration) (now : Moment) (spans : List ScanSpan) :
    ScannerTask → Prop
  | .spawned scanner | .running (.aligning scanner _) =>
    scanner.settings.interval = period ∧ spans = []
  | .running (.resting _ ticker) =>
    ticker.period = period ∧ Awaits first period now spans ticker.deadline
  | .running (.scanning ticker scan) =>
    ticker.period = period ∧ IsNextTick first period scan.begun ticker.deadline
  | .running .stopped | .running .crashed | .cutOff => True

/-- The scanner has kept its timetable and goes on to do so. -/
structure InTime (first : Moment) (period : Duration) (spawned : SpawnedScanner) : Prop where
  /-- The scanner waits for the right tick or will do so. -/
  fits : Fits first period spawned.now spawned.spans spawned.task
  /-- The last scan was not made longer than until now. -/
  elapsed : ∀ last ∈ spawned.spans.getLast?, last.endedAt ≤ spawned.now
  /-- The scans were made in time. -/
  timely : Timely first period spawned.spans

variable {task : ScannerTask}

/-- A scanner that has yet to begin to wait for ticks has made no scan. -/
theorem Fits.early (fits : Fits first period now spans task) {scanner : Scanner}
    (early : task.early? = some scanner) : scanner.settings.interval = period ∧ spans = [] := by
  cases task with
  | spawned other =>
    obtain rfl := Option.some.inj early
    exact fits
  | cutOff => contradiction
  | running loop =>
    cases loop with
    | aligning other minute =>
      obtain rfl := Option.some.inj early
      exact fits
    | resting | scanning | stopped | crashed => contradiction

/-- A scanner that is over waits for no tick. -/
theorem fits_of_over (isOver : task.isOver = true) : Fits first period now spans task := by
  cases task with
  | spawned => contradiction
  | cutOff => exact trivial
  | running loop =>
    cases loop with
    | stopped => exact trivial
    | crashed => exact trivial
    | aligning | resting | scanning => contradiction

/-- A scanner that was spawned has made no scan. -/
theorem new_inTime (scanner : Scanner) (now first : Moment) :
    InTime first scanner.settings.interval (new scanner now) where
  fits := ⟨rfl, rfl⟩
  elapsed last isLast := by contradiction
  timely := .nil

/-- A scanner that begins no scan keeps its timetable if it goes on with the right tick. -/
theorem InTime.goOn (inTime : InTime first period spawned) (same : after.spans = spawned.spans)
    (now : after.now = spawned.now)
    (fits : Fits first period spawned.now spawned.spans after.task) :
    InTime first period after := by
  refine ⟨?_, ?_, ?_⟩
  · rw [same, now]
    exact fits
  · rw [same, now]
    exact inTime.elapsed
  · rw [same]
    exact inTime.timely

/-- A scanner that is over has kept its timetable. -/
theorem InTime.ended (inTime : InTime first period spawned) (change : spawned.Change after)
    (goesOn : spawned.task.isOver = false) (isOver : after.task.isOver = true)
    (now : after.now = spawned.now) : InTime first period after := by
  refine inTime.goOn ?_ now (fits_of_over isOver)
  rcases spans_of_change change with same | ⟨scanner, ticker, -, -, goesOnStill, -⟩ | ⟨span, rfl⟩
  · exact same
  · exact absurd (goesOnStill.symm.trans isOver) Bool.false_ne_true
  · exact absurd (goesOn.symm.trans isOver) Bool.false_ne_true

/-- A scanner that has heard a tick makes a scan for it. -/
theorem InTime.begun {ticker : Ticker} {scanner : Scanner} {wall : Instant}
    (idle : spawned.task.scan? = none)
    (next : ticker.period = period ∧ IsNextTick first period spawned.now ticker.deadline)
    (timely : Timely first period (spawned.spans ++ [⟨deadline, spawned.now, spawned.now⟩])) :
    InTime first period { spawned with
      task := .running (.scanning ticker (.start deadline spawned.now wall scanner)) } := by
  rw [spans_of_idle idle] at timely
  refine ⟨next, fun last isLast => ?_, timely⟩
  have isNew : last = ⟨deadline, spawned.now, spawned.now⟩ :=
    Option.some.inj (isLast.symm.trans List.getLast?_concat)
  rw [isNew]

/-- A scanner that has waited for the right tick makes a scan in time. -/
theorem InTime.scan (inTime : InTime first period spawned) (long : Ticker.tolerance < period)
    {scanner : Scanner} {ticker : Ticker} {wall : Instant}
    (rests : spawned.task = .running (.resting scanner ticker))
    (due : ticker.deadline ≤ spawned.now) :
    ∃ first, InTime first period { spawned with
      task := .running (.scanning (ticker.next spawned.now)
        (.start ticker.deadline spawned.now wall scanner)) } := by
  have fits := inTime.fits
  rw [rests] at fits
  obtain ⟨rfl, awaits⟩ := fits
  have idle : spawned.task.scan? = none := by rw [rests]; rfl
  have samePeriod : (ticker.next spawned.now).period = ticker.period := by
    unfold Ticker.next
    split <;> rfl
  rcases awaits with ⟨none, atOnce⟩ | ⟨last, isLast, next, prompt⟩
  · -- the first scan is the origin of the timetable
    have isTick : IsTick spawned.now ticker.period ticker.deadline :=
      ⟨0, by rw [atOnce, Nat.zero_mul, Nat.add_zero]⟩
    have timely : Timely spawned.now ticker.period
        (spawned.spans ++ [⟨ticker.deadline, spawned.now, spawned.now⟩]) := by
      rw [none]
      exact Timely.nil.append due (fun _ => ⟨atOnce, rfl⟩) fun _ isLast => by contradiction
    exact ⟨spawned.now, .begun idle ⟨samePeriod, Ticker.isNextTick_next long isTick due⟩ timely⟩
  · have isTick : IsTick first ticker.period ticker.deadline := next.1.2
    have elapsed : last.endedAt ≤ spawned.now := inTime.elapsed last isLast
    have atDeadline : spawned.now = max ticker.deadline last.endedAt :=
      Nat.le_antisymm prompt (Nat.max_le.2 ⟨due, elapsed⟩)
    have timely : Timely first ticker.period
        (spawned.spans ++ [⟨ticker.deadline, spawned.now, spawned.now⟩]) := by
      refine inTime.timely.append due (fun none => ?_) fun other isOther => ?_
      · rw [none] at isLast
        contradiction
      · obtain rfl := Option.some.inj (isOther.symm.trans isLast)
        exact ⟨next, atDeadline⟩
    exact ⟨first, .begun idle ⟨samePeriod, Ticker.isNextTick_next long isTick due⟩ timely⟩

/-- A scanner whose scan is over waits for the next tick after its beginning. -/
theorem InTime.rest (inTime : InTime first period spawned) {ticker : Ticker} {scan : ScanUnderway}
    (scans : spawned.task = .running (.scanning ticker scan)) (scanner : Scanner)
    (ending : ScanEnding) :
    InTime first period { spawned.close scan ending with
      task := .running (.resting scanner ticker) } := by
  have fits := inTime.fits
  rw [scans] at fits
  obtain ⟨samePeriod, next⟩ := fits
  have makes : spawned.task.scan? = some scan := by rw [scans]; rfl
  have same : { spawned.close scan ending with
      task := .running (.resting scanner ticker) }.spans = spawned.spans :=
    (spans_of_idle rfl).trans (spans_close makes ending)
  have isLast : spawned.spans.getLast? = some (scan.span spawned.now) := by
    rw [spans_of_scan makes]
    exact List.getLast?_concat
  have awaits : Awaits first period spawned.now spawned.spans ticker.deadline :=
    .inr ⟨scan.span spawned.now, isLast, next, Nat.le_max_right _ _⟩
  exact inTime.goOn same rfl ⟨samePeriod, awaits⟩

/-- While time passes up to the end of a wait, the scanner waits for the same tick. -/
theorem Fits.advance {later : Nat} (fits : Fits first period now spans task) (passes : now ≤ later)
    (prompt : ∀ alarm ∈ task.alarm, later ≤ max now alarm) :
    Fits first period later spans task := by
  cases task with
  | spawned => exact fits
  | cutOff => exact trivial
  | running loop =>
    cases loop with
    | aligning | scanning => exact fits
    | stopped => exact trivial
    | crashed => exact trivial
    | resting scanner ticker =>
      obtain ⟨samePeriod, awaits⟩ := fits
      have noLater : later ≤ max now ticker.deadline := prompt ticker.deadline rfl
      refine ⟨samePeriod, ?_⟩
      rcases awaits with ⟨none, atOnce⟩ | ⟨last, isLast, next, inTime⟩
      · rw [atOnce, Nat.max_self] at noLater
        exact .inl ⟨none, atOnce.trans (Nat.le_antisymm passes noLater)⟩
      · refine .inr ⟨last, isLast, next, Nat.le_trans noLater (Nat.max_le.2 ⟨inTime, ?_⟩)⟩
        exact Nat.le_max_left _ _

/-- A scanner keeps its timetable while time passes up to the end of its wait. -/
theorem InTime.advance (inTime : InTime first period spawned) {span : Duration}
    (prompt : ∀ alarm ∈ spawned.task.alarm,
      spawned.now + span.nanos ≤ max spawned.now alarm) :
    InTime first period { spawned with now := spawned.now + span.nanos } := by
  have passes : spawned.now ≤ spawned.now + span.nanos := Nat.le_add_right _ _
  have fits := inTime.fits.advance passes prompt
  have timely := inTime.timely
  cases makes : spawned.task.scan? with
  | none =>
    have same : { spawned with now := spawned.now + span.nanos }.spans = spawned.spans := by
      rw [spans_of_idle makes]
      exact spans_of_idle makes
    refine ⟨?_, ?_, ?_⟩
    · rw [same]
      exact fits
    · rw [same]
      exact fun last isLast => Nat.le_trans (inTime.elapsed last isLast) passes
    · rw [same]
      exact timely
  | some scan =>
    obtain ⟨ticker, scans⟩ := ScannerTask.eq_of_scan? makes
    have same : { spawned with now := spawned.now + span.nanos }.spans =
        spawned.past.map (·.span) ++ [scan.span (spawned.now + span.nanos)] := by
      unfold spans
      rw [makes]
      rfl
    refine ⟨?_, ?_, ?_⟩
    · show Fits first period _ _ spawned.task
      rw [scans] at fits ⊢
      exact fits
    · intro last isLast
      rw [same] at isLast
      rw [← Option.some.inj (List.getLast?_concat.symm.trans isLast)]
      exact Nat.le_refl _
    · rw [spans_of_scan makes] at timely
      rw [same]
      exact timely.prolong passes

/-- Whatever happens in time, the scanner keeps its timetable. -/
theorem InTime.of_change (inTime : InTime first period spawned) (long : Ticker.tolerance < period)
    (change : spawned.Change after)
    (prompt : ∀ alarm ∈ spawned.task.alarm, after.now ≤ max spawned.now alarm) :
    ∃ first, InTime first period after := by
  have fits := inTime.fits
  cases change with
  | stay | ask held | drop held | answer waits isOver =>
    exact ⟨first, inTime.fits, inTime.elapsed, inTime.timely⟩
  | align early =>
    have idle := (ScannerTask.idle_of_early early).2
    exact ⟨first, inTime.goOn (spans_idle idle rfl) rfl (fits.early early)⟩
  | tick early silent starts =>
    obtain ⟨samePeriod, atOnce⟩ := Ticker.starting?_eq_some starts
    obtain ⟨interval, none⟩ := fits.early early
    have idle := (ScannerTask.idle_of_early early).2
    exact ⟨first, inTime.goOn (spans_idle idle rfl) rfl
      ⟨samePeriod.trans interval, .inl ⟨none, atOnce⟩⟩⟩
  | fail early =>
    exact ⟨first, inTime.ended (.fail early) (ScannerTask.idle_of_early early).1 rfl rfl⟩
  | halt waits goesOn told => exact ⟨first, inTime.ended (.halt waits goesOn told) goesOn rfl rfl⟩
  | scan rests due => exact inTime.scan long rests due
  | @hear ticker current reply scans =>
    rw [scans] at fits
    obtain ⟨samePeriod, next⟩ := fits
    rw [← (current.hear_continues reply).begun] at next
    exact ⟨first, inTime.goOn (spans_hear scans reply) rfl ⟨samePeriod, next⟩⟩
  | rest scans ended silent => exact ⟨first, inTime.rest scans _ _⟩
  | stop scans ended told =>
    exact ⟨first, inTime.ended (.stop scans ended told) (by rw [scans]; rfl) rfl rfl⟩
  | breakOff scans =>
    exact ⟨first, inTime.ended (.breakOff scans) (by rw [scans]; rfl) rfl rfl⟩
  | cut waits goesOn passed =>
    obtain ⟨cutOff, now, -, -⟩ := spawned.cut_eq
    exact ⟨first, inTime.ended (.cut waits goesOn passed) goesOn (by rw [cutOff]; rfl) now⟩
  | advance => exact ⟨first, inTime.advance prompt⟩

/-- A scanner that was spawned keeps its timetable in every run in which it is never late. -/
theorem inTime_leads {scanner : Scanner} {now : Moment}
    (long : Ticker.tolerance < scanner.settings.interval)
    (run : punctual.Leads (new scanner now) after) :
    ∃ first, InTime first scanner.settings.interval after := by
  induction run with
  | refl => exact ⟨now, new_inTime scanner now now⟩
  | tail _ step kept =>
    obtain ⟨event, ⟨allowed, prompt⟩, rfl⟩ := step
    obtain ⟨first, inTime⟩ := kept
    exact inTime.of_change long (change allowed) prompt

/-- What can be relied on in a scanner that is never late, whose first scan began at a time. -/
structure KeepsTimetable (first : Moment) (period : Duration) (spawned : SpawnedScanner) :
    Prop where
  /-- The first scan is made for the tick at this time. -/
  opens : ∀ span ∈ spawned.spans.head?, span.deadline = first ∧ span.begun = first
  /-- Every other scan is made for the first tick after the beginning of the scan before it, and
  begins at this tick or when the scan before it is over. -/
  follows : spawned.spans.IsChain (ScanSpan.Follows first period)
  /-- The scans do not overlap. -/
  apart : spawned.spans.Pairwise fun before after => before.endedAt ≤ after.begun
  /-- Of the scans for ticks that pass during one scan there is only the next one. -/
  once : ∀ i j before after, spawned.spans[i]? = some before → spawned.spans[j]? = some after →
    i < j → after.deadline ≤ before.endedAt → j = i + 1
  /-- Within a length of time from the first scan on, no more scans begin than there are ticks. -/
  few : ∀ length : Duration,
    spawned.spans.countP (fun span => first ≤ span.begun ∧ span.begun ≤ first + length.nanos) ≤
      length.nanos / period.nanos + 1
  /-- A scanner that waits for a tick waits for the first one after the beginning of the last scan,
  and does not let it pass. -/
  waits : ∀ scanner ticker, spawned.task = .running (.resting scanner ticker) →
    ∃ last ∈ spawned.spans.getLast?, IsNextTick first period last.begun ticker.deadline ∧
      spawned.now ≤ max ticker.deadline last.endedAt

/-- Missed ticks are dropped: a scanner that is never late keeps its timetable. -/
theorem missed_ticks_dropped {scanner : Scanner} {now : Moment}
    (long : Ticker.tolerance < scanner.settings.interval)
    (run : punctual.Leads (new scanner now) after) {first : Moment}
    (begun : after.starts.head? = some first) :
    after.KeepsTimetable first scanner.settings.interval := by
  obtain ⟨origin, inTime⟩ := inTime_leads long run
  have timely := inTime.timely
  obtain ⟨head, isHead, isFirst⟩ : ∃ head, after.spans.head? = some head ∧ head.begun = first := by
    unfold starts at begun
    rw [List.head?_map] at begun
    exact Option.map_eq_some_iff.1 begun
  obtain rfl : origin = first := (timely.opens head isHead).2.symm.trans isFirst
  refine ⟨timely.opens, timely.follows, timely.precedes.imp fun precedes => precedes.apart, ?_, ?_,
    fun scanner ticker rests => ?_⟩
  · exact fun i j before after isBefore isAfter later passed =>
      timely.once isBefore isAfter later passed
  · exact fun length => timely.few (Nat.zero_lt_of_lt long) length.nanos
  · have fits := inTime.fits
    rw [rests] at fits
    rcases fits.2 with ⟨none, -⟩ | awaits
    · rw [none] at isHead
      contradiction
    · exact awaits

/-- A scanner that scans every ten seconds. -/
def everyTenSeconds : Scanner := .new ⟨.ofSeconds 10, .ofSeconds 5, false⟩ (.ofSeconds 5)

/-- A scan that takes some time, and whose queries have no answers. -/
def scanFor (length : Duration) : List Event :=
  [.wake (.midnight .epoch), .advance length, .hear fun _ => none, .hear fun _ => none, .finish]

/-- The first scan takes longer than two periods; the second one is late, and the third is not. -/
def overrun : List Event :=
  [.begin (.midnight .epoch)] ++ scanFor (.ofSeconds 25) ++ scanFor (.ofSeconds 1) ++
    [.advance (.ofSeconds 4)] ++ scanFor (.ofSeconds 2)

/-- The two ticks that pass during the first scan are the reason for one scan, and then the ticker
goes on with the multiples of its period. -/
theorem missed_ticks_dropped_overrun :
    Ticker.tolerance < everyTenSeconds.settings.interval ∧
      (punctual.run (new everyTenSeconds 0) overrun).starts.head? = some 0 ∧
      (punctual.run (new everyTenSeconds 0) overrun).KeepsTimetable 0 (.ofSeconds 10) ∧
      (punctual.run (new everyTenSeconds 0) overrun).spans =
        [⟨0, 0, 25000000000⟩, ⟨10000000000, 25000000000, 26000000000⟩,
          ⟨30000000000, 30000000000, 32000000000⟩] := by
  have long : Ticker.tolerance < everyTenSeconds.settings.interval := by decide +kernel
  have run := punctual.leads_run (new everyTenSeconds 0) overrun (by decide +kernel)
  have begun : (punctual.run (new everyTenSeconds 0) overrun).starts.head? = some 0 := by
    decide +kernel
  exact ⟨long, begun, missed_ticks_dropped long run begun, by decide +kernel⟩

end SpawnedScanner

end ReminderDispatch
