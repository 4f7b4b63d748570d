import Mathlib.Data.List.Induction
import Mathlib.Data.List.Nodup
import ReminderDispatch.Config
import ReminderDispatch.Proofs.Text.Trimming

/-!
# Settings and their variables

A grammar says which values of a variable name which number. A setting that is a number is the one
that its own variable names, if it has no more than its bits and is not below its least value, and
the default otherwise. No other variable has a say in it. So a process is always configured, with
limits and intervals that pass and with at least one worker and one attempt.
-/

namespace ReminderDispatch

namespace Text

variable {text : List Char} {n : Nat}

/-- The digits denote the number: there is one or more of them, zeros in front included. -/
inductive Denotes : List Char → Nat → Prop where
  /-- One digit. -/
  | digit {c : Char} (isDigit : c.isDigit) : Denotes [c] (c.toNat - '0'.toNat)
  /-- One digit more. -/
  | append {front : List Char} {n : Nat} {c : Char} (denotes : Denotes front n)
      (isDigit : c.isDigit) : Denotes (front ++ [c]) (10 * n + (c.toNat - '0'.toNat))

/-- What denotes a number are digits, and at least one. -/
theorem Denotes.digits (denotes : Denotes text n) : text ≠ [] ∧ ∀ c ∈ text, c.isDigit := by
  induction denotes with
  | digit isDigit => simpa using isDigit
  | append denotes isDigit ih =>
    obtain ⟨-, all⟩ := ih
    refine ⟨by simp, fun c member => ?_⟩
    rcases List.mem_append.1 member with earlier | last
    · exact all c earlier
    · rwa [List.mem_singleton.1 last]

/-- Digits denote their value. -/
theorem Denotes.valueOf_eq (denotes : Denotes text n) : valueOf text = n := by
  induction denotes with
  | digit isDigit => simp [valueOf, Nat.ofDigitChars_cons]
  | @append front n c denotes isDigit ih =>
    unfold valueOf at ih ⊢
    rw [Nat.ofDigitChars_append, ih, Nat.ofDigitChars_cons, Nat.ofDigitChars_nil]

/-- Some digits denote their value. -/
theorem denotes_valueOf (notEmpty : text ≠ []) (all : ∀ c ∈ text, c.isDigit) :
    Denotes text (valueOf text) := by
  induction text using List.reverseRecOn with
  | nil => exact absurd rfl notEmpty
  | append_singleton front c ih =>
    have isDigit : c.isDigit := all c (by simp)
    have value : valueOf (front ++ [c]) = 10 * valueOf front + (c.toNat - '0'.toNat) := by
      unfold valueOf
      rw [Nat.ofDigitChars_append, Nat.ofDigitChars_cons, Nat.ofDigitChars_nil]
    by_cases first : front = []
    · have single := Denotes.digit isDigit
      rw [value, first]
      simpa [valueOf] using single
    · rw [value]
      exact .append (ih first fun d member => all d (by simp [member])) isDigit

/-- What is read as a number are the digits that denote it. -/
theorem readNat?_eq_some_iff : readNat? text = some n ↔ Denotes text n := by
  unfold readNat?
  constructor
  · intro read
    split at read
    · rename_i numeral
      obtain ⟨notEmpty, all⟩ := Bool.and_eq_true_iff.1 numeral
      rw [← Option.some.inj read]
      exact denotes_valueOf (by simpa using notEmpty) (List.all_eq_true.1 all)
    · cases read
  · intro denotes
    obtain ⟨notEmpty, all⟩ := denotes.digits
    rw [if_pos, denotes.valueOf_eq]
    simpa [notEmpty] using all

end Text

namespace Config

/-! ## Settings -/

/-- The settings that are numbers. -/
inductive NumberSetting where
  /-- The seconds from one scan to the next. -/
  | scanInterval
  /-- The seconds within which a call must be answered. -/
  | ioTimeout
  /-- The number of workers. -/
  | workerCount
  /-- The number of attempts for a task. -/
  | taskMaxAttempts
  /-- The seconds after the first attempt. -/
  | retryBaseDelay
  /-- The seconds for which a scan may go on. -/
  | shutdownGrace

namespace NumberSetting

/-- The variable of the setting. -/
def key : NumberSetting → String
  | scanInterval => "SCAN_INTERVAL_SECS"
  | ioTimeout => "IO_TIMEOUT_SECS"
  | workerCount => "WORKER_COUNT"
  | taskMaxAttempts => "TASK_MAX_ATTEMPTS"
  | retryBaseDelay => "RETRY_BASE_DELAY_SECS"
  | shutdownGrace => "SHUTDOWN_GRACE_SECS"

/-- The bits of the numbers that the setting can be: attempts are counted in half a word. -/
def bits : NumberSetting → Nat
  | taskMaxAttempts => 32
  | scanInterval | ioTimeout | workerCount | retryBaseDelay | shutdownGrace => 64

/-- The least number that the setting can be: neither a retry nor a shutdown need wait. -/
def least : NumberSetting → Nat
  | scanInterval | ioTimeout | workerCount | taskMaxAttempts => 1
  | retryBaseDelay | shutdownGrace => 0

/-- The default of the setting. -/
def fallback : NumberSetting → Nat
  | scanInterval => 60
  | ioTimeout => 5
  | workerCount => 2
  | taskMaxAttempts => 5
  | retryBaseDelay => 2
  | shutdownGrace => 10

/-- The setting is a number. -/
def Is (config : Config) : NumberSetting → Nat → Prop
  | scanInterval, n => config.scanInterval = .ofSeconds n
  | ioTimeout, n => config.ioTimeout = .ofSeconds n
  | workerCount, n => config.workerCount = n
  | taskMaxAttempts, n => config.taskMaxAttempts = n
  | retryBaseDelay, n => config.retryBaseDelay = .ofSeconds n
  | shutdownGrace, n => config.shutdownGrace = .ofSeconds n

end NumberSetting

/-- The settings of the process. -/
inductive Setting where
  /-- The address of the stores. -/
  | databaseUrl
  /-- The address of the broker. -/
  | brokerUrl
  /-- A number. -/
  | number (setting : NumberSetting)

namespace Setting

/-- The variable of the setting. -/
def key : Setting → String
  | databaseUrl => "DATABASE_URL"
  | brokerUrl => "BROKER_URL"
  | number setting => setting.key

/-- The setting is the same in two configurations. -/
def Agrees (one other : Config) : Setting → Prop
  | databaseUrl => one.databaseUrl = other.databaseUrl
  | brokerUrl => one.brokerUrl = other.brokerUrl
  | number .scanInterval => one.scanInterval = other.scanInterval
  | number .ioTimeout => one.ioTimeout = other.ioTimeout
  | number .workerCount => one.workerCount = other.workerCount
  | number .taskMaxAttempts => one.taskMaxAttempts = other.taskMaxAttempts
  | number .retryBaseDelay => one.retryBaseDelay = other.retryBaseDelay
  | number .shutdownGrace => one.shutdownGrace = other.shutdownGrace

/-- All settings. -/
def all : List Setting := [databaseUrl, brokerUrl, number .scanInterval, number .ioTimeout,
  number .workerCount, number .taskMaxAttempts, number .retryBaseDelay, number .shutdownGrace]

/-- There are no other settings. -/
theorem mem_all (setting : Setting) : setting ∈ all := by
  rcases setting with _ | _ | setting
  · simp [all]
  · simp [all]
  · cases setting <;> simp [all]

/-- Every setting has a variable of its own. -/
theorem eq_of_key_eq {setting other : Setting} (same : setting.key = other.key) :
    setting = other := by
  have nodup : (all.map key).Nodup := by decide
  exact List.inj_on_of_nodup_map nodup setting.mem_all other.mem_all same

end Setting

open Text

variable {text : String} {n bits least fallback : Nat} {value changed : String → Option String}

/-! ## Numbers -/

/-- The text names the number: digits that denote it, after a plus sign if there is one, with blanks
around. -/
def NamesNumber (text : String) (n : Nat) : Prop :=
  ∃ before sign digits after, text.toList = before ++ (sign ++ digits) ++ after ∧
    (∀ c ∈ before, isBlank c) ∧ (∀ c ∈ after, isBlank c) ∧ (sign = [] ∨ sign = ['+']) ∧
    Denotes digits n

/-- What is read of a trimmed text is what its digits denote, after a plus sign if there is one. -/
theorem readNumber?_eq {sign digits : List Char} (optional : sign = [] ∨ sign = ['+'])
    (notEmpty : digits ≠ []) (all : ∀ c ∈ digits, c.isDigit)
    (trimmed : trimChars text.toList = sign ++ digits) : readNumber? text = readNat? digits := by
  unfold readNumber?
  rw [trimmed]
  rcases optional with rfl | rfl
  · rw [List.nil_append]
    -- A digit is no plus sign, so the digits are read as they stand.
    split
    · next rest signed => exact absurd (all '+' (by simp)) (by decide)
    · rfl
  · rfl

/-- The number of a text is the one that it names. -/
theorem readNumber?_eq_some_iff : readNumber? text = some n ↔ NamesNumber text n := by
  constructor
  · intro read
    obtain ⟨before, after, split, blankBefore, blankAfter⟩ := exists_trimChars text.toList
    unfold readNumber? at read
    split at read
    · next rest trimmed =>
      rw [trimmed] at split
      exact ⟨before, ['+'], rest, after, split, blankBefore, blankAfter, .inr rfl,
        readNat?_eq_some_iff.1 read⟩
    · exact ⟨before, [], _, after, split, blankBefore, blankAfter, .inl rfl,
        readNat?_eq_some_iff.1 read⟩
  · rintro ⟨before, sign, digits, after, split, blankBefore, blankAfter, optional, denotes⟩
    obtain ⟨notEmpty, all⟩ := denotes.digits
    have starts : BeginsPlain (sign ++ digits) := by
      obtain ⟨c, more, rfl⟩ := List.exists_cons_of_ne_nil notEmpty
      rcases optional with rfl | rfl
      · exact ⟨c, more, rfl, isBlank_of_isDigit (all c List.mem_cons_self)⟩
      · exact ⟨'+', c :: more, rfl, by decide⟩
    have ends : BeginsPlain (sign ++ digits).reverse := by
      obtain ⟨c, more, backwards⟩ :=
        List.exists_cons_of_ne_nil (List.reverse_eq_nil_iff.not.2 notEmpty)
      have isLast : c ∈ digits := List.mem_reverse.1 (backwards ▸ List.mem_cons_self)
      rw [List.reverse_append, backwards]
      exact ⟨c, more ++ sign.reverse, rfl, isBlank_of_isDigit (all c isLast)⟩
    have trimmed : trimChars text.toList = sign ++ digits := by
      rw [split]
      exact trimChars_surrounded blankBefore blankAfter starts ends
    rw [readNumber?_eq optional notEmpty all trimmed]
    exact readNat?_eq_some_iff.2 denotes

/-- The value of a variable gives a number that has no more than so many bits and is not below the
least one. -/
def Gives (bits least : Nat) (value : Option String) (n : Nat) : Prop :=
  ∃ text, value = some text ∧ NamesNumber text n ∧ n < twoTo bits ∧ least ≤ n

/-- A setting is the number that the value of its variable gives. -/
theorem numberOr_of_gives {value : Option String} (gives : Gives bits least value n) :
    numberOr bits least fallback value = n := by
  obtain ⟨text, rfl, names, fits, enough⟩ := gives
  unfold numberOr
  dsimp only
  rw [readNumber?_eq_some_iff.2 names]
  exact if_pos ⟨fits, enough⟩

/-- A setting for which the value of its variable gives no number is the default. -/
theorem numberOr_of_none {value : Option String} (none : ∀ n, ¬ Gives bits least value n) :
    numberOr bits least fallback value = fallback := by
  cases value with
  | none => rfl
  | some text =>
    unfold numberOr
    dsimp only
    cases read : readNumber? text with
    | none => rfl
    | some n =>
      have names : NamesNumber text n := readNumber?_eq_some_iff.1 read
      exact if_neg fun ⟨fits, enough⟩ => none n ⟨text, rfl, names, fits, enough⟩

/-- A setting whose default is not below its least value is never below it. -/
theorem least_le_numberOr (default : least ≤ fallback) (value : Option String) :
    least ≤ numberOr bits least fallback value := by
  by_cases given : ∃ n, Gives bits least value n
  · obtain ⟨n, gives⟩ := given
    obtain ⟨text, -, -, -, enough⟩ := id gives
    rw [numberOr_of_gives gives]
    exact enough
  · rw [numberOr_of_none (not_exists.1 given)]
    exact default

/-! ## Settings of the process -/

/-- A setting that is a number is read from its own variable. -/
theorem is_numberOr (value : String → Option String) (setting : NumberSetting) :
    setting.Is (ofVariables value)
      (numberOr setting.bits setting.least setting.fallback (value setting.key)) := by
  cases setting <;> rfl

/-- A setting does not change as long as its variable does not. -/
theorem agrees_of_key (setting : Setting) (same : changed setting.key = value setting.key) :
    setting.Agrees (ofVariables changed) (ofVariables value) := by
  rcases setting with _ | _ | setting
  · exact congrArg (·.getD default.databaseUrl) same
  · exact congrArg (·.getD default.brokerUrl) same
  · cases setting with
    | scanInterval => exact congrArg (secondsOr 1 default.scanInterval) same
    | ioTimeout => exact congrArg (secondsOr 1 default.ioTimeout) same
    | workerCount => exact congrArg (numberOr 64 1 default.workerCount) same
    | taskMaxAttempts => exact congrArg (numberOr 32 1 default.taskMaxAttempts) same
    | retryBaseDelay => exact congrArg (secondsOr 0 default.retryBaseDelay) same
    | shutdownGrace => exact congrArg (secondsOr 0 default.shutdownGrace) same

/-- Setting by setting, a process is configured by its variables.

A setting that is a number is the one that its own variable names, with a plus sign, zeros in front
and blanks around if any, provided that it has no more than the bits of the setting and is not below
its least value; otherwise it is the default. Every setting has a variable of its own, and stays as
it is when another variable changes. So scans are never without a pause, calls never without time,
there is a worker, and a task has an attempt, as many as its policy allows. -/
theorem settings_fieldwise :
    (∀ (value : String → Option String) (setting : NumberSetting), ∃ n,
      setting.Is (ofVariables value) n ∧
      (∀ m, Gives setting.bits setting.least (value setting.key) m → n = m) ∧
      ((∀ m, ¬ Gives setting.bits setting.least (value setting.key) m) → n = setting.fallback)) ∧
    (∀ setting other : Setting, setting.key = other.key → setting = other) ∧
    (∀ (value changed : String → Option String) (name : String),
      (∀ key, key ≠ name → changed key = value key) → ∀ setting : Setting, setting.key ≠ name →
        setting.Agrees (ofVariables changed) (ofVariables value)) ∧
    ∀ value : String → Option String,
      .ofSeconds 1 ≤ (ofVariables value).scanInterval ∧
      .ofSeconds 1 ≤ (ofVariables value).ioTimeout ∧ 1 ≤ (ofVariables value).workerCount ∧
      1 ≤ (ofVariables value).taskMaxAttempts ∧
      (ofVariables value).retryPolicy.maxAttempts = (ofVariables value).taskMaxAttempts := by
  refine ⟨?_, fun setting other => Setting.eq_of_key_eq, ?_, ?_⟩
  · intro value setting
    exact ⟨_, is_numberOr value setting, fun m => numberOr_of_gives, numberOr_of_none⟩
  · intro value changed name others setting different
    exact agrees_of_key setting (others _ different)
  · intro value
    have atLeast : ∀ {bits fallback : Nat} (name : String), 1 ≤ fallback →
        1 ≤ numberOr bits 1 fallback (value name) :=
      fun name default => least_le_numberOr default (value name)
    have seconds : ∀ {n : Nat}, 1 ≤ n → Duration.ofSeconds 1 ≤ .ofSeconds n :=
      fun enough => Nat.mul_le_mul_right 1000000000 enough
    have attempts : 1 ≤ (ofVariables value).taskMaxAttempts :=
      atLeast "TASK_MAX_ATTEMPTS" (by decide)
    exact ⟨seconds (atLeast "SCAN_INTERVAL_SECS" (by decide)),
      seconds (atLeast "IO_TIMEOUT_SECS" (by decide)), atLeast "WORKER_COUNT" (by decide),
      attempts, Nat.max_eq_left attempts⟩

/-- Variables with values of which only the first one gives a number: the second one has a minus
sign, and the third one is one more than the greatest number of attempts. -/
def oddVariables (name : String) : Option String :=
  if name = "SCAN_INTERVAL_SECS" then some "\u2003+0030\n"
  else if name = "WORKER_COUNT" then some "-0"
  else if name = "TASK_MAX_ATTEMPTS" then some "4294967296"
  else none

/-- The interval is read, the number of workers and of attempts are the defaults, and all stay so
when calls are given more time. -/
theorem settings_fieldwise_odd :
    (ofVariables oddVariables).scanInterval = .ofSeconds 30 ∧
      (ofVariables oddVariables).workerCount = 2 ∧
      (ofVariables oddVariables).taskMaxAttempts = 5 ∧
      (ofVariables fun name =>
        if name = "IO_TIMEOUT_SECS" then some "9" else oddVariables name).scanInterval =
          .ofSeconds 30 := by
  obtain ⟨fieldwise, -, apart, -⟩ := settings_fieldwise
  have interval : (ofVariables oddVariables).scanInterval = .ofSeconds 30 := by
    obtain ⟨n, isInterval, given, -⟩ := fieldwise oddVariables .scanInterval
    have names : NamesNumber "\u2003+0030\n" 30 := readNumber?_eq_some_iff.1 (by decide)
    obtain rfl := given 30 ⟨_, rfl, names, by decide, by decide⟩
    exact isInterval
  have workers : (ofVariables oddVariables).workerCount = 2 := by
    obtain ⟨n, isCount, -, default⟩ := fieldwise oddVariables .workerCount
    have none : ∀ m, ¬ Gives 64 1 (oddVariables "WORKER_COUNT") m := by
      rintro m ⟨text, isValue, names, -, -⟩
      obtain rfl := Option.some.inj isValue
      have unread : readNumber? "-0" = none := by decide
      rw [readNumber?_eq_some_iff.2 names] at unread
      cases unread
    exact isCount.trans (default none)
  have attempts : (ofVariables oddVariables).taskMaxAttempts = 5 := by
    obtain ⟨n, isCount, -, default⟩ := fieldwise oddVariables .taskMaxAttempts
    have none : ∀ m, ¬ Gives 32 1 (oddVariables "TASK_MAX_ATTEMPTS") m := by
      rintro m ⟨text, isValue, names, fits, -⟩
      obtain rfl := Option.some.inj isValue
      have read : readNumber? "4294967296" = some 4294967296 := by decide
      rw [readNumber?_eq_some_iff.2 names] at read
      rw [Option.some.inj read] at fits
      exact absurd fits (by decide)
    exact isCount.trans (default none)
  refine ⟨interval, workers, attempts, ?_⟩
  have kept := apart oddVariables
    (fun name => if name = "IO_TIMEOUT_SECS" then some "9" else oddVariables name)
    "IO_TIMEOUT_SECS" (fun key other => if_neg other) (.number .scanInterval) (by decide)
  exact kept.trans interval

end Config

end ReminderDispatch
