import ReminderDispatch.Program

/-!
# Dialogues of programs

The calls that a program makes, with the answers that it gets, when its surroundings answer each
call as they may. A dialogue can be cut off at any point; what was said until then is the beginning
of a dialogue that comes to its end.
-/

namespace ReminderDispatch

/-- A call, with its answer if there was one in time. -/
structure Answered where
  /-- The call. -/
  call : Call
  /-- The answer. -/
  reply : Option call.Reply

/-- The call succeeded, and the caller knows it. -/
def Answered.isOk (answered : Answered) : Bool :=
  match answered.reply with
  | some (.ok _) => true
  | some (.error _) | none => false

namespace Program

variable {σ α β : Type} {responds : (call : Call) → Option call.Reply → σ → σ → Prop}
  {state after : σ} {trace : List Answered} {value : α} {allowed : Call → Prop}

/-- The dialogue of a program with its surroundings: the calls and answers, the state of the
surroundings afterwards, and the value of the program unless it was cut off. -/
inductive Runs (responds : (call : Call) → Option call.Reply → σ → σ → Prop) :
    Program α → σ → List Answered → σ → Option α → Prop where
  /-- The program has come to its end. -/
  | done (value : α) (state : σ) : Runs responds (.done value) state [] state (some value)
  /-- The program is cut off. -/
  | cut (program : Program α) (state : σ) : Runs responds program state [] state none
  /-- A call is answered or not, and the program goes on. -/
  | ask {call : Call} {limit : Option Duration} {next : Option call.Reply → Program α}
      {reply : Option call.Reply} {state middle after : σ} {trace : List Answered}
      {out : Option α} (answered : responds call reply state middle)
      (goesOn : Runs responds (next reply) middle trace after out) :
      Runs responds (.ask call limit next) state (⟨call, reply⟩ :: trace) after out

/-- A program without calls says nothing. -/
theorem Runs.pure_cases {result : α}
    (runs : Runs responds (pure value : Program α) state trace after (some result)) :
    trace = [] ∧ after = state ∧ result = value := by
  cases runs
  exact ⟨rfl, rfl, rfl⟩

/-- A program that begins with a call says it, and goes on with the answer. -/
theorem Runs.ask_cases {call : Call} {limit : Option Duration}
    {next : Option call.Reply → Program α}
    (runs : Runs responds (.ask call limit next) state trace after (some value)) :
    ∃ reply middle more, trace = ⟨call, reply⟩ :: more ∧ responds call reply state middle ∧
      Runs responds (next reply) middle more after (some value) := by
  cases runs with
  | ask answered goesOn => exact ⟨_, _, _, rfl, answered, goesOn⟩

/-- The first call of a dialogue is answered from the state at the beginning. -/
theorem Runs.first_answered {program : Program α} {out : Option α} {answered : Answered}
    (runs : Runs responds program state (answered :: trace) after out) :
    ∃ middle, responds answered.call answered.reply state middle := by
  cases runs with
  | ask first goesOn => exact ⟨_, first⟩

/-- What a program says when every call is answered from a state, without choice. -/
def transcript (answer : (call : Call) → σ → Option call.Reply × σ) :
    Program α → σ → List Answered
  | .done _, _ => []
  | .ask call _ next, state =>
    let (reply, state) := answer call state
    ⟨call, reply⟩ :: (next reply).transcript answer state

/-- A program without calls comes to its value at once. -/
@[simp] theorem run_pure (answer : (call : Call) → σ → Option call.Reply × σ) (state : σ) :
    (pure value : Program α).run answer state = (value, state) := rfl

/-- A program without calls says nothing. -/
@[simp] theorem transcript_pure (answer : (call : Call) → σ → Option call.Reply × σ) (state : σ) :
    (pure value : Program α).transcript answer state = [] := rfl

/-- A program goes on with the answer to its first call. -/
@[simp] theorem run_ask (answer : (call : Call) → σ → Option call.Reply × σ) (call : Call)
    (limit : Option Duration) (next : Option call.Reply → Program α) (state : σ) :
    (Program.ask call limit next).run answer state =
      (next (answer call state).1).run answer (answer call state).2 := rfl

/-- A program says its first call, and goes on with the answer. -/
@[simp] theorem transcript_ask (answer : (call : Call) → σ → Option call.Reply × σ) (call : Call)
    (limit : Option Duration) (next : Option call.Reply → Program α) (state : σ) :
    (Program.ask call limit next).transcript answer state = ⟨call, (answer call state).1⟩ ::
      (next (answer call state).1).transcript answer (answer call state).2 := rfl

/-- The surroundings go from one state to another while they answer the calls of a dialogue. -/
def Along (responds : (call : Call) → Option call.Reply → σ → σ → Prop) :
    σ → List Answered → σ → Prop
  | state, [], after => after = state
  | state, answered :: more, after => ∃ middle,
    responds answered.call answered.reply state middle ∧ Along responds middle more after

/-- Two parts of a dialogue are answered one after the other. -/
theorem along_append {front back : List Answered} : Along responds state (front ++ back) after ↔
    ∃ middle, Along responds state front middle ∧ Along responds middle back after := by
  induction front generalizing state with
  | nil => simp [Along]
  | cons answered more ih =>
    simp only [List.cons_append, Along, ih]
    constructor
    · rintro ⟨next, responded, middle, first, second⟩
      exact ⟨middle, ⟨next, responded, first⟩, second⟩
    · rintro ⟨middle, ⟨next, responded, first⟩, second⟩
      exact ⟨next, responded, middle, first, second⟩

/-- The dialogue of a program is answered call by call. -/
theorem Runs.along {program : Program α} {out : Option α}
    (runs : Runs responds program state trace after out) : Along responds state trace after := by
  induction runs with
  | done value state => rfl
  | cut program state => rfl
  | ask answered goesOn ih => exact ⟨_, answered, ih⟩

/-- Two programs, one after the other, come to what the second one comes to after the first. -/
theorem run_bind {answer : (call : Call) → σ → Option call.Reply × σ} (program : Program α)
    (next : α → Program β) (state : σ) :
    (program >>= next).run answer state =
      (next (program.run answer state).1).run answer (program.run answer state).2 := by
  change (program.bind next).run answer state = _
  induction program generalizing state with
  | done value => rfl
  | ask call limit rest ih => exact ih _ _

/-- Two programs, one after the other, say what the first one says and then what the second one
says. -/
theorem transcript_bind {answer : (call : Call) → σ → Option call.Reply × σ} (program : Program α)
    (next : α → Program β) (state : σ) :
    (program >>= next).transcript answer state = program.transcript answer state ++
      (next (program.run answer state).1).transcript answer (program.run answer state).2 := by
  change (program.bind next).transcript answer state = _
  induction program generalizing state with
  | done value => rfl
  | ask call limit rest ih => exact congrArg _ (ih _ _)

/-- The transcript is a dialogue with surroundings that may answer in this way. -/
theorem runs_transcript {answer : (call : Call) → σ → Option call.Reply × σ}
    (answers : ∀ call state, responds call (answer call state).1 state (answer call state).2)
    (program : Program α) (state : σ) :
    Runs responds program state (program.transcript answer state) (program.run answer state).2
      (some (program.run answer state).1) := by
  induction program generalizing state with
  | done value => exact .done value state
  | ask call limit next ih => exact .ask (answers call state) (ih _ _)

/-- The surroundings answer without choice. -/
def AnsweredBy (answer : (call : Call) → σ → Option call.Reply × σ) (call : Call)
    (reply : Option call.Reply) (state after : σ) : Prop := answer call state = (reply, after)

/-- The transcript is the dialogue with surroundings that answer without choice. -/
theorem runs_answeredBy (answer : (call : Call) → σ → Option call.Reply × σ) (program : Program α)
    (state : σ) :
    Runs (AnsweredBy answer) program state (program.transcript answer state)
      (program.run answer state).2 (some (program.run answer state).1) :=
  runs_transcript (fun _ _ => rfl) program state

/-- A dialogue of a program that is answered without choice. -/
theorem runs_run {answer : (call : Call) → σ → Option call.Reply × σ}
    (answers : ∀ call state, responds call (answer call state).1 state (answer call state).2)
    (program : Program α) (state : σ) :
    ∃ trace, Runs responds program state trace (program.run answer state).2
      (some (program.run answer state).1) :=
  ⟨_, runs_transcript answers program state⟩

/-- The dialogue of two programs, one after the other, is that of the first and then that of the
second. -/
theorem Runs.bind_cases {program : Program α} {next : α → Program β} {result : β}
    (runs : Runs responds (program >>= next) state trace after (some result)) :
    ∃ value first middle second, trace = first ++ second ∧
      Runs responds program state first middle (some value) ∧
      Runs responds (next value) middle second after (some result) := by
  change Runs responds (program.bind next) state trace after (some result) at runs
  induction program generalizing state trace with
  | done value => exact ⟨value, [], state, trace, rfl, .done value state, runs⟩
  | ask call limit rest ih =>
    obtain ⟨reply, middle, more, rfl, answered, goesOn⟩ := runs.ask_cases
    obtain ⟨value, first, last, second, rfl, begins, ends⟩ := ih reply goesOn
    exact ⟨value, ⟨call, reply⟩ :: first, last, second, rfl, .ask answered begins, ends⟩

/-- The dialogue of one program and then that of a second one is a dialogue of both, one after the
other. -/
theorem Runs.bind {program : Program α} {next : α → Program β} {middle : σ}
    {more : List Answered} {out : Option β}
    (first : Runs responds program state trace middle (some value))
    (second : Runs responds (next value) middle more after out) :
    Runs responds (program >>= next) state (trace ++ more) after out := by
  change Runs responds (program.bind next) state (trace ++ more) after out
  induction program generalizing state trace with
  | done result =>
    obtain ⟨rfl, rfl, rfl⟩ := first.pure_cases
    exact second
  | ask call limit rest ih =>
    obtain ⟨reply, later, others, rfl, answered, goesOn⟩ := first.ask_cases
    exact .ask answered (ih reply goesOn)

/-- A dialogue that is cut off could have gone on to its end, if every call may stay without
answer and effect. -/
theorem Runs.extend {program : Program α} {out : Option α}
    (silent : ∀ call state, responds call none state state)
    (runs : Runs responds program state trace after out) :
    ∃ more last value, Runs responds program state (trace ++ more) last (some value) ∧
      (out.isSome → more = []) := by
  induction runs with
  | done value state => exact ⟨[], state, value, .done value state, fun _ => rfl⟩
  | cut program state =>
    induction program with
    | done value => exact ⟨[], state, value, .done value state, fun _ => rfl⟩
    | ask call limit next ih =>
      obtain ⟨more, last, value, goesOn, -⟩ := ih none
      exact ⟨⟨call, none⟩ :: more, last, value, .ask (silent call state) goesOn, by simp⟩
  | ask answered _ ih =>
    obtain ⟨more, last, value, goesOn, complete⟩ := ih
    exact ⟨more, last, value, .ask answered goesOn, complete⟩

/-! ## Allowed calls -/

/-- Whatever is answered, the program makes only calls that are allowed. -/
def Uses (allowed : Call → Prop) : Program α → Prop
  | .done _ => True
  | .ask call _ next => allowed call ∧ ∀ reply, (next reply).Uses allowed

/-- Whatever is answered, the program makes only calls that are allowed with their limits. -/
def Asks (allowed : Call → Option Duration → Prop) : Program α → Prop
  | .done _ => True
  | .ask call limit next => allowed call limit ∧ ∀ reply, (next reply).Asks allowed

/-- Two programs, one after the other, make the calls of both. -/
theorem Asks.bind {allowed : Call → Option Duration → Prop} {program : Program α}
    {next : α → Program β} (first : program.Asks allowed)
    (second : ∀ value, (next value).Asks allowed) : (program >>= next).Asks allowed := by
  change (program.bind next).Asks allowed
  induction program with
  | done value => exact second value
  | ask call limit rest ih => exact ⟨first.1, fun reply => ih reply (first.2 reply)⟩

/-- A program makes only calls that are allowed if they are allowed with any limits. -/
theorem Asks.uses {program : Program α} (asks : program.Asks fun call _ => allowed call) :
    program.Uses allowed := by
  induction program with
  | done value => trivial
  | ask call limit next ih => exact ⟨asks.1, fun reply => ih reply (asks.2 reply)⟩

/-- A program cannot tell surroundings apart that answer all of its calls alike. -/
theorem Uses.congr {answer other : (call : Call) → σ → Option call.Reply × σ} {program : Program α}
    (uses : program.Uses allowed)
    (alike : ∀ call state, allowed call → answer call state = other call state) (state : σ) :
    program.run answer state = program.run other state ∧
      program.transcript answer state = program.transcript other state := by
  induction program generalizing state with
  | done value => exact ⟨rfl, rfl⟩
  | ask call limit rest ih =>
    have same := alike call state uses.1
    obtain ⟨sameRun, sameTranscript⟩ := ih (answer call state).1 (uses.2 _) (answer call state).2
    rw [run_ask, run_ask, transcript_ask, transcript_ask]
    rw [same] at sameRun sameTranscript ⊢
    exact ⟨sameRun, congrArg _ sameTranscript⟩

/-- The calls of a dialogue are allowed if those of its program are. -/
theorem Runs.uses {program : Program α} {out : Option α} (uses : program.Uses allowed)
    (runs : Runs responds program state trace after out) :
    ∀ answered ∈ trace, allowed answered.call := by
  induction runs with
  | done value state => simp
  | cut program state => simp
  | @ask call limit next reply state middle after trace out answered goesOn ih =>
    intro other member
    rcases List.mem_cons.1 member with rfl | later
    · exact uses.1
    · exact ih (uses.2 reply) other later

end Program

end ReminderDispatch
