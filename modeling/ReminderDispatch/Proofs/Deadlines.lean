import ReminderDispatch.Proofs.Dialogue

/-!
# Programs and deadlines

How long programs take when collaborators answer their calls after a while or not at all. A call
without an answer is given up as soon as its limit has passed, and the program goes on without one;
an answer at the very end of the limit is in time. So a program of which all calls have limits comes
to its end whatever the collaborators do, after the time of these limits at the latest.
-/

namespace ReminderDispatch

variable {σ α : Type}

/-- Collaborators that take their time for a call, depending on the moment at which it is made and
on all that was done before. -/
structure Surroundings (σ : Type) where
  /-- How long it takes until a call is answered, if it is answered at all. -/
  delay : Call → Moment → σ → Option Duration
  /-- The answer to a call that is not given up, and the state after it. -/
  answer : (call : Call) → Moment → σ → call.Reply × σ
  /-- The state after a call that was given up when its limit had passed. -/
  giveUp : Call → Duration → Moment → σ → σ

/-- The limit of a call passes before the call is answered. -/
def isLate : (limit delay : Option Duration) → Bool
  | none, _ => false
  | some _, none => true
  | some limit, some delay => limit < delay

/-- What has come of a call for which a program has waited. -/
structure Awaited (σ : Type) (call : Call) where
  /-- The answer, unless the call was given up. -/
  reply : Option call.Reply
  /-- The moment at which the program goes on. -/
  ended : Moment
  /-- The state after the call. -/
  after : σ

/-- Wait for a call until it is answered or its limit has passed, if one of these ever happens. -/
def Surroundings.await (surroundings : Surroundings σ) (call : Call) (limit : Option Duration)
    (now : Moment) (state : σ) : Option (Awaited σ call) :=
  let delay := surroundings.delay call now state
  if isLate limit delay then
    limit.map fun limit =>
      ⟨none, now + limit.nanos, surroundings.giveUp call limit now state⟩
  else
    delay.map fun delay =>
      let (reply, after) := surroundings.answer call now state
      ⟨some reply, now + delay.nanos, after⟩

/-- A call that was made with a limit. -/
structure Wait where
  /-- The call and its answer, if there was one in time. -/
  said : Answered
  /-- The limit. -/
  limit : Option Duration
  /-- The time that an answer takes, if there is ever one. -/
  delay : Option Duration

/-- There is no answer before the limit passes. -/
def Wait.isLate (wait : Wait) : Bool := ReminderDispatch.isLate wait.limit wait.delay

/-- What has come of a program. -/
structure Finish (σ α : Type) where
  /-- The value of the program. -/
  value : α
  /-- The moment at which the program has come to its end. -/
  ended : Moment
  /-- The state of the surroundings afterwards. -/
  after : σ
  /-- The calls, in order. -/
  waits : List Wait

/-- The calls with their answers. -/
def Finish.said (finish : Finish σ α) : List Answered := finish.waits.map (·.said)

/-- What comes of a program that begins at a moment, unless it waits forever for a call. -/
def Program.finish (surroundings : Surroundings σ) : Program α → Moment → σ → Option (Finish σ α)
  | .done value, now, state => some ⟨value, now, state, []⟩
  | .ask call limit next, now, state => do
    let awaited ← surroundings.await call limit now state
    let rest ← (next awaited.reply).finish surroundings awaited.ended awaited.after
    let wait : Wait := ⟨⟨call, awaited.reply⟩, limit, surroundings.delay call now state⟩
    some { rest with waits := wait :: rest.waits }

variable {surroundings : Surroundings σ} {program : Program α} {now : Moment} {state : σ}
  {finish : Finish σ α}

/-- A call with a limit is over when this has passed, and it has an answer unless it is late. -/
theorem Surroundings.await_limited (surroundings : Surroundings σ) (call : Call) (limit : Duration)
    (now : Moment) (state : σ) :
    ∃ awaited, surroundings.await call (some limit) now state = some awaited ∧
      now ≤ awaited.ended ∧ awaited.ended ≤ now + limit.nanos ∧
      (awaited.reply = none ↔ isLate (some limit) (surroundings.delay call now state) = true) := by
  unfold await
  cases surroundings.delay call now state with
  | none => exact ⟨_, rfl, Nat.le_add_right _ _, Nat.le_refl _, by simp [isLate]⟩
  | some delay =>
    by_cases late : limit < delay
    · have isLate : isLate (some limit) (some delay) = true := decide_eq_true late
      refine ⟨⟨none, now + limit.nanos, surroundings.giveUp call limit now state⟩, ?_,
        Nat.le_add_right _ _, Nat.le_refl _, by simp [isLate]⟩
      exact if_pos isLate
    · have inTime : isLate (some limit) (some delay) = false := decide_eq_false late
      have atMost : delay.nanos ≤ limit.nanos := Nat.le_of_not_lt late
      refine ⟨⟨some (surroundings.answer call now state).1, now + delay.nanos,
        (surroundings.answer call now state).2⟩, ?_, Nat.le_add_right _ _,
        Nat.add_le_add_left atMost now, by simp [inTime]⟩
      exact if_neg (by simp [inTime])

/-- How long it takes, in nanoseconds, until the limits of calls have passed one after the other. -/
def allowance (limits : Call → Duration) : List Answered → Nat
  | [] => 0
  | answered :: more => (limits answered.call).nanos + allowance limits more

/-- Parts of a dialogue have the limits of both, one after the other. -/
theorem allowance_append (limits : Call → Duration) (front back : List Answered) :
    allowance limits (front ++ back) = allowance limits front + allowance limits back := by
  induction front with
  | nil => exact (Nat.zero_add _).symm
  | cons answered more ih =>
    rw [List.cons_append, allowance, allowance, ih, Nat.add_assoc]

/-- What a program does within limits: it takes no longer than they allow, and of its calls exactly
those that are late have no answer. -/
structure Finish.KeepsTo (finish : Finish σ α) (limits : Call → Duration) (now : Moment) :
    Prop where
  /-- Time does not go backwards. -/
  began : now ≤ finish.ended
  /-- The limits of all calls together are not exceeded. -/
  ended_le : finish.ended ≤ now + allowance limits finish.said
  /-- A call is late if it is not answered, and otherwise it is in time. -/
  late_iff : ∀ wait ∈ finish.waits, wait.isLate = true ↔ wait.said.reply = none

/-- A program comes to its end in any surroundings if all of its calls have limits, and it keeps to
them. -/
theorem Program.Asks.exists_finish {limits : Call → Duration}
    (limited : program.Asks fun call limit => limit = some (limits call))
    (surroundings : Surroundings σ) (now : Moment) (state : σ) :
    ∃ finish, program.finish surroundings now state = some finish ∧ finish.KeepsTo limits now := by
  induction program generalizing now state with
  | done value => exact ⟨_, rfl, Nat.le_refl now, Nat.le_refl now, by simp⟩
  | ask call limit next ih =>
    obtain ⟨rfl, limitedNext⟩ := limited
    obtain ⟨awaited, awaits, notBefore, notAfter, late⟩ :=
      surroundings.await_limited call (limits call) now state
    obtain ⟨rest, finishes, began, ended, lateRest⟩ :=
      ih awaited.reply (limitedNext _) awaited.ended awaited.after
    let wait : Wait :=
      ⟨⟨call, awaited.reply⟩, some (limits call), surroundings.delay call now state⟩
    refine ⟨{ rest with waits := wait :: rest.waits }, ?_, ?_, ?_, ?_⟩
    · rw [finish, awaits, Option.bind_eq_bind, Option.bind_some, finishes]
      rfl
    · exact Nat.le_trans notBefore began
    · show rest.ended ≤ now + ((limits call).nanos + allowance limits rest.said)
      rw [← Nat.add_assoc]
      exact Nat.le_trans ended (Nat.add_le_add_right notAfter _)
    · exact List.forall_mem_cons.2 ⟨late.symm, lateRest⟩

/-- Whatever surroundings do about a call, they do it in some time. -/
def Surroundings.Responds (surroundings : Surroundings σ) (call : Call) (reply : Option call.Reply)
    (before after : Moment × σ) : Prop :=
  ∃ limit, surroundings.await call limit before.1 before.2 = some ⟨reply, after.1, after.2⟩

/-- A program that has come to its end has had the dialogue that consists of its calls. -/
theorem Program.runs_of_finish (finishes : program.finish surroundings now state = some finish) :
    program.Runs surroundings.Responds (now, state) finish.said (finish.ended, finish.after)
      (some finish.value) := by
  induction program generalizing now state finish with
  | done value =>
    obtain rfl := Option.some.inj finishes
    exact .done value _
  | ask call limit next ih =>
    rw [Program.finish, Option.bind_eq_bind, Option.bind_eq_some_iff] at finishes
    obtain ⟨awaited, awaits, goesOn⟩ := finishes
    rw [Option.bind_eq_bind, Option.bind_eq_some_iff] at goesOn
    obtain ⟨rest, finishesNext, same⟩ := goesOn
    obtain rfl := Option.some.inj same
    have answered : surroundings.Responds call awaited.reply (now, state)
        (awaited.ended, awaited.after) := ⟨limit, awaits⟩
    exact .ask answered (ih awaited.reply finishesNext)

end ReminderDispatch
