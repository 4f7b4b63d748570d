import Mathlib.Data.String.Basic
import ReminderDispatch.Proofs.Pipeline.Routing

/-!
# Dispatchers that are put together

Handlers are registered and task types expected by any calls in any order. The first handler of a
type stays, and a second one is refused under this type. Of the expectations the last one counts:
there is a dispatcher when all of its types have handlers, and otherwise it is told which have none.
A dispatcher gives every task to the handler of its type, so that no task of an expected type is
without a handler when it comes.
-/

namespace ReminderDispatch

variable {κ : Type} [WorkKind κ]

/-! ## Registries -/

namespace Registry

variable {registry : Registry κ} {handler : Handler κ} {type : TaskType}

/-- A handler is refused if there is one of its type, and the registry stays as it is. -/
theorem register_of_taken (taken : handler.type ∈ registry.handlers.map (·.type)) :
    registry.register handler = (.error ⟨handler.type⟩, registry) := dif_pos taken

/-- The first handler of a type comes last in the registry. -/
theorem register_of_fresh (fresh : handler.type ∉ registry.handlers.map (·.type)) :
    ∃ next, registry.register handler = (.ok (), next) ∧
      next.handlers = registry.handlers ++ [handler] := ⟨_, dif_neg fresh, rfl⟩

/-- A type without a handler is the type of none of them. -/
theorem get?_eq_none_iff : registry.get? type = none ↔ type ∉ registry.handlers.map (·.type) := by
  unfold get?
  simp [List.find?_eq_none]

/-- A registry has the handlers that it had, and a new one for a type that had none. -/
theorem get?_register (registry : Registry κ) (handler : Handler κ) (type : TaskType) :
    (registry.register handler).2.get? type =
      (registry.get? type).or ([handler].find? fun other => other.type = type) := by
  by_cases taken : handler.type ∈ registry.handlers.map (·.type)
  · rw [register_of_taken taken]
    by_cases same : handler.type = type
    · obtain ⟨first, isFirst⟩ := Option.ne_none_iff_exists'.1 fun none =>
        get?_eq_none_iff.1 none (same ▸ taken)
      rw [isFirst, Option.some_or]
    · rw [List.find?_cons_of_neg (by simpa using same), List.find?_nil, Option.or_none]
  · obtain ⟨next, added, handlers⟩ := register_of_fresh taken
    rw [added]
    unfold get?
    rw [handlers, List.find?_append]

/-- The registry after handlers were added to it one after the other, as far as was possible. -/
def registerAll (registry : Registry κ) (handlers : List (Handler κ)) : Registry κ :=
  handlers.foldl (fun registry handler => (registry.register handler).2) registry

/-- A registry has the handlers that it had, and the first new one of every other type. -/
theorem get?_registerAll (registry : Registry κ) (handlers : List (Handler κ)) (type : TaskType) :
    (registry.registerAll handlers).get? type =
      (registry.get? type).or (handlers.find? fun handler => handler.type = type) := by
  induction handlers generalizing registry with
  | nil => exact (Option.or_none).symm
  | cons handler more ih =>
    show ((registry.register handler).2.registerAll more).get? type = _
    rw [ih, get?_register, Option.or_assoc, ← List.find?_append, List.singleton_append]

/-- A registry without handlers has the first one of every type after handlers were added to it. -/
theorem get?_registerAll_empty (handlers : List (Handler κ)) (type : TaskType) :
    (empty.registerAll handlers).get? type = handlers.find? fun handler => handler.type = type := by
  rw [get?_registerAll]
  rfl

/-- A registry without handlers takes a handler for exactly the types of the handlers that were
added to it. -/
theorem mem_registerAll_empty (handlers : List (Handler κ)) (type : TaskType) :
    type ∈ (empty.registerAll handlers).handlers.map (·.type) ↔ type ∈ handlers.map (·.type) := by
  rw [← not_iff_not, ← get?_eq_none_iff, get?_registerAll_empty]
  simp [List.find?_eq_none]

/-- There are as many types as handlers. -/
theorem length_types (registry : Registry κ) : registry.types.length = registry.size := by
  unfold types size
  rw [List.length_mergeSort, List.length_map]

/-- The types are in order, and none is repeated. -/
theorem types_ascending (registry : Registry κ) :
    registry.types.Pairwise fun a b => a.name < b.name := by
  have nodup : registry.types.Nodup :=
    (List.mergeSort_perm _ _).nodup_iff.2 registry.distinct
  have sorted : registry.types.Pairwise fun a b => decide (a.name ≤ b.name) = true := by
    refine List.pairwise_mergeSort ?_ ?_ _
    · intro a b c
      simpa using le_trans
    · intro a b
      simpa using le_total a.name b.name
  refine (sorted.and nodup).imp ?_
  rintro a b ⟨notAfter, different⟩
  refine lt_of_le_of_ne (of_decide_eq_true notAfter) fun same => different ?_
  cases a
  cases b
  exact congrArg TaskType.mk same

end Registry

/-! ## Routes -/

/-- A handler has found its task: it does not come to the end that there is none, whatever is
answered to its calls. -/
theorem Handler.handleBody_ne_noHandler {σ : Type}
    {responds : (call : Call) → Option call.Reply → σ → σ → Prop} {state after : σ}
    {trace : List Answered} {result : Except DispatchError Unit} (handler : Handler κ)
    {body : List UInt8}
    (runs : (handler.handleBody body).Runs responds state trace after (some result))
    (type : TaskType) : result ≠ .error (.noHandler type) := by
  cases decoded : WorkKind.decode handler.kind body with
  | error failure =>
    obtain ⟨refusal, rfl⟩ := WorkKind.refusal_of_decode decoded
    rw [handler.handleBody_of_unread decoded] at runs
    obtain ⟨-, -, rfl⟩ := Program.Runs.pure_cases runs
    simp
  | ok work =>
    rw [handler.handleBody_of_decoded decoded] at runs
    obtain ⟨outcome, first, middle, second, -, -, concludes⟩ := runs.bind_cases
    obtain ⟨-, -, rfl⟩ := Program.Runs.pure_cases concludes
    cases outcome <;> simp [Except.mapError]

namespace Dispatcher

variable {dispatcher : Dispatcher κ} {handlers : List (Handler κ)} {envelope : Envelope}

/-- The task does not come to the end that it has no handler, whatever is answered to the calls that
are made for it. -/
def FindsHandler (dispatcher : Dispatcher κ) (envelope : Envelope) : Prop :=
  ∀ (σ : Type) (responds : (call : Call) → Option call.Reply → σ → σ → Prop) (state after : σ)
    (trace : List Answered) (type : TaskType),
      ¬ (dispatcher.dispatch envelope).Runs responds state trace after
        (some (.error (.noHandler type)))

/-- A dispatcher gives every task to that of some handlers which takes its type, if there is one. -/
structure Routes (dispatcher : Dispatcher κ) (handlers : List (Handler κ)) : Prop where
  /-- A handler does what the tasks of its type ask for. -/
  handled : ∀ handler ∈ handlers, ∀ envelope : Envelope, envelope.type = handler.type →
    dispatcher.dispatch envelope = handler.handleBody envelope.body
  /-- All other tasks have no handler, and nothing is done. -/
  unhandled : ∀ envelope : Envelope, envelope.type ∉ handlers.map (·.type) →
    dispatcher.dispatch envelope = .done (.error (.noHandler envelope.type))

/-- A dispatcher gives tasks to the handlers of its registry. -/
theorem routes (dispatcher : Dispatcher κ) : dispatcher.Routes dispatcher.registry.handlers := by
  constructor
  · intro handler member envelope type
    unfold dispatch
    rw [type, Registry.get?_of_mem member]
  · intro envelope noHandler
    unfold dispatch
    rw [Registry.get?_eq_none_iff.2 noHandler]
    rfl

/-- A task of the type of some handler finds it. -/
theorem Routes.findsHandler (routes : dispatcher.Routes handlers)
    (handled : envelope.type ∈ handlers.map (·.type)) : dispatcher.FindsHandler envelope := by
  obtain ⟨handler, member, isType⟩ := List.mem_map.1 handled
  intro σ responds state after trace type runs
  rw [routes.handled handler member envelope isType.symm] at runs
  exact handler.handleBody_ne_noHandler runs type rfl

end Dispatcher

/-! ## Calls -/

/-- A call on a dispatcher to be. -/
inductive DraftCall (κ : Type) [WorkKind κ] where
  /-- Add a handler. -/
  | register (handler : Handler κ)
  /-- Expect task types. -/
  | expect (types : List TaskType)

namespace DraftCall

variable {calls front : List (DraftCall κ)}

/-- The handler that a call adds. -/
def handler? : DraftCall κ → Option (Handler κ)
  | .register handler => some handler
  | .expect _ => none

/-- The task types that a call expects. -/
def types? : DraftCall κ → Option (List TaskType)
  | .register _ => none
  | .expect types => some types

/-- The handlers that calls add, in order. -/
def handlersOf (calls : List (DraftCall κ)) : List (Handler κ) := calls.filterMap handler?

/-- The task types for which calls add a handler. -/
def typesOf (calls : List (DraftCall κ)) : List TaskType := (handlersOf calls).map (·.type)

/-- The task types of the last expectation, if there is one. -/
def expectedOf (calls : List (DraftCall κ)) : Option (List TaskType) :=
  (calls.filterMap types?).getLast?

/-- The expected task types for which no handler is added, in order and with repetitions. -/
def unhandled (calls : List (DraftCall κ)) : List TaskType :=
  ((expectedOf calls).getD []).filter fun type => type ∉ typesOf calls

/-- The first handler of which the type was registered before has this type. -/
def Repeats (calls : List (DraftCall κ)) (type : TaskType) : Prop :=
  ∃ front handler back, calls = front ++ .register handler :: back ∧ (typesOf front).Nodup ∧
    type ∈ typesOf front ∧ handler.type = type

/-- The handlers of calls are those of the first call and those of the others. -/
theorem handlersOf_cons (call : DraftCall κ) (calls : List (DraftCall κ)) :
    handlersOf (call :: calls) = call.handler?.toList ++ handlersOf calls := by
  cases call <;> rfl

/-- Where a handler is one too many its type stands twice. -/
theorem Repeats.not_nodup {type : TaskType} (repeats : Repeats calls type) :
    ¬ (typesOf calls).Nodup := by
  obtain ⟨front, handler, back, rfl, -, taken, isType⟩ := repeats
  have split : typesOf (front ++ .register handler :: back) =
      typesOf front ++ type :: typesOf back := by
    unfold typesOf handlersOf
    rw [List.filterMap_append, List.map_append, ← isType]
    rfl
  rw [split]
  intro nodup
  exact (List.nodup_append.1 nodup).2.2 type taken type List.mem_cons_self rfl

/-- The first call has expected what is expected in the end if no other call expects anything. -/
theorem expectedOf_cons (call : DraftCall κ) (calls : List (DraftCall κ)) :
    expectedOf (call :: calls) = (expectedOf calls).or call.types? := by
  cases call with
  | register handler => exact (Option.or_none).symm
  | expect types =>
    show (types :: calls.filterMap types?).getLast? = _
    rw [List.getLast?_cons]
    unfold expectedOf
    cases (calls.filterMap types?).getLast? <;> rfl

end DraftCall

namespace DispatcherDraft

open DraftCall

variable {draft after : DispatcherDraft κ} {calls : List (DraftCall κ)}

/-- The dispatcher to be after a call on it. -/
def perform (draft : DispatcherDraft κ) :
    DraftCall κ → Except AlreadyRegistered (DispatcherDraft κ)
  | .register handler => draft.register handler
  | .expect types => .ok (draft.expect types)

/-- The dispatcher to be after calls on it, up to the first one that fails. -/
def performAll (draft : DispatcherDraft κ) (calls : List (DraftCall κ)) :
    Except AlreadyRegistered (DispatcherDraft κ) := calls.foldlM perform draft

/-- A call fails if it adds a second handler of a type. -/
theorem perform_of_taken {handler : Handler κ}
    (taken : handler.type ∈ draft.registry.handlers.map (·.type)) :
    draft.perform (.register handler) = .error ⟨handler.type⟩ := by
  show draft.register handler = _
  unfold register
  rw [Registry.register_of_taken taken]
  rfl

/-- After a call that does not fail its handler comes last, and its expectation has taken the place
of the one before. -/
theorem perform_of_fresh {call : DraftCall κ}
    (fresh : ∀ handler, call = .register handler →
      handler.type ∉ draft.registry.handlers.map (·.type)) :
    ∃ next, draft.perform call = .ok next ∧
      next.registry.handlers = draft.registry.handlers ++ call.handler?.toList ∧
      next.expected = call.types?.or draft.expected := by
  cases call with
  | expect types => exact ⟨_, rfl, (List.append_nil _).symm, rfl⟩
  | register handler =>
    obtain ⟨next, added, handlers⟩ := Registry.register_of_fresh (fresh handler rfl)
    refine ⟨{ draft with registry := next }, ?_, handlers, rfl⟩
    show draft.register handler = _
    unfold register
    rw [added]
    rfl

/-- The first call is performed, and then the others. -/
theorem performAll_cons (draft : DispatcherDraft κ) (call : DraftCall κ)
    (calls : List (DraftCall κ)) :
    draft.performAll (call :: calls) = (draft.perform call).bind (·.performAll calls) := rfl

/-- Calls are performed up to some place, and then the others. -/
theorem performAll_append (draft : DispatcherDraft κ) (front back : List (DraftCall κ)) :
    draft.performAll (front ++ back) = (draft.performAll front).bind (·.performAll back) := by
  unfold performAll
  rw [List.foldlM_append]
  rfl

/-- Either all calls succeed, and all their handlers and the last expectation are there, or the
first call fails that adds a second handler of a type. -/
theorem performAll_cases (draft : DispatcherDraft κ) (calls : List (DraftCall κ)) :
    (∃ after, draft.performAll calls = .ok after ∧
      after.registry.handlers = draft.registry.handlers ++ handlersOf calls ∧
      after.expected = (expectedOf calls).or draft.expected) ∨
    ∃ front handler back, calls = front ++ .register handler :: back ∧
      ((draft.registry.handlers ++ handlersOf front).map (·.type)).Nodup ∧
      handler.type ∈ (draft.registry.handlers ++ handlersOf front).map (·.type) ∧
      draft.performAll calls = .error ⟨handler.type⟩ := by
  induction calls generalizing draft with
  | nil => exact .inl ⟨draft, rfl, (List.append_nil _).symm, rfl⟩
  | cons call more ih =>
    rw [performAll_cons]
    by_cases repeats : ∃ handler, call = .register handler ∧
      handler.type ∈ draft.registry.handlers.map (·.type)
    · obtain ⟨handler, rfl, taken⟩ := repeats
      rw [perform_of_taken taken]
      refine .inr ⟨[], handler, more, rfl, ?_, ?_, rfl⟩
      · simpa [handlersOf] using draft.registry.distinct
      · simpa [handlersOf] using taken
    · obtain ⟨next, performed, handlers, expected⟩ :=
        perform_of_fresh fun handler adds taken => repeats ⟨handler, adds, taken⟩
      have joined : ∀ calls, next.registry.handlers ++ handlersOf calls =
          draft.registry.handlers ++ handlersOf (call :: calls) := by
        intro calls
        rw [handlers, handlersOf_cons, List.append_assoc]
      rw [performed]
      rcases ih next with ⟨after, succeeds, all, last⟩ |
        ⟨front, handler, back, split, nodup, taken, fails⟩
      · refine .inl ⟨after, succeeds, all.trans (joined more), ?_⟩
        rw [last, expected, expectedOf_cons, Option.or_assoc]
      · rw [joined front] at nodup taken
        exact .inr ⟨call :: front, handler, back, by rw [split, List.cons_append], nodup, taken,
          fails⟩

/-- Calls from the beginning on have put together what they add and expect, or they have failed
under the type of the first handler that is one too many. -/
theorem performAll_new_cases (calls : List (DraftCall κ)) :
    (∃ after, new.performAll calls = .ok after ∧ after.registry.handlers = handlersOf calls ∧
      after.expected = expectedOf calls) ∨
    ∃ type, Repeats calls type ∧ new.performAll calls = .error ⟨type⟩ := by
  rcases performAll_cases new calls with ⟨after, succeeds, handlers, expected⟩ |
    ⟨front, handler, back, split, nodup, taken, fails⟩
  · exact .inl ⟨after, succeeds, handlers, expected.trans Option.or_none⟩
  · exact .inr ⟨_, ⟨front, handler, back, split, nodup, taken, rfl⟩, fails⟩

/-- Calls from the beginning on fail under a type if the first handler that is one too many is of
this type, and in no other way. -/
theorem performAll_eq_error_iff {failure : AlreadyRegistered} :
    new.performAll calls = .error failure ↔ Repeats calls failure.type := by
  constructor
  · intro fails
    rcases performAll_new_cases calls with ⟨after, succeeds, -⟩ | ⟨type, repeats, failed⟩
    · rw [succeeds] at fails
      cases fails
    · rw [failed] at fails
      obtain rfl := Except.error.inj fails
      exact repeats
  · rintro ⟨front, handler, back, rfl, nodup, taken, isType⟩
    rw [performAll_append]
    rcases performAll_new_cases front with ⟨middle, succeeds, handlers, -⟩ | ⟨type, repeats, -⟩
    · have isTaken : handler.type ∈ middle.registry.handlers.map (·.type) := by
        rw [handlers, isType]
        exact taken
      rw [succeeds]
      show (middle.perform (.register handler)).bind (·.performAll back) = _
      rw [perform_of_taken isTaken, isType]
      rfl
    · exact absurd nodup repeats.not_nodup

/-- The types that a dispatcher to be lacks are those of the last expectation for which no handler
was added. -/
theorem missing_eq (handlers : draft.registry.handlers = handlersOf calls)
    (expected : draft.expected = expectedOf calls) : draft.missing = unhandled calls := by
  unfold missing unhandled
  rw [expected]
  refine List.filter_congr fun type _ => ?_
  have same : type ∈ draft.registry.types ↔ type ∈ typesOf calls := by
    rw [Registry.mem_types, handlers]
    rfl
  by_cases handled : type ∈ typesOf calls
  · simp [handled, same.2 handled]
  · simp [handled, mt same.1 handled]

/-- There is a dispatcher with the handlers if no type is missing. -/
theorem build_of_complete (complete : draft.missing = []) : draft.build = .ok ⟨draft.registry⟩ := by
  unfold build
  rw [complete]
  rfl

/-- The missing types are told if there is one. -/
theorem build_eq_error_iff {failure : MissingTaskTypes} :
    draft.build = .error failure ↔ draft.missing ≠ [] ∧ failure.types = draft.missing := by
  by_cases complete : draft.missing = []
  · rw [build_of_complete complete]
    simp [complete]
  · have incomplete : draft.build = .error ⟨draft.missing⟩ :=
      if_neg (by simpa using complete)
    rw [incomplete]
    constructor
    · intro same
      rw [← Except.error.inj same]
      exact ⟨complete, rfl⟩
    · rintro ⟨-, same⟩
      rw [← same]

end DispatcherDraft

open DraftCall in
/-- Dispatchers are put together by any calls, and what is wrong with them is found at once.

The first handler that is one too many for its type fails under this type; a registry that is in use
when this happens keeps the first handler of every type. Otherwise the dispatcher is built unless
the last expectation has types without a handler, which are then told in order and with repetitions.
A dispatcher that is built gives every task to the handler that was added for its type. A task of an
expected type never lacks one. The types of a registry are in order without repetitions, as many as
there are handlers. -/
theorem construction_fails_fast (calls : List (DraftCall κ)) :
    (∀ failure, DispatcherDraft.new.performAll calls = .error failure ↔
      Repeats calls failure.type) ∧
    ((∀ type, ¬ Repeats calls type) → ∃ draft, DispatcherDraft.new.performAll calls = .ok draft ∧
      (∀ failure, draft.build = .error failure ↔
        unhandled calls ≠ [] ∧ failure.types = unhandled calls) ∧
      (unhandled calls = [] → ∃ dispatcher, draft.build = .ok dispatcher ∧
        dispatcher.Routes (handlersOf calls) ∧
        ∀ envelope, envelope.type ∈ (expectedOf calls).getD [] →
          dispatcher.FindsHandler envelope)) ∧
    (∀ (earlier : List (Handler κ)) (handler : Handler κ),
      (handler.type ∈ earlier.map (·.type) →
        (Registry.empty.registerAll earlier).register handler =
          (.error ⟨handler.type⟩, Registry.empty.registerAll earlier)) ∧
      (handler.type ∉ earlier.map (·.type) →
        ((Registry.empty.registerAll earlier).register handler).1 = .ok ()) ∧
      ∀ type, (Registry.empty.registerAll earlier).get? type =
        earlier.find? fun other => other.type = type) ∧
    ∀ registry : Registry κ,
      registry.types.Pairwise (fun a b => a.name < b.name) ∧
      registry.types.length = registry.size ∧
      ∀ type, type ∈ registry.types ↔ ∃ handler, registry.get? type = some handler := by
  refine ⟨fun failure => DispatcherDraft.performAll_eq_error_iff, ?_, ?_, ?_⟩
  · intro single
    rcases DispatcherDraft.performAll_new_cases calls with
      ⟨draft, succeeds, handlers, expected⟩ | ⟨type, repeats, -⟩
    · have missing := DispatcherDraft.missing_eq handlers expected
      refine ⟨draft, succeeds, fun failure => ?_, fun complete => ?_⟩
      · rw [← missing]
        exact DispatcherDraft.build_eq_error_iff
      · have routes : Dispatcher.Routes ⟨draft.registry⟩ (handlersOf calls) :=
          handlers ▸ Dispatcher.routes ⟨draft.registry⟩
        refine ⟨_, DispatcherDraft.build_of_complete (missing.trans complete), routes, ?_⟩
        intro envelope isExpected
        refine routes.findsHandler ?_
        have handled : envelope.type ∈ typesOf calls := by
          simpa using List.filter_eq_nil_iff.1 complete envelope.type isExpected
        exact handled
    · exact absurd repeats (single type)
  · intro earlier handler
    have sameTypes := Registry.mem_registerAll_empty earlier handler.type
    refine ⟨fun taken => Registry.register_of_taken (sameTypes.2 taken), fun fresh => ?_,
      Registry.get?_registerAll_empty earlier⟩
    obtain ⟨next, added, -⟩ := Registry.register_of_fresh (mt sameTypes.1 fresh)
    rw [added]
  · intro registry
    refine ⟨registry.types_ascending, registry.length_types, fun type => ?_⟩
    rw [Registry.mem_types, ← not_iff_not, ← Registry.get?_eq_none_iff, not_exists,
      Option.eq_none_iff_forall_ne_some]

/-- Calls that expect too much at first and then only some types, with a handler of mails. -/
def DraftCall.mails (types : List TaskType) : List (DraftCall PayloadKind) :=
  [.expect [⟨"sms:deliver"⟩], .register (.email (.ofSeconds 5)), .expect types]

/-- A dispatcher for mails is built if nothing but mails is expected in the end, and then mails find
their handler and notifications do not. Otherwise the other types are told, each as often as it is
expected. A second handler of mails is refused, and a registry in use stays as it is. -/
theorem construction_fails_fast_mails :
    (∃ draft, DispatcherDraft.new.performAll (DraftCall.mails [.mail, .mail]) = .ok draft ∧
      ∃ dispatcher, draft.build = .ok dispatcher ∧
        (∀ envelope, envelope.type = .mail → dispatcher.FindsHandler envelope) ∧
        ∀ envelope, envelope.type = .notification →
          dispatcher.dispatch envelope = .done (.error (.noHandler .notification))) ∧
    (∃ draft, DispatcherDraft.new.performAll
        (DraftCall.mails [.notification, .mail, ⟨"sms:deliver"⟩, .notification]) = .ok draft ∧
      draft.build = .error ⟨[.notification, ⟨"sms:deliver"⟩, .notification]⟩) ∧
    DispatcherDraft.new.performAll (DraftCall.mails [] ++ DraftCall.mails []) = .error ⟨.mail⟩ ∧
    (Registry.empty.registerAll [Handler.email (.ofSeconds 5)]).register (.email (.ofSeconds 9)) =
      (.error ⟨.mail⟩, Registry.empty.registerAll [.email (.ofSeconds 5)]) := by
  have single : ∀ types type, ¬ DraftCall.Repeats (DraftCall.mails types) type :=
    fun _ _ repeats => repeats.not_nodup (List.nodup_singleton _)
  refine ⟨?_, ?_, ?_, ?_⟩
  · obtain ⟨draft, succeeds, -, builds⟩ :=
      (construction_fails_fast (DraftCall.mails [.mail, .mail])).2.1 (single _)
    obtain ⟨dispatcher, built, routes, finds⟩ := builds (by decide)
    refine ⟨draft, succeeds, dispatcher, built, fun envelope isMail => ?_, ?_⟩
    · refine finds envelope ?_
      rw [isMail]
      exact List.mem_cons_self
    · intro envelope isNotification
      rw [← isNotification]
      refine routes.unhandled envelope ?_
      rw [isNotification]
      decide
  · have incomplete := (construction_fails_fast (DraftCall.mails
      [.notification, .mail, ⟨"sms:deliver"⟩, .notification])).2.1 (single _)
    obtain ⟨draft, succeeds, fails, -⟩ := incomplete
    exact ⟨draft, succeeds, (fails _).2 (by decide)⟩
  · have first : DraftCall.typesOf (DraftCall.mails [] ++ [.expect [⟨"sms:deliver"⟩]]) =
        [.mail] := rfl
    refine ((construction_fails_fast (DraftCall.mails [] ++ DraftCall.mails [])).1 _).2
      ⟨DraftCall.mails [] ++ [.expect [⟨"sms:deliver"⟩]], .email (.ofSeconds 5), [.expect []],
        rfl, ?_, ?_, rfl⟩
    · rw [first]
      exact List.nodup_singleton _
    · rw [first]
      exact List.mem_cons_self
  · have secondFails := (construction_fails_fast ([] : List (DraftCall PayloadKind))).2.2.1
      [.email (.ofSeconds 5)] (.email (.ofSeconds 9))
    have taken : (Handler.email (.ofSeconds 9)).type ∈
        [Handler.email (.ofSeconds 5)].map (·.type) := by
      show TaskType.mail ∈ [TaskType.mail]
      exact List.mem_cons_self
    exact secondFails.1 taken

end ReminderDispatch
