import ReminderDispatch.Proofs.Pipeline.Processing

/-!
# Failures of the store of notifications

A failure of the store becomes one of the handler, and this one a failure of the dispatch; by the
kind of the last one the broker decides. All failures of the store keep their kind on this way but
one: an operation that the store does not offer will not be offered later either, and yet it becomes
a failure after which the task is tried again.
-/

namespace ReminderDispatch

open Program

variable {failure : StoreError} {limit : Duration} {request : NotificationRequest}

/-! ## Kinds -/

/-- The failure says that the store does not offer the operation. -/
def StoreError.IsUnoffered (failure : StoreError) : Prop :=
  ∃ operation, failure = .notImplemented operation

/-- Every failure of the store keeps its kind, unless it says that the operation is not offered. -/
theorem HandlerError.kind_ofStore (offered : ¬ failure.IsUnoffered) :
    (ofStore failure).kind = failure.kind := by
  cases failure with
  | unavailable reason => rfl
  | timeout limit => rfl
  | notFound what => rfl
  | notImplemented operation => exact absurd ⟨operation, rfl⟩ offered
  | validation failure => rfl

/-- That an operation is not offered is permanent to the store and transient to the handler. -/
theorem HandlerError.kind_ofStore_unoffered (unoffered : failure.IsUnoffered) :
    failure.kind = .permanent ∧ (ofStore failure).kind = .transient := by
  obtain ⟨operation, rfl⟩ := unoffered
  exact ⟨rfl, rfl⟩

/-- Only transient failures allow another attempt. -/
theorem FailureKind.allowsRetry_iff {kind : FailureKind} :
    kind.allowsRetry = true ↔ kind = .transient := by
  cases kind <;> decide

/-! ## The way of a failure -/

/-- The failure of the store that a handler sees in the answer to its call: the one that was
answered, or that time is up if nothing was. -/
def StoreError.seen? (limit : Duration) :
    Option (Call.createNotification request).Reply → Option StoreError
  | none => some (.timeout limit)
  | some (.error failure) => some failure
  | some (.ok _) => none

/-- The handler concludes the failure that it sees. -/
theorem TaskPayload.conclude_of_seen {work : NotificationDelivery}
    {reply : Option (TaskPayload.notification work).call.Reply}
    (seen : StoreError.seen? limit reply = some failure) :
    (TaskPayload.notification work).conclude limit reply = .error (.ofStore failure) := by
  rcases reply with _ | other | result
  · rw [← Option.some.inj seen]
    rfl
  · rw [← Option.some.inj seen]
    rfl
  · cases seen

variable {σ : Type} {responds : (call : Call) → Option call.Reply → σ → σ → Prop} {state after : σ}
  {trace : List Answered} {dispatcher : Dispatcher} {now : Moment} {delivery : Delivery}
  {exchange : Exchange} {envelope : Envelope}

/-- A task for the handler of notifications is dispatched without a call, or by one from whose
answer the result is concluded. -/
theorem Dispatcher.dispatch_notification_cases {result : Except DispatchError Unit}
    (routed : dispatcher.registry.get? envelope.type = some (.notification limit))
    (dispatched : Runs responds (dispatcher.dispatch envelope) state trace after (some result)) :
    trace = [] ∨ ∃ work reply, trace = [⟨(TaskPayload.notification work).call, reply⟩] ∧
      result = ((TaskPayload.notification work).conclude limit reply).mapError .handler := by
  have handles : dispatcher.dispatch envelope =
      (Handler.notification limit).handleBody envelope.body := by
    unfold dispatch
    rw [routed]
  rw [handles] at dispatched
  cases decoded : Wire.decode .notification envelope.body with
  | error failure =>
    rw [(Handler.notification limit).handleBody_error decoded] at dispatched
    exact .inl dispatched.pure_cases.1
  | ok work =>
    rw [(Handler.notification limit).handleBody_eq decoded] at dispatched
    obtain ⟨outcome, first, middle, second, rfl, handled, passedOn⟩ := dispatched.bind_cases
    obtain ⟨rfl, rfl, rfl⟩ := passedOn.pure_cases
    rw [List.append_nil]
    change Runs responds (Handler.createNotification limit work) state first after (some outcome)
      at handled
    rcases Handler.createNotification_does limit work with ⟨-, failure, refused⟩ | ⟨-, called⟩
    · rw [refused] at handled
      exact .inl handled.pure_cases.1
    · rw [called] at handled
      obtain ⟨reply, next, more, rfl, -, concluded⟩ := handled.ask_cases
      obtain ⟨rfl, -, rfl⟩ := concluded.pure_cases
      exact .inr ⟨work, reply, rfl, rfl⟩

/-- A failure that the handler of notifications sees is what the dispatch comes to. -/
theorem Dispatcher.dispatch_of_seen {result : Except DispatchError Unit}
    {reply : Option (Call.createNotification request).Reply}
    (routed : dispatcher.registry.get? envelope.type = some (.notification limit))
    (dispatched : Runs responds (dispatcher.dispatch envelope) state trace after (some result))
    (called : ⟨.createNotification request, reply⟩ ∈ trace)
    (seen : StoreError.seen? limit reply = some failure) :
    result = .error (.handler (.ofStore failure)) := by
  rcases dispatch_notification_cases routed dispatched with rfl | ⟨work, other, rfl, rfl⟩
  · cases called
  · obtain ⟨same, sameReply⟩ := Answered.mk.inj (List.mem_singleton.1 called)
    cases Call.createNotification.inj same
    cases sameReply
    rw [TaskPayload.conclude_of_seen seen]
    rfl

/-- A failure of the store that the handler of notifications sees, by an answer or because there is
none in time, keeps its kind up to the broker: another attempt follows exactly if the failure is
transient and attempts are left, and a permanent one ends the task at once. The only exception is an
operation that the store does not offer: it is permanent, and is tried again while attempts are
left. -/
theorem Dispatcher.store_failures_processed {policy : RetryPolicy} {begin : Moment}
    {session : Session} {outcome : Except BrokerError (Settlement × Option Nat × Exchange)}
    {reply : Option (Call.createNotification request).Reply}
    (run : (Session.start policy begin).Leads session) (inHand : delivery ∈ session.held)
    (inUse : exchange.broker = session.broker)
    (routed : dispatcher.registry.get? delivery.envelope.type = some (.notification limit))
    (processed : Runs responds (dispatcher.process now delivery exchange) state trace after
      (some outcome))
    (called : ⟨.createNotification request, reply⟩ ∈ trace)
    (seen : StoreError.seen? limit reply = some failure) :
    ∃ settlement woken later, outcome = .ok (settlement, woken, later) ∧
      (¬ failure.IsUnoffered →
        (HandlerError.ofStore failure).kind = failure.kind ∧
        (DispatchError.handler (.ofStore failure)).kind = failure.kind ∧
        ((∃ delay, settlement = .retryScheduled delay) ↔
          failure.kind = .transient ∧ delivery.attempt < policy.maxAttempts) ∧
        (failure.kind = .permanent → settlement = .deadLettered ∧
          exchange.broker.GivesUp later.broker delivery (HandlerError.ofStore failure).message)) ∧
      (failure.IsUnoffered →
        failure.kind = .permanent ∧ (HandlerError.ofStore failure).kind = .transient ∧
        ((∃ delay, settlement = .retryScheduled delay) ↔ delivery.attempt < policy.maxAttempts)) := by
  obtain ⟨result, dispatched, rfl⟩ := process_runs_iff.1 processed
  obtain rfl := dispatch_of_seen routed dispatched called seen
  obtain ⟨settlement, woken, later, settled, reports⟩ :=
    Session.reports run inHand inUse now (.error (.handler (.ofStore failure)))
  have retries : (∃ delay, settlement = .retryScheduled delay) ↔
      (HandlerError.ofStore failure).kind = .transient ∧ delivery.attempt < policy.maxAttempts :=
    reports.retries_iff.trans (and_congr_left' FailureKind.allowsRetry_iff)
  refine ⟨settlement, woken, later, settled, fun offered => ?_, fun unoffered => ?_⟩
  · have kept := HandlerError.kind_ofStore offered
    rw [kept] at retries
    refine ⟨kept, kept, retries, fun permanent => reports.dies fun again => ?_⟩
    have transient : (HandlerError.ofStore failure).kind = .transient :=
      FailureKind.allowsRetry_iff.1 again.1
    rw [kept, permanent] at transient
    cases transient
  · obtain ⟨permanent, transient⟩ := HandlerError.kind_ofStore_unoffered unoffered
    exact ⟨permanent, transient, retries.trans (and_iff_right transient)⟩

/-- The store has no such user, and the notification is given up at its first attempt. -/
theorem Dispatcher.store_failures_processed_notFound :
    (Session.start .default 0).Leads noticeTaken ∧ noticeInHand ∈ noticeTaken.held ∧
      (Dispatcher.wired (.ofSeconds 5)).registry.get? noticeInHand.envelope.type =
        some (.notification (.ofSeconds 5)) ∧
      ∃ woken later, Runs (fun _ _ _ _ => True)
          ((Dispatcher.wired (.ofSeconds 5)).process 0 noticeInHand ⟨noticeTaken.broker, .silent⟩)
          () [⟨(TaskPayload.notification oddNotice).call, some (.error (StoreError.notFound "user"))⟩]
          () (some (.ok (.deadLettered, woken, later))) ∧
        later.broker.deadLetters =
          noticeTaken.broker.deadLetters ++ [⟨noticeInHand.envelope, 1, "not found: user"⟩] := by
  have inHand : noticeInHand ∈ noticeTaken.held := by decide
  have member : Handler.notification (.ofSeconds 5) ∈
      (Dispatcher.wired (.ofSeconds 5)).registry.handlers := List.mem_cons_self
  have routed : (Dispatcher.wired (.ofSeconds 5)).registry.get? noticeInHand.envelope.type =
      some (.notification (.ofSeconds 5)) := Registry.get?_of_mem member
  have processed := notice_processed (some (.error (StoreError.notFound "user"))) .silent
  obtain ⟨settlement, woken, later, same, offered, -⟩ :=
    store_failures_processed leads_noticeTaken inHand rfl routed processed List.mem_cons_self rfl
  have isOffered : ¬ (StoreError.notFound "user").IsUnoffered := by
    rintro ⟨operation, impossible⟩
    cases impossible
  obtain ⟨dead, letters⟩ := (offered isOffered).2.2.2 rfl
  rw [same, dead] at processed
  exact ⟨leads_noticeTaken, inHand, routed, woken, later, processed, letters.deadLetters_eq⟩

/-- The store does not offer to create notifications, which is permanent, and yet the notification
is scheduled for another attempt. -/
theorem Dispatcher.unoffered_tried_again :
    (StoreError.notImplemented "create_notification").kind = .permanent ∧
      (DispatchError.handler (.ofStore (.notImplemented "create_notification"))).kind = .transient ∧
      ∃ woken later, Runs (fun _ _ _ _ => True)
          ((Dispatcher.wired (.ofSeconds 5)).process 0 noticeInHand ⟨noticeTaken.broker, .silent⟩)
          () [⟨(TaskPayload.notification oddNotice).call,
            some (.error (StoreError.notImplemented "create_notification"))⟩]
          () (some (.ok (.retryScheduled (.ofSeconds 2), woken, later))) ∧
        later.broker.deadLetters = [] := by
  have inHand : noticeInHand ∈ noticeTaken.held := by decide
  have processed := notice_processed
    (some (.error (StoreError.notImplemented "create_notification"))) .silent
  obtain ⟨settlement, woken, later, settled, reports⟩ := @Session.reports noticeInHand
    ⟨noticeTaken.broker, .silent⟩ .default 0 noticeTaken leads_noticeTaken inHand rfl 0
    (.error (.handler (.ofStore (.notImplemented "create_notification"))))
  have again : RetryPolicy.default.TriesAgain noticeInHand
      (.handler (.ofStore (.notImplemented "create_notification"))) := by decide
  have delay : RetryPolicy.default.nextDelay noticeInHand.attempt = .ofSeconds 2 := by
    decide +kernel
  have retried : settlement = .retryScheduled (.ofSeconds 2) :=
    (reports.retried_iff _).2 ⟨_, rfl, again, delay.symm⟩
  subst retried
  refine ⟨rfl, rfl, woken, later, ?_, (reports.reschedules _ _ rfl rfl).deadLetters_eq⟩
  rw [← settled]
  exact processed

end ReminderDispatch
