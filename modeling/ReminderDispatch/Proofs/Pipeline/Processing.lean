import ReminderDispatch.Proofs.Broker.Attempts
import ReminderDispatch.Proofs.Broker.Settlements
import ReminderDispatch.Proofs.Pipeline.Routing

/-!
# Processing of deliveries

The dispatcher works on a delivery in hand, which may take any number of calls, and reports the
result to the exchange as it is then. The report always succeeds. The settlement that comes back
says what has become of the task, and nothing has changed that belongs to another one.
-/

namespace ReminderDispatch

open Program

/-- Work on a leased task and report the result: the settlement, the consumer that wakes and the
exchange afterwards. The time and the exchange are those of the report; others may have used the
broker during the work. -/
def Dispatcher.process (dispatcher : Dispatcher) (now : Moment) (delivery : Delivery)
    (exchange : Exchange) : Program (Except BrokerError (Settlement × Option Nat × Exchange)) := do
  let result ← dispatcher.dispatch delivery.envelope
  pure (exchange.settle now delivery result)

variable {σ : Type} {responds : (call : Call) → Option call.Reply → σ → σ → Prop} {state after : σ}
  {trace : List Answered} {dispatcher : Dispatcher} {now : Moment} {delivery : Delivery}
  {exchange : Exchange}

/-- A delivery is processed by the calls of its dispatch; then the result is reported. -/
theorem Dispatcher.process_runs_iff
    {outcome : Except BrokerError (Settlement × Option Nat × Exchange)} :
    Runs responds (dispatcher.process now delivery exchange) state trace after (some outcome) ↔
      ∃ result, Runs responds (dispatcher.dispatch delivery.envelope) state trace after
        (some result) ∧ outcome = exchange.settle now delivery result := by
  constructor
  · intro processed
    obtain ⟨result, first, middle, second, rfl, dispatched, reported⟩ := processed.bind_cases
    obtain ⟨rfl, rfl, rfl⟩ := reported.pure_cases
    rw [List.append_nil]
    exact ⟨result, dispatched, rfl⟩
  · rintro ⟨result, dispatched, rfl⟩
    have processed : Runs responds (dispatcher.process now delivery exchange) state (trace ++ [])
        after (some (exchange.settle now delivery result)) := dispatched.bind (.done _ after)
    rwa [List.append_nil] at processed

/-- The report on a delivery in hand succeeds, whatever has come of the work and whoever waits at the
bell. -/
theorem Session.reports {policy : RetryPolicy} {begin : Moment} {session : Session}
    (run : (Session.start policy begin).Leads session) (inHand : delivery ∈ session.held)
    (inUse : exchange.broker = session.broker) (now : Moment)
    (result : Except DispatchError Unit) :
    ∃ settlement woken later, exchange.settle now delivery result = .ok (settlement, woken, later) ∧
      exchange.Reports policy now delivery result settlement woken later := by
  have running : exchange.broker.Running delivery := by
    rw [inUse]
    exact (Session.leads_sound run).serving.running delivery inHand
  have isPolicy : exchange.broker.policy = policy := by
    rw [inUse]
    exact (Session.leads_counted run).policy_eq
  rw [← isPolicy]
  exact Exchange.settle_reports running now result

/-! ## A notification in hand -/

/-- A notification and a mail without a body are published, and the notification is taken. -/
def noticeTaken : Session :=
  (Session.start .default 0).run [.publish (TaskPayload.notification oddNotice).envelope,
    .publish (Session.mail 2), .lease]

/-- The first attempt of the notification. -/
def noticeInHand : Delivery := ⟨(TaskPayload.notification oddNotice).envelope, 1⟩

/-- The session with the notification in hand is one of a new broker. -/
theorem leads_noticeTaken : (Session.start .default 0).Leads noticeTaken :=
  Session.machine.leads_run _ [.publish (TaskPayload.notification oddNotice).envelope,
    .publish (Session.mail 2), .lease] (by decide)

/-- The process creates the notification by one call, whatever is answered. -/
theorem notice_dispatched (reply : Option (TaskPayload.notification oddNotice).call.Reply) :
    Runs (fun _ _ _ _ => True) ((Dispatcher.wired (.ofSeconds 5)).dispatch noticeInHand.envelope)
      () [⟨(TaskPayload.notification oddNotice).call, reply⟩] ()
      (some (((TaskPayload.notification oddNotice).conclude (.ofSeconds 5) reply).mapError
        .handler)) := by
  have carries : noticeInHand.envelope.work? = some (.notification oddNotice) :=
    Envelope.work?_published rfl rfl
  have valid : oddNotice.validate = .ok () := by decide
  rw [(Dispatcher.does_of_valid carries valid (.ofSeconds 5)).dispatch_eq]
  exact .ask trivial (.done _ ())

/-- The process works on the notification and reports what it concludes from the answer. -/
theorem notice_processed (reply : Option (TaskPayload.notification oddNotice).call.Reply)
    (bell : Bell) :
    Runs (fun _ _ _ _ => True)
      ((Dispatcher.wired (.ofSeconds 5)).process 0 noticeInHand ⟨noticeTaken.broker, bell⟩)
      () [⟨(TaskPayload.notification oddNotice).call, reply⟩] ()
      (some (Exchange.settle ⟨noticeTaken.broker, bell⟩ 0 noticeInHand
        (((TaskPayload.notification oddNotice).conclude (.ofSeconds 5) reply).mapError
          .handler))) :=
  Dispatcher.process_runs_iff.2 ⟨_, notice_dispatched reply, rfl⟩

/-! ## Every delivery in hand -/

/-- The processing of a delivery in hand ends when its dispatch does, and never with an error of the
broker. Whatever the dispatch has come to, the settlement tells what has become of the task: it is
acknowledged exactly if the work is done, another attempt follows exactly if the failure is
transient and attempts are left, and it is given up otherwise. No other task is touched. -/
theorem Dispatcher.process_reports {policy : RetryPolicy} {begin : Moment} {session : Session}
    (run : (Session.start policy begin).Leads session) (inHand : delivery ∈ session.held)
    (inUse : exchange.broker = session.broker) :
    (∀ result, Runs responds (dispatcher.dispatch delivery.envelope) state trace after
        (some result) → ∃ settlement woken later,
      Runs responds (dispatcher.process now delivery exchange) state trace after
        (some (.ok (settlement, woken, later))) ∧
      exchange.Reports policy now delivery result settlement woken later) ∧
    ∀ outcome, Runs responds (dispatcher.process now delivery exchange) state trace after
        (some outcome) → ∃ result settlement woken later,
      Runs responds (dispatcher.dispatch delivery.envelope) state trace after (some result) ∧
      outcome = .ok (settlement, woken, later) ∧
      exchange.Reports policy now delivery result settlement woken later := by
  constructor
  · intro result dispatched
    obtain ⟨settlement, woken, later, settled, reports⟩ :=
      Session.reports run inHand inUse now result
    exact ⟨settlement, woken, later, process_runs_iff.2 ⟨result, dispatched, settled.symm⟩, reports⟩
  · intro outcome processed
    obtain ⟨result, dispatched, rfl⟩ := process_runs_iff.1 processed
    obtain ⟨settlement, woken, later, settled, reports⟩ :=
      Session.reports run inHand inUse now result
    exact ⟨result, settlement, woken, later, dispatched, settled, reports⟩

/-- The store does not answer in time, and the notification is scheduled for another attempt two
seconds later, for which a waiting consumer wakes. -/
theorem Dispatcher.process_reports_unanswered :
    (Session.start .default 0).Leads noticeTaken ∧ noticeInHand ∈ noticeTaken.held ∧
      ∃ later, Runs (fun _ _ _ _ => True)
          ((Dispatcher.wired (.ofSeconds 5)).process 0 noticeInHand ⟨noticeTaken.broker, ⟨[7], false⟩⟩)
          () [⟨(TaskPayload.notification oddNotice).call, none⟩] ()
          (some (.ok (.retryScheduled (.ofSeconds 2), some 7, later))) ∧
        later.broker.deadLetters = noticeTaken.broker.deadLetters ∧
        later.broker.find? (Session.mail 2).id = noticeTaken.broker.find? (Session.mail 2).id := by
  have inHand : noticeInHand ∈ noticeTaken.held := by decide
  obtain ⟨ends, -⟩ := @Dispatcher.process_reports _ (fun _ _ _ _ => True) () ()
    [⟨(TaskPayload.notification oddNotice).call, none⟩] (.wired (.ofSeconds 5)) 0 noticeInHand
    ⟨noticeTaken.broker, ⟨[7], false⟩⟩ .default 0 noticeTaken leads_noticeTaken inHand rfl
  obtain ⟨settlement, woken, later, processed, reports⟩ := ends _ (notice_dispatched none)
  have again : RetryPolicy.default.TriesAgain noticeInHand
      (.handler (.ofStore (.timeout (.ofSeconds 5)))) := by decide
  have delay : RetryPolicy.default.nextDelay noticeInHand.attempt = .ofSeconds 2 := by
    decide +kernel
  have retried : settlement = .retryScheduled (.ofSeconds 2) :=
    (reports.retried_iff _).2 ⟨_, rfl, again, delay.symm⟩
  subst retried
  have rung : woken = some 7 := congrArg Prod.fst reports.bell_eq
  subst rung
  exact ⟨leads_noticeTaken, inHand, later, processed,
    (reports.reschedules _ _ rfl rfl).deadLetters_eq, reports.spares.find?_eq _ (by decide)⟩

end ReminderDispatch
