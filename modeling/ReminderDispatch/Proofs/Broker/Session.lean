import ReminderDispatch.Proofs.Broker.Deliveries
import ReminderDispatch.Proofs.Machine

/-!
# Sessions of a broker

A session is a broker in use: the time, the deliveries in the hands of consumers and what has
happened so far. Requests come in any order and number. A task is published under an identifier that
was not used before, and only a delivery in hand can be given back; nothing else is asked of those
who use the broker.
-/

namespace ReminderDispatch

/-- What has happened to a task. -/
inductive Event where
  /-- The task was accepted. -/
  | accepted (envelope : Envelope)
  /-- The task was handed out. -/
  | leased (delivery : Delivery)
  /-- The task was acknowledged. -/
  | acked (delivery : Delivery)
  /-- An attempt failed, and the broker decided what becomes of the task. -/
  | failed (delivery : Delivery) (error : String) (kind : FailureKind) (verdict : Verdict)
  deriving DecidableEq, Repr

namespace Event

/-- The task to which the event happened, as it was seen then. -/
def envelope : Event → Envelope
  | accepted envelope => envelope
  | leased delivery | acked delivery | failed delivery _ _ _ => delivery.envelope

/-- The task that was accepted, if that is what happened. -/
def accepted? : Event → Option Envelope
  | accepted envelope => some envelope
  | leased _ | acked _ | failed _ _ _ _ => none

/-- The task that was acknowledged, if that is what happened. -/
def acked? : Event → Option Envelope
  | acked delivery => some delivery.envelope
  | accepted _ | leased _ | failed _ _ _ _ => none

end Event

/-- What is asked of a broker. -/
inductive Request where
  /-- Publish a task. -/
  | publish (envelope : Envelope)
  /-- Look for work. -/
  | lease
  /-- The task of a delivery is done. -/
  | ack (delivery : Delivery)
  /-- The attempt of a delivery failed. -/
  | fail (delivery : Delivery) (error : String) (kind : FailureKind)
  /-- Throw a delivery away. -/
  | abandon (delivery : Delivery)
  /-- Close the broker. -/
  | close
  /-- Let time pass. -/
  | advance (span : Duration)
  deriving DecidableEq, Repr

/-- A broker in use. -/
structure Session where
  /-- The broker. -/
  broker : Broker
  /-- The time. -/
  now : Moment
  /-- The deliveries in the hands of consumers. -/
  held : List Delivery
  /-- What has happened, in order. -/
  history : List Event
  deriving DecidableEq, Repr

namespace Session

/-- A session begins with a broker without tasks. -/
def start (policy : RetryPolicy) (now : Moment) : Session := ⟨.new policy, now, [], []⟩

/-- The tasks that were accepted, in order. -/
def accepted (session : Session) : List Envelope := session.history.filterMap (·.accepted?)

/-- The tasks that were acknowledged, in order. -/
def acked (session : Session) : List Envelope := session.history.filterMap (·.acked?)

/-- The tasks that were given up, in order. -/
def dead (session : Session) : List Envelope := session.broker.deadLetters.map (·.envelope)

/-- Something happened. -/
def record (session : Session) (event : Event) : Session :=
  { session with history := session.history ++ [event] }

/-- A delivery is no longer in hand. -/
def giveBack (session : Session) (delivery : Delivery) : Session :=
  { session with held := session.held.erase delivery }

/-- The session after a request. -/
def perform (session : Session) : Request → Session
  | .publish envelope =>
    match session.broker.publish session.now envelope with
    | (.ok (), broker) => { session with broker := broker }.record (.accepted envelope)
    | (.error _, broker) => { session with broker := broker }
  | .lease =>
    match session.broker.lease session.now with
    | (.leased delivery, broker) =>
      { session with broker := broker, held := session.held ++ [delivery] }.record
        (.leased delivery)
    | (.nothing _, broker) | (.closed, broker) => { session with broker := broker }
  | .ack delivery =>
    match session.broker.ack delivery with
    | .ok broker => ({ session with broker := broker }.giveBack delivery).record (.acked delivery)
    | .error _ => session.giveBack delivery
  | .fail delivery error kind =>
    match session.broker.fail session.now delivery error kind with
    | .ok (verdict, broker) =>
      ({ session with broker := broker }.giveBack delivery).record
        (.failed delivery error kind verdict)
    | .error _ => session.giveBack delivery
  | .abandon delivery => session.giveBack delivery
  | .close => { session with broker := session.broker.close }
  | .advance span => { session with now := session.now + span.nanos }

/-- Identifiers are not used twice, and only a delivery in hand is given back. -/
def Allows (session : Session) : Request → Prop
  | .publish envelope => envelope.id ∉ session.accepted.map (·.id)
  | .ack delivery | .fail delivery _ _ | .abandon delivery => delivery ∈ session.held
  | .lease | .close | .advance _ => True

instance (session : Session) (request : Request) : Decidable (session.Allows request) :=
  match request with
  | .publish envelope => inferInstanceAs (Decidable (envelope.id ∉ session.accepted.map (·.id)))
  | .ack delivery | .fail delivery _ _ | .abandon delivery =>
    inferInstanceAs (Decidable (delivery ∈ session.held))
  | .lease | .close | .advance _ => .isTrue trivial

/-- Sessions and the requests to their brokers. -/
def machine : Machine Session Request := ⟨Allows, perform⟩

instance (session : Session) (request : Request) : Decidable (machine.Allows session request) :=
  inferInstanceAs (Decidable (session.Allows request))

/-- A session after one request that it allows. -/
def Step (before after : Session) : Prop := machine.Step before after

/-- A session after any number of requests. -/
def Leads (before after : Session) : Prop := machine.Leads before after

/-- The session after a list of requests. -/
def run (session : Session) (requests : List Request) : Session := machine.run session requests

/-- A task to mail something, under a number. -/
def mail (number : Nat) : Envelope := ⟨.ofNat number, ⟨"mail:deliver"⟩, [], .midnight .epoch⟩

/-- Two tasks are published, and the first attempt of the first one fails. -/
def failedOnce : List Request :=
  [.publish (mail 1), .publish (mail 2), .lease, .fail ⟨mail 1, 1⟩ "refused" .transient]

end Session

end ReminderDispatch
