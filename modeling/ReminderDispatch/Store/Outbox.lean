import ReminderDispatch.Task.Payload

/-!
# Outbox

A mail transport that records mails in place of sending them. It may know only some templates.
-/

namespace ReminderDispatch

/-- The mails that were handed over. -/
structure Outbox where
  /-- The known templates; without a list, any template is known. -/
  templates : Option (List String)
  /-- The mails, in order. -/
  sent : List EmailDelivery
  deriving DecidableEq, Repr

namespace Outbox

/-- An outbox without mails. -/
def new (templates : Option (List String)) : Outbox := ⟨templates, []⟩

/-- The template is known. -/
def knows (outbox : Outbox) (template : String) : Bool :=
  match outbox.templates with
  | none => true
  | some templates => templates.contains template

/-- Hand over a mail. The outcome stands beside the outbox as the call has left it. -/
def send (outbox : Outbox) (mail : EmailDelivery) : Except TransportError Unit × Outbox :=
  if outbox.knows mail.template then (.ok (), { outbox with sent := outbox.sent ++ [mail] })
  else (.error (.unknownTemplate mail.template), outbox)

end Outbox

end ReminderDispatch
