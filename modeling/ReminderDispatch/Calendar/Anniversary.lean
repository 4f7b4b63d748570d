import ReminderDispatch.Calendar.InstantText
import ReminderDispatch.Text.Quoted

/-!
# Anniversaries

An anniversary contributes its month and day. It falls on that day of every year; in a year
without 29 February an anniversary of that day falls on 1 March. A notice goes out some whole days
before the next occurrence.
-/

namespace ReminderDispatch

/-- Why there is no day for a notice. -/
inductive NoticeError where
  /-- The text is not a date. -/
  | invalidDate (text : String)
  /-- The lead is negative. -/
  | invalidLead (days : Int)
  /-- The day lies outside the calendar. -/
  | outOfRange
  deriving DecidableEq, Repr

/-- The error in words. -/
def NoticeError.message : NoticeError → String
  | .invalidDate text => "invalid anniversary date " ++ Text.quote text ++ ": use YYYY-MM-DD"
  | .invalidLead days => "lead days must not be negative, got " ++ Text.decimalInt days
  | .outOfRange => "notify date is outside the supported calendar range"

namespace Anniversary

/-- The day of a year on which the anniversary falls. -/
def dateInYear (anniversary : Date) (year : Int) : Except NoticeError Date :=
  match Date.of? year anniversary.month anniversary.day with
  | some date => .ok date
  | none =>
    match Date.of? year 3 1 with
    | some date => .ok date
    | none => .error .outOfRange

/-- The first day from `now` on, `now` included, on which the anniversary falls. -/
def nextOccurrence (anniversary now : Date) : Except NoticeError Date := do
  let thisYear ← dateInYear anniversary now.year
  if thisYear < now then dateInYear anniversary (now.year + 1) else .ok thisYear

/-- The anniversary falls on the day. -/
def fallsOn (anniversary today : Date) : Bool :=
  match nextOccurrence anniversary today with
  | .ok next => next = today
  | .error _ => false

/-- The beginning of the day that lies `leadDays` before the next occurrence. -/
def noticeFor (anniversary : Date) (leadDays : Int) (now : Date) : Except NoticeError Instant :=
  if leadDays < 0 then .error (.invalidLead leadDays)
  else do
    let next ← nextOccurrence anniversary now
    match next.addDays? (-leadDays) with
    | some day => .ok (.midnight day)
    | none => .error .outOfRange

/-- The notice for the anniversary that a text names. -/
def noticeForText (anniversary : String) (leadDays : Int) (now : Date) :
    Except NoticeError Instant :=
  match Date.ofText? anniversary with
  | some date => noticeFor date leadDays now
  | none => .error (.invalidDate anniversary)

end Anniversary

end ReminderDispatch
