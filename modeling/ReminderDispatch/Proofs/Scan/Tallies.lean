import ReminderDispatch.Proofs.Dialogue
import ReminderDispatch.Scan.Tick

/-!
# Tallies of dialogues

What was said in a dialogue, counted: publications that were accepted or not, and marks that
succeeded or not. All that the report of a scan says about calls can be read off these four counts,
and the reports on two parts of a scan add up as their dialogues do.
-/

namespace ReminderDispatch

namespace Call

/-- The call publishes a task. -/
def isPublication : Call → Bool
  | .publish _ _ => true
  | _ => false

/-- The call is a query for due items. -/
def isQuery : Call → Bool
  | .dueReminders _ | .dueBirthdays _ => true
  | _ => false

/-- The call marks a reminder. -/
def isMark : Call → Bool
  | .mark _ => true
  | _ => false

end Call

namespace Scanner

variable {said front back : List Answered}

/-- How many publications were accepted. -/
def acceptedIn (said : List Answered) : Nat :=
  said.countP fun answered => answered.call.isPublication && answered.isOk

/-- How many publications were not accepted. -/
def refusedIn (said : List Answered) : Nat :=
  said.countP fun answered => answered.call.isPublication && !answered.isOk

/-- How many marks succeeded. -/
def markedIn (said : List Answered) : Nat :=
  said.countP fun answered => answered.call.isMark && answered.isOk

/-- How many marks failed. -/
def unmarkedIn (said : List Answered) : Nat :=
  said.countP fun answered => answered.call.isMark && !answered.isOk

@[simp] theorem acceptedIn_append :
    acceptedIn (front ++ back) = acceptedIn front + acceptedIn back :=
  List.countP_append

@[simp] theorem refusedIn_append : refusedIn (front ++ back) = refusedIn front + refusedIn back :=
  List.countP_append

@[simp] theorem markedIn_append : markedIn (front ++ back) = markedIn front + markedIn back :=
  List.countP_append

@[simp] theorem unmarkedIn_append :
    unmarkedIn (front ++ back) = unmarkedIn front + unmarkedIn back :=
  List.countP_append

/-- Among publications, all that are counted are publications. -/
theorem counts_of_publications
    (publications : ∀ answered ∈ said, answered.call.isPublication = true) :
    acceptedIn said = said.countP (·.isOk) ∧ refusedIn said = said.countP (!·.isOk) ∧
      markedIn said = 0 ∧ unmarkedIn said = 0 := by
  have noMark : ∀ answered ∈ said, answered.call.isMark = false := by
    intro answered member
    have isPublication := publications answered member
    cases call : answered.call with
    | publish type body => rfl
    | _ => simp [call, Call.isPublication] at isPublication
  refine ⟨?_, ?_, ?_, ?_⟩
  · exact List.countP_congr fun answered member => by simp [publications answered member]
  · exact List.countP_congr fun answered member => by simp [publications answered member]
  · exact List.countP_eq_zero.2 fun answered member => by simp [noMark answered member]
  · exact List.countP_eq_zero.2 fun answered member => by simp [noMark answered member]

/-- A query is neither a publication nor a mark. -/
theorem counts_query (query : Answered) (said : List Answered)
    (noPublication : query.call.isPublication = false) (noMark : query.call.isMark = false) :
    acceptedIn (query :: said) = acceptedIn said ∧ refusedIn (query :: said) = refusedIn said ∧
      markedIn (query :: said) = markedIn said ∧ unmarkedIn (query :: said) = unmarkedIn said := by
  simp [acceptedIn, refusedIn, markedIn, unmarkedIn, noPublication, noMark]

end Scanner

namespace ScanReport

variable {skipped dropped : Nat} {said : List Answered}

open Scanner

/-- The report on a part of a scan in which something was said, birthdays were skipped, and items
were dropped since no tasks can be made from them. -/
def counting (skipped dropped : Nat) (said : List Answered) : ScanReport where
  dueReminders := 0
  dueBirthdays := 0
  enqueued := acceptedIn said
  failed := refusedIn said + unmarkedIn said + dropped
  marked := markedIn said
  skippedBirthdays := skipped

/-- Reports are added part by part. -/
theorem add_eq (first second : ScanReport) : first + second =
    ⟨first.dueReminders + second.dueReminders, first.dueBirthdays + second.dueBirthdays,
      first.enqueued + second.enqueued, first.failed + second.failed,
      first.marked + second.marked, first.skippedBirthdays + second.skippedBirthdays⟩ := rfl

/-- The report on two parts of a scan counts what was said, skipped and dropped in both. -/
theorem counting_add (skipped dropped moreSkipped moreDropped : Nat) (front back : List Answered) :
    counting skipped dropped front + counting moreSkipped moreDropped back =
      counting (skipped + moreSkipped) (dropped + moreDropped) (front ++ back) := by
  simp only [add_eq, counting, acceptedIn_append, refusedIn_append, markedIn_append,
    unmarkedIn_append, mk.injEq, true_and, and_true]
  omega

/-- One thing that failed is an item that was dropped. -/
theorem oneFailed_eq_counting : oneFailed = counting 0 1 [] := rfl

/-- A query does not count. -/
theorem counting_query (skipped dropped : Nat) {query : Answered} (said : List Answered)
    (noPublication : query.call.isPublication = false) (noMark : query.call.isMark = false) :
    counting skipped dropped (query :: said) = counting skipped dropped said := by
  obtain ⟨accepted, refused, marked, unmarked⟩ :=
    counts_query query said noPublication noMark
  rw [counting, accepted, refused, marked, unmarked]
  rfl

/-- The number of due reminders comes to the report on what was done about them. -/
theorem dueReminders_add (number skipped dropped : Nat) (said : List Answered) :
    { none with dueReminders := number } + counting skipped dropped said =
      { counting skipped dropped said with dueReminders := number } := by
  simp [add_eq, none, counting]

/-- The number of birthdays comes to the report on what was done about them. -/
theorem dueBirthdays_add (number skipped dropped : Nat) (said : List Answered) :
    { none with dueBirthdays := number } + counting skipped dropped said =
      { counting skipped dropped said with dueBirthdays := number } := by
  simp [add_eq, none, counting]

end ScanReport

end ReminderDispatch
