import ReminderDispatch.Broker.Exchange
import ReminderDispatch.Proofs.Broker.Soundness

/-!
# Looks, step by step

A look for work takes several steps, and others may do anything between two of them. A consumer
first begins to listen for the bell, then waits for its turn at the broker, then looks. If there is
nothing to take it rests until the bell rings for it or its alarm goes off; otherwise it goes, and
listens until it has gone. Publishing a task, failing at one and closing the broker take two steps
each: the broker changes first, and the bell rings after that.

A lobby is a broker in use with the consumers that are in the middle of a look, its guests. Each
guest hears the bell for itself: a ring reaches the guest that has listened longest, which may learn
of it much later. A guest that was reached and no longer needs the ring passes it on when it goes;
a guest that has heard it and has gone on to its next look does not.
-/

namespace ReminderDispatch

/-- What a guest that listens for the bell has yet to learn. -/
inductive Ear where
  /-- The bell has not rung for the guest. -/
  | listening
  /-- The bell has rung once, and the ring was for this guest. -/
  | called
  /-- The bell has rung for all. -/
  | summoned
  /-- A ring was left over when the guest began to listen, and is used up. -/
  | prompted
  deriving DecidableEq, Repr

/-- How far a guest has come with its look. -/
inductive LookStage where
  /-- The guest is about to begin. -/
  | entering
  /-- The guest listens, and waits for its turn to look. -/
  | queueing (ear : Ear)
  /-- The guest has found nothing; it rests, with an alarm at the given time. -/
  | resting (ear : Ear) (alarm : Option Moment)
  /-- The guest has a task or has found the broker closed, and has yet to leave the bell. -/
  | leaving (ear : Ear)
  deriving DecidableEq, Repr

/-- A consumer that waits for a task. -/
structure Guest where
  /-- The number of the guest. -/
  number : Nat
  /-- How far it has come. -/
  stage : LookStage
  /-- It has looked before and found nothing. -/
  again : Bool
  deriving DecidableEq, Repr

namespace Guest

/-- What the guest has yet to learn, if it is at the bell. -/
def ear? (guest : Guest) : Option Ear :=
  match guest.stage with
  | .entering => none
  | .queueing ear | .resting ear _ | .leaving ear => some ear

/-- The guest is at the bell, which has not rung for it. -/
def listens (guest : Guest) : Bool := guest.ear? = some .listening

/-- The bell has rung for this guest, which has yet to learn of it. -/
def isCalled (guest : Guest) : Bool := guest.ear? = some .called

/-- The guest waits for its turn to look. -/
def queues (guest : Guest) : Bool :=
  match guest.stage with
  | .queueing _ => true
  | .entering | .resting _ _ | .leaving _ => false

/-- The guest has found nothing and waits for the bell or its alarm. -/
def rests (guest : Guest) : Bool :=
  match guest.stage with
  | .resting _ _ => true
  | .entering | .queueing _ | .leaving _ => false

/-- The guest is done, and has yet to leave the bell. -/
def leaves (guest : Guest) : Bool :=
  match guest.stage with
  | .leaving _ => true
  | .entering | .queueing _ | .resting _ _ => false

/-- The alarm of the guest, if it rests and has one. -/
def alarm? (guest : Guest) : Option Moment :=
  match guest.stage with
  | .resting _ alarm => alarm
  | .entering | .queueing _ | .leaving _ => none

/-- The bell has rung, and the guest learns of it when it is awake. -/
def hears (guest : Guest) (ear : Ear) : Guest :=
  match guest.stage with
  | .entering => guest
  | .queueing _ => { guest with stage := .queueing ear }
  | .resting _ alarm => { guest with stage := .resting ear alarm }
  | .leaving _ => { guest with stage := .leaving ear }

/-- The guest begins to listen. -/
def queue (guest : Guest) (ear : Ear) : Guest := { guest with stage := .queueing ear }

/-- The guest has looked and found nothing. -/
def rest (guest : Guest) (alarm : Option Moment) : Guest :=
  match guest.stage with
  | .entering | .leaving _ => guest
  | .queueing ear | .resting ear _ => { guest with stage := .resting ear alarm, again := true }

/-- The guest has looked and is done. -/
def leave (guest : Guest) : Guest :=
  match guest.stage with
  | .entering | .leaving _ => guest
  | .queueing ear | .resting ear _ => { guest with stage := .leaving ear }

/-- The guest is awake and begins anew. -/
def rise (guest : Guest) : Guest := { guest with stage := .entering, again := true }

/-- The guest was woken or its alarm has gone off, and it has not looked since; or it is done, and a
ring that was for it is still to be passed on. -/
def Stirs (guest : Guest) (now : Moment) : Prop :=
  match guest.stage with
  | .entering => guest.again = true
  | .queueing ear => guest.again = true ∨ ear ≠ .listening
  | .resting ear alarm => ear ≠ .listening ∨ ∃ time ∈ alarm, time ≤ now
  | .leaving ear => ear = .called

instance (guest : Guest) (now : Moment) : Decidable (guest.Stirs now) :=
  match guest with
  | ⟨_, .entering, again⟩ => inferInstanceAs (Decidable (again = true))
  | ⟨_, .queueing ear, again⟩ => inferInstanceAs (Decidable (again = true ∨ ear ≠ .listening))
  | ⟨_, .resting ear alarm, _⟩ =>
    inferInstanceAs (Decidable (ear ≠ .listening ∨ ∃ time ∈ alarm, time ≤ now))
  | ⟨_, .leaving ear, _⟩ => inferInstanceAs (Decidable (ear = .called))

end Guest

/-- The first element that passes a test is changed. -/
def changeFirst {α : Type} (test : α → Bool) (change : α → α) : List α → List α
  | [] => []
  | first :: more =>
    if test first then change first :: more else first :: changeFirst test change more

/-- A broker in use, with its guests. -/
structure Lobby where
  /-- The broker in use. -/
  session : Session
  /-- The guests. Those that listen stand in the order in which they began to. -/
  guests : List Guest
  /-- A ring is left over. -/
  leftover : Bool
  /-- How often the bell is yet to ring for tasks that have come. -/
  rings : Nat
  /-- How often the bell is yet to ring for all. -/
  closings : Nat
  deriving DecidableEq, Repr

/-- What can happen in a lobby. -/
inductive Act where
  /-- Something other than work is asked of the broker. -/
  | ask (request : Request)
  /-- The bell rings for a task that has come. -/
  | ring
  /-- The bell rings for all. -/
  | ringAll
  /-- A guest comes. -/
  | join (number : Nat)
  /-- A guest begins to listen. -/
  | register (number : Nat)
  /-- A guest has its turn at the broker and looks. -/
  | check (number : Nat)
  /-- A guest that rests learns of the bell. -/
  | hear (number : Nat)
  /-- The alarm of a guest goes off. -/
  | alarm (number : Nat)
  /-- A guest that is done leaves the bell. -/
  | leave (number : Nat)
  /-- A guest is cancelled. -/
  | cancel (number : Nat)
  deriving DecidableEq, Repr

/-- How many rings are due for a request. -/
def Session.rings (session : Session) : Request → Nat
  | .publish envelope =>
    match (session.broker.publish session.now envelope).1 with
    | .ok () => 1
    | .error _ => 0
  | .fail delivery error kind =>
    match session.broker.fail session.now delivery error kind with
    | .ok (.retryScheduled _, _) => 1
    | .ok (.deadLettered, _) | .error _ => 0
  | .lease | .ack _ | .abandon _ | .close | .advance _ => 0

/-- How many rings for all are due for a request. -/
def Request.closings : Request → Nat
  | .close => 1
  | .publish _ | .lease | .ack _ | .fail _ _ _ | .abandon _ | .advance _ => 0

namespace Lobby

/-- A lobby without tasks and guests. -/
def start (policy : RetryPolicy) (now : Moment) : Lobby := ⟨.start policy now, [], false, 0, 0⟩

/-- The guest of a number. -/
def guest? (lobby : Lobby) (number : Nat) : Option Guest :=
  lobby.guests.find? (·.number == number)

/-- A guest has gone. -/
def without (lobby : Lobby) (guest : Guest) : Lobby :=
  { lobby with guests := lobby.guests.eraseP (·.number == guest.number) }

/-- A guest has changed, in its place. -/
def replace (lobby : Lobby) (guest : Guest) (changed : Guest) : Lobby :=
  { lobby with guests := changeFirst (·.number == guest.number) (fun _ => changed) lobby.guests }

/-- The bell rings once: for the guest that has listened longest, or else for the next to come. -/
def rung (lobby : Lobby) : Lobby :=
  if lobby.guests.any (·.listens) then
    { lobby with guests := changeFirst (·.listens) (·.hears .called) lobby.guests }
  else { lobby with leftover := true }

/-- A guest has left the bell. A ring that was for it, and of which it did not learn, rings again. -/
def passOn (lobby : Lobby) (guest : Guest) : Lobby := if guest.isCalled then lobby.rung else lobby

/-- Something other than work is asked of the broker. -/
def ask (lobby : Lobby) (request : Request) : Lobby :=
  { lobby with
    session := lobby.session.perform request
    rings := lobby.rings + lobby.session.rings request
    closings := lobby.closings + request.closings }

/-- The bell rings for all who listen. -/
def rungForAll (lobby : Lobby) : Lobby :=
  { lobby with
    guests := lobby.guests.map fun guest => if guest.listens then guest.hears .summoned else guest
    closings := lobby.closings - 1 }

/-- A guest begins to listen behind all others. A ring that is left over is used up. -/
def register (lobby : Lobby) (guest : Guest) : Lobby :=
  let ear := if lobby.leftover then .prompted else .listening
  { lobby with
    guests := (lobby.without guest).guests ++ [guest.queue ear]
    leftover := false }

/-- A guest looks. It is done if it has found a task or a closed broker, and rests otherwise. -/
def check (lobby : Lobby) (guest : Guest) : Lobby :=
  let looked := { lobby with session := lobby.session.perform .lease }
  match (lobby.session.broker.lease lobby.session.now).1 with
  | .nothing alarm => looked.replace guest (guest.rest alarm)
  | .closed | .leased _ => looked.replace guest guest.leave

/-- A guest that rests learns of the bell. -/
def hear (lobby : Lobby) (guest : Guest) : Lobby := lobby.replace guest guest.rise

/-- The alarm of a guest goes off. -/
def alarm (lobby : Lobby) (guest : Guest) : Lobby :=
  (lobby.replace guest guest.rise).passOn guest

/-- A guest goes, because it is done or is cancelled. -/
def depart (lobby : Lobby) (guest : Guest) : Lobby := (lobby.without guest).passOn guest

/-- The lobby after an act. -/
def perform (lobby : Lobby) : Act → Lobby
  | .ask request => lobby.ask request
  | .ring => { lobby with rings := lobby.rings - 1 }.rung
  | .ringAll => lobby.rungForAll
  | .join number => { lobby with guests := lobby.guests ++ [⟨number, .entering, false⟩] }
  | .register number => (lobby.guest? number).elim lobby lobby.register
  | .check number => (lobby.guest? number).elim lobby lobby.check
  | .hear number => (lobby.guest? number).elim lobby lobby.hear
  | .alarm number => (lobby.guest? number).elim lobby lobby.alarm
  | .leave number | .cancel number => (lobby.guest? number).elim lobby lobby.depart

/-- Each step of a look has its time. The bell rings only when it is due, a guest that was woken
goes on to its next look before it can be cancelled, a guest that is done cannot be cancelled any
more, and no number is used twice. -/
def Allows (lobby : Lobby) : Act → Prop
  | .ask request => request ≠ .lease ∧ lobby.session.Allows request
  | .ring => 0 < lobby.rings
  | .ringAll => 0 < lobby.closings
  | .join number => lobby.guest? number = none
  | .register number => ∃ guest ∈ lobby.guest? number, guest.stage = .entering
  | .check number => ∃ guest ∈ lobby.guest? number, guest.queues = true
  | .hear number => ∃ guest ∈ lobby.guest? number, guest.rests = true ∧ guest.listens = false
  | .alarm number =>
    ∃ guest ∈ lobby.guest? number, ∃ time ∈ guest.alarm?, time ≤ lobby.session.now
  | .leave number => ∃ guest ∈ lobby.guest? number, guest.leaves = true
  | .cancel number => ∃ guest ∈ lobby.guest? number,
    guest.leaves = false ∧ (guest.stage = .entering → guest.again = false)

instance (lobby : Lobby) (act : Act) : Decidable (lobby.Allows act) :=
  match act with
  | .ask request => inferInstanceAs (Decidable (request ≠ .lease ∧ lobby.session.Allows request))
  | .ring => inferInstanceAs (Decidable (0 < lobby.rings))
  | .ringAll => inferInstanceAs (Decidable (0 < lobby.closings))
  | .join number => inferInstanceAs (Decidable (lobby.guest? number = none))
  | .register number => inferInstanceAs
      (Decidable (∃ guest ∈ lobby.guest? number, guest.stage = .entering))
  | .check number => inferInstanceAs
      (Decidable (∃ guest ∈ lobby.guest? number, guest.queues = true))
  | .hear number => inferInstanceAs
      (Decidable (∃ guest ∈ lobby.guest? number, guest.rests = true ∧ guest.listens = false))
  | .alarm number => inferInstanceAs
      (Decidable (∃ guest ∈ lobby.guest? number, ∃ time ∈ guest.alarm?, time ≤ lobby.session.now))
  | .leave number => inferInstanceAs
      (Decidable (∃ guest ∈ lobby.guest? number, guest.leaves = true))
  | .cancel number => inferInstanceAs
      (Decidable (∃ guest ∈ lobby.guest? number,
        guest.leaves = false ∧ (guest.stage = .entering → guest.again = false)))

/-- Lobbies and what can happen in them. -/
def machine : Machine Lobby Act := ⟨Allows, perform⟩

instance (lobby : Lobby) (act : Act) : Decidable (machine.Allows lobby act) :=
  inferInstanceAs (Decidable (lobby.Allows act))

end Lobby

/-! ## Guests in their places -/

/-- The first element that passes a test stands somewhere; what a change or a removal does to the
list can be seen there. -/
theorem find?_split {α : Type} {test : α → Bool} {items : List α} {item : α}
    (found : items.find? test = some item) :
    ∃ front back, items = front ++ item :: back ∧ test item = true ∧
      (∀ other ∈ front, test other = false) ∧ items.eraseP test = front ++ back ∧
      ∀ change, changeFirst test change items = front ++ change item :: back := by
  induction items with
  | nil => simp at found
  | cons first more ih =>
    by_cases isFirst : test first = true
    · obtain rfl : first = item := by simpa [isFirst] using found
      exact ⟨[], more, rfl, isFirst, by simp, by simp [isFirst], fun change => by
        simp [changeFirst, isFirst]⟩
    · obtain ⟨front, back, rfl, passes, before, erased, changed⟩ := ih (by simpa [isFirst] using found)
      refine ⟨first :: front, back, rfl, passes, ?_, ?_, fun change => ?_⟩
      · simpa [isFirst] using before
      · simpa [isFirst] using erased
      · simpa [changeFirst, isFirst] using changed change

namespace Lobby

variable {lobby before after : Lobby} {guest : Guest} {number : Nat}

/-- Where a guest is. -/
theorem guest?_split (found : lobby.guest? number = some guest) :
    ∃ front back, lobby.guests = front ++ guest :: back ∧ guest.number = number ∧
      lobby.without guest = { lobby with guests := front ++ back } ∧
      ∀ changed, lobby.replace guest changed =
        { lobby with guests := front ++ changed :: back } := by
  obtain ⟨front, back, split, same, -, erased, changed⟩ := find?_split found
  have same : guest.number = number := by simpa using same
  refine ⟨front, back, split, same, ?_, fun next => ?_⟩
  · rw [without, same, erased]
  · rw [replace, same, changed]

/-- Whom a ring reaches: the guest that has listened longest, or nobody if nobody listens. -/
theorem rung_cases (lobby : Lobby) :
    (∃ front guest back, lobby.guests = front ++ guest :: back ∧ guest.listens = true ∧
      (∀ other ∈ front, other.listens = false) ∧
      lobby.rung = { lobby with guests := front ++ guest.hears .called :: back }) ∨
    (∀ guest ∈ lobby.guests, guest.listens = false) ∧
      lobby.rung = { lobby with leftover := true } := by
  cases first : lobby.guests.find? (·.listens) with
  | some guest =>
    obtain ⟨front, back, split, listens, before, -, changed⟩ := find?_split first
    have someone : lobby.guests.any (·.listens) = true :=
      List.any_eq_true.2 ⟨guest, List.mem_of_find?_eq_some first, listens⟩
    exact .inl ⟨front, guest, back, split, listens, before, by rw [rung, if_pos someone, changed]⟩
  | none =>
    have nobody : ∀ guest ∈ lobby.guests, guest.listens = false := by
      simpa [List.find?_eq_none] using first
    have notAny : ¬ lobby.guests.any (·.listens) = true := by
      simpa [List.any_eq_true] using nobody
    exact .inr ⟨nobody, by rw [rung, if_neg notAny]⟩

/-- What each act does to a lobby that allows it. -/
inductive Happens (lobby : Lobby) : Act → Lobby → Prop where
  /-- The broker has done what was asked of it, and the bell is yet to ring. -/
  | ask {request : Request} (other : request ≠ .lease) (allowed : lobby.session.Allows request) :
    Happens lobby (.ask request) (lobby.ask request)
  /-- One ring that was due. -/
  | ring (due : 0 < lobby.rings) : Happens lobby .ring { lobby with rings := lobby.rings - 1 }.rung
  /-- One ring for all that was due. -/
  | ringAll (due : 0 < lobby.closings) : Happens lobby .ringAll lobby.rungForAll
  /-- A guest that has not been here before. -/
  | join {number : Nat} (isNew : lobby.guest? number = none) : Happens lobby (.join number)
      { lobby with guests := lobby.guests ++ [⟨number, .entering, false⟩] }
  /-- The guest stands behind all others. -/
  | register {front back : List Guest} {guest : Guest}
    (split : lobby.guests = front ++ guest :: back) (enters : guest.stage = .entering) :
    Happens lobby (.register guest.number) { lobby with
      guests := front ++ back ++ [guest.queue (if lobby.leftover then .prompted else .listening)]
      leftover := false }
  /-- The guest rests in its place. -/
  | rest {front back : List Guest} {guest : Guest} {alarm : Option Moment}
    (split : lobby.guests = front ++ guest :: back) (queues : guest.queues = true)
    (looked : (lobby.session.broker.lease lobby.session.now).1 = .nothing alarm) :
    Happens lobby (.check guest.number) { lobby with
      session := lobby.session.perform .lease
      guests := front ++ guest.rest alarm :: back }
  /-- The guest is done, with a task or because the broker is closed. -/
  | found {front back : List Guest} {guest : Guest}
    (split : lobby.guests = front ++ guest :: back) (queues : guest.queues = true)
    (looked : ∀ alarm, (lobby.session.broker.lease lobby.session.now).1 ≠ .nothing alarm) :
    Happens lobby (.check guest.number) { lobby with
      session := lobby.session.perform .lease
      guests := front ++ guest.leave :: back }
  /-- The guest has learned of its ring. -/
  | hear {front back : List Guest} {guest : Guest} (split : lobby.guests = front ++ guest :: back)
    (rests : guest.rests = true) (rang : guest.listens = false) :
    Happens lobby (.hear guest.number) { lobby with guests := front ++ guest.rise :: back }
  /-- The guest is woken by its alarm. -/
  | alarm {front back : List Guest} {guest : Guest} {time : Moment}
    (split : lobby.guests = front ++ guest :: back) (sets : guest.alarm? = some time)
    (due : time ≤ lobby.session.now) : Happens lobby (.alarm guest.number)
      ({ lobby with guests := front ++ guest.rise :: back }.passOn guest)
  /-- The guest has gone with what it has found. -/
  | leave {front back : List Guest} {guest : Guest} (split : lobby.guests = front ++ guest :: back)
    (leaves : guest.leaves = true) :
    Happens lobby (.leave guest.number) ({ lobby with guests := front ++ back }.passOn guest)
  /-- The guest has gone without looking any more. -/
  | cancel {front back : List Guest} {guest : Guest} (split : lobby.guests = front ++ guest :: back)
    (stays : guest.leaves = false) (canGo : guest.stage = .entering → guest.again = false) :
    Happens lobby (.cancel guest.number) ({ lobby with guests := front ++ back }.passOn guest)

/-- What an act does is one of the things that can happen. -/
theorem happens {act : Act} (allowed : lobby.Allows act) : lobby.Happens act (lobby.perform act) := by
  have one {number : Nat} {guest : Guest} {act : Guest → Lobby}
      (found : lobby.guest? number = some guest) :
      (lobby.guest? number).elim lobby act = act guest := by rw [found, Option.elim_some]
  cases act with
  | ask request => exact .ask allowed.1 allowed.2
  | ring => exact .ring allowed
  | ringAll => exact .ringAll allowed
  | join number => exact .join allowed
  | register number =>
    obtain ⟨guest, found, enters⟩ := allowed
    obtain ⟨front, back, split, rfl, gone, -⟩ := guest?_split found
    have done := Happens.register split enters
    rw [perform, one found, register, gone]
    exact done
  | check number =>
    obtain ⟨guest, found, queues⟩ := allowed
    let after : Lobby := { lobby with session := lobby.session.perform .lease }
    have kept : after.guest? number = some guest := found
    obtain ⟨front, back, placed, rfl, -, changed⟩ := guest?_split kept
    have split : lobby.guests = front ++ guest :: back := placed
    rw [perform, one found, check]
    cases looked : (lobby.session.broker.lease lobby.session.now).1 with
    | nothing alarm =>
      change lobby.Happens _ (after.replace guest (guest.rest alarm))
      rw [changed]
      exact .rest split queues looked
    | closed | leased delivery =>
      change lobby.Happens _ (after.replace guest guest.leave)
      rw [changed]
      exact .found split queues (by simp [looked])
  | hear number =>
    obtain ⟨guest, found, rests, rang⟩ := allowed
    obtain ⟨front, back, split, rfl, -, changed⟩ := guest?_split found
    rw [perform, one found, hear, changed]
    exact .hear split rests rang
  | alarm number =>
    obtain ⟨guest, found, time, sets, due⟩ := allowed
    obtain ⟨front, back, split, rfl, -, changed⟩ := guest?_split found
    rw [perform, one found, alarm, changed]
    exact .alarm split sets due
  | leave number =>
    obtain ⟨guest, found, leaves⟩ := allowed
    obtain ⟨front, back, split, rfl, gone, -⟩ := guest?_split found
    rw [perform, one found, depart, gone]
    exact .leave split leaves
  | cancel number =>
    obtain ⟨guest, found, stays, canGo⟩ := allowed
    obtain ⟨front, back, split, rfl, gone, -⟩ := guest?_split found
    rw [perform, one found, depart, gone]
    exact .cancel split stays canGo

/-! ## Lobbies as sessions -/

/-- A ring concerns no task. -/
theorem session_rung (lobby : Lobby) : lobby.rung.session = lobby.session := by
  unfold rung
  split <;> rfl

/-- A ring that is passed on concerns no task. -/
theorem session_passOn (lobby : Lobby) (guest : Guest) :
    (lobby.passOn guest).session = lobby.session := by
  unfold passOn
  split
  · exact session_rung lobby
  · rfl

/-- An act in a lobby is at most one request in the session. -/
theorem session_step (step : machine.Step before after) : before.session.Leads after.session := by
  obtain ⟨act, allowed, rfl⟩ := step
  change before.session.Leads (before.perform act).session
  generalize result : before.perform act = after
  have happened : before.Happens act after := result ▸ happens allowed
  cases happened with
  | ask other canAsk => exact .single ⟨_, canAsk, rfl⟩
  | rest split queues looked | found split queues looked => exact .single ⟨.lease, trivial, rfl⟩
  | ring due =>
    rw [session_rung]
    exact .refl
  | alarm split sets due | leave split leaves | cancel split stays canGo =>
    rw [session_passOn]
    exact .refl
  | ringAll due | join isNew | register split enters | hear split rests rang => exact .refl

/-- A lobby that begins without tasks and guests is one of a sound session. -/
theorem leads_sound {policy : RetryPolicy} {now : Moment}
    (run : machine.Leads (start policy now) lobby) : lobby.session.Sound := by
  have session : (Session.start policy now).Leads lobby.session := by
    induction run with
    | refl => exact .refl
    | tail _ step earlier => exact earlier.trans (session_step step)
  exact Session.leads_sound session

end Lobby

end ReminderDispatch
