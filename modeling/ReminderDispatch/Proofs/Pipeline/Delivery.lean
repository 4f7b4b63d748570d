import Mathlib.Data.List.Perm.Basic
import ReminderDispatch.Proofs.Broker.Conservation
import ReminderDispatch.Proofs.Pipeline.Accounting

/-!
# Delivery from end to end

After the first scan of a store, any number of workers who take turns in any order deliver what is
due, once each and nothing else, by the time at which the broker is drained. As long as there is a
worker, the broker can be drained from wherever the work stands: unless so much is due that the
notifications cannot be numbered.
-/

namespace ReminderDispatch

open scoped List

variable {limit : Duration} {expected : List TaskPayload} {shop later : Workshop} {number : Nat}
  {worker : Workman} {delivery : Delivery}

/-! ## Runs of a workshop -/

/-- All work of the shop is accounted for. -/
def Workshop.IsAccounted (limit : Duration) (expected : List TaskPayload)
    (shop : Workshop) : Prop :=
  Accounted limit expected shop.shared shop.workers

namespace Workshop

/-- In a turn all work stays accounted for. -/
theorem IsAccounted.takeTurn (accounted : shop.IsAccounted limit expected) (number : Nat)
    (reading : Reading) : (shop.takeTurn number reading).IsAccounted limit expected := by
  cases found : shop.workers[number]? with
  | none =>
    unfold Workshop.takeTurn
    rw [found]
    exact accounted
  | some worker =>
    rw [takeTurn_eq found reading]
    have first := (accounted.perm (perm_cons_eraseIdx found)).turn reading number
    exact first.perm (set_perm_cons_eraseIdx found _).symm

/-- However the workers take turns, all work stays accounted for. -/
theorem IsAccounted.leads (accounted : shop.IsAccounted limit expected)
    (leads : machine.Leads shop later) : later.IsAccounted limit expected := by
  induction leads with
  | refl => exact accounted
  | tail _ step ih =>
    obtain ⟨turn, -, rfl⟩ := step
    exact ih.takeTurn turn.number turn.reading

/-- The number of workers stays the same. -/
theorem length_takeTurn (shop : Workshop) (number : Nat) (reading : Reading) :
    (shop.takeTurn number reading).workers.length = shop.workers.length := by
  cases found : shop.workers[number]? with
  | none =>
    unfold takeTurn
    rw [found]
  | some worker =>
    rw [takeTurn_eq found reading]
    exact List.length_set

theorem length_leads (leads : machine.Leads shop later) :
    later.workers.length = shop.workers.length := by
  induction leads with
  | refl => rfl
  | tail _ step ih =>
    obtain ⟨turn, -, rfl⟩ := step
    exact (length_takeTurn _ turn.number turn.reading).trans ih

/-- A shop is drained when the broker holds no task. -/
theorem isDrained_iff : shop.IsDrained ↔ shop.shared.exchange.broker.envelopes = [] := by
  rw [← List.length_eq_zero_iff, ← Broker.counts_held]
  unfold IsDrained
  omega

/-- In a drained shop everything expected has taken effect, and every task was acknowledged. -/
theorem IsAccounted.drained (accounted : shop.IsAccounted limit expected)
    (drained : shop.IsDrained) :
    shop.shared.performed ~ expected ∧ shop.shared.exchange.broker.succeeded = expected.length := by
  rw [isDrained_iff] at drained
  have idle : shop.workers.filterMap (·.finishedWork?) = [] := by
    rw [List.filterMap_eq_nil_iff]
    intro worker member
    cases done : worker.finishedWork? with
    | none => rfl
    | some work =>
      obtain ⟨delivery, finished, -⟩ := Option.bind_eq_some_iff.1 done
      obtain ⟨⟨record, found, -⟩, -⟩ :=
        accounted.inHand member (Workman.inHand?_of_finished? finished)
      have stored : record.envelope ∈ shop.shared.exchange.broker.envelopes :=
        List.mem_map_of_mem (Broker.find?_mem found)
      rw [drained] at stored
      exact absurd stored List.not_mem_nil
  have places := accounted.places
  have succeeded := accounted.succeeded_eq
  rw [drained, idle, List.filterMap_nil, List.append_nil, List.append_nil] at places
  rw [drained, List.length_nil, Nat.add_zero] at succeeded
  exact ⟨places, succeeded⟩

/-! ## Progress -/

/-- No worker breaks off if all expected notifications can be numbered. -/
theorem IsAccounted.steady (accounted : shop.IsAccounted limit expected)
    (few : (expected.filterMap (·.notification?)).length < twoTo 63) : .crashed ∉ shop.workers :=
  fun brokeOff => absurd few (Nat.not_lt.2 (accounted.exhausted brokeOff))

/-- How many tasks the broker holds. -/
def left (shop : Workshop) : Nat := shop.shared.exchange.broker.envelopes.length

/-- A worker who has done a task reports it, and the broker holds one task less. -/
theorem IsAccounted.report_leads (accounted : shop.IsAccounted limit expected)
    (found : shop.workers[number]? = some (.working delivery (.done (.ok ()))))
    (reading : Reading) :
    ∃ later, machine.Leads shop later ∧ later.left + 1 = shop.left := by
  refine ⟨_, leads_takeTurn found reading, ?_⟩
  have member := List.mem_of_getElem? found
  obtain ⟨⟨record, isStored, -⟩, -⟩ := accounted.inHand member rfl
  rw [takeTurn_eq found reading, Workman.turn_finished isStored]
  have taken := Broker.envelopes_drop_perm accounted.serving.distinct isStored
  exact (taken.length_eq.trans (List.length_cons)).symm

/-- A worker with a task in hand does it and reports it. -/
theorem IsAccounted.work_leads (accounted : shop.IsAccounted limit expected)
    (few : (expected.filterMap (·.notification?)).length < twoTo 63)
    (found : shop.workers[number]? = some (.begun limit delivery)) (reading : Reading) :
    ∃ later, machine.Leads shop later ∧ later.left + 1 = shop.left := by
  have member := List.mem_of_getElem? found
  obtain ⟨-, work, carries, doable⟩ := accounted.inHand member rfl
  have next := getElem?_takeTurn found reading
  have steady := (accounted.takeTurn number reading).steady few
  rcases Workman.turn_begun accounted.known carries doable reading number with
    ⟨after, done, performed⟩ | ⟨ended, -⟩
  · rw [done] at next
    obtain ⟨later, leads, less⟩ :=
      (accounted.takeTurn number reading).report_leads next reading
    refine ⟨later, (leads_takeTurn found reading).trans leads, less.trans ?_⟩
    unfold left
    rw [takeTurn_eq found reading, done, performed.exchange_eq]
  · -- The worker would have broken off, but all expected notifications can be numbered.
    rw [ended] at next
    exact absurd (List.mem_of_getElem? next) steady

/-- An idle worker takes a task while there is one in line, does it and reports it. -/
theorem IsAccounted.take_leads (accounted : shop.IsAccounted limit expected)
    (few : (expected.filterMap (·.notification?)).length < twoTo 63)
    (found : shop.workers[number]? = some worker) (idle : worker.IsIdle)
    (waiting : shop.shared.exchange.broker.ready ≠ []) (reading : Reading) :
    ∃ later, machine.Leads shop later ∧ later.left + 1 = shop.left := by
  rcases worker.turn_idle idle accounted.serving.toConsistent accounted.isOpen
      accounted.unscheduled accounted.wired reading number with
    ⟨empty, -⟩ | ⟨id, line, record, bell, -, -, looked⟩
  · contradiction
  · have next := getElem?_takeTurn found reading
    rw [looked] at next
    obtain ⟨later, leads, less⟩ :=
      (accounted.takeTurn number reading).work_leads few next reading
    refine ⟨later, (leads_takeTurn found reading).trans leads, less.trans ?_⟩
    unfold left
    rw [takeTurn_eq found reading, looked, Broker.envelopes_startFirst]

/-- When no worker has a task in hand, the tasks that the broker holds are in line. -/
theorem IsAccounted.ready_ne_nil (accounted : shop.IsAccounted limit expected)
    (steady : .crashed ∉ shop.workers) (idle : shop.workers.filterMap (·.inHand?) = []) (busy : shop.left ≠ 0) :
    shop.shared.exchange.broker.ready ≠ [] := by
  obtain ⟨envelope, member⟩ := List.exists_mem_of_length_pos (Nat.pos_of_ne_zero busy)
  have isKnown : envelope.id ∈ shop.shared.exchange.broker.taskIds := List.mem_map_of_mem member
  have isFound := mt Broker.find?_eq_none_iff.1 (not_not_intro isKnown)
  obtain ⟨record, found⟩ := Option.ne_none_iff_exists'.1 isFound
  have agree := accounted.serving.agree
  have queued : record.state = .queued := by
    cases state : record.state with
    | queued => rfl
    | running =>
      have inHand := accounted.attended steady envelope.id record found state
      rw [idle] at inHand
      exact absurd inHand List.not_mem_nil
    | retryScheduled =>
      have waits := (agree.mem_scheduled envelope.id).2 (by rw [found, Option.map_some, state])
      rw [accounted.unscheduled] at waits
      exact absurd waits List.not_mem_nil
  have inLine := (agree.mem_ready envelope.id).2 (by rw [found, Option.map_some, queued])
  exact List.ne_nil_of_mem inLine

/-- While the broker holds a task, the workers can finish one. -/
theorem IsAccounted.finishes_one (accounted : shop.IsAccounted limit expected)
    (few : (expected.filterMap (·.notification?)).length < twoTo 63)
    (staffed : shop.workers ≠ []) (busy : shop.left ≠ 0) (reading : Reading) :
    ∃ later, machine.Leads shop later ∧ later.left + 1 = shop.left := by
  have steady := accounted.steady few
  by_cases empty : shop.workers.filterMap (·.inHand?) = []
  · -- Nobody has a task in hand: the first worker takes one.
    obtain ⟨worker, more, workers⟩ := List.exists_cons_of_ne_nil staffed
    have member : worker ∈ shop.workers := workers ▸ List.mem_cons_self
    have found : shop.workers[0]? = some worker := by
      rw [workers]
      rfl
    have idle := (accounted.onDuty worker member).isIdle
      (List.filterMap_eq_nil_iff.1 empty worker member) (ne_of_mem_of_not_mem member steady)
    exact accounted.take_leads few found idle (accounted.ready_ne_nil steady empty busy) reading
  · obtain ⟨delivery, inHand⟩ := List.exists_mem_of_ne_nil _ empty
    obtain ⟨worker, member, holds⟩ := List.mem_filterMap.1 inHand
    obtain ⟨number, found⟩ := List.mem_iff_getElem?.1 member
    cases accounted.onDuty worker member with
    | free => cases holds
    | listening alarm => cases holds
    | begun delivery => exact accounted.work_leads few found reading
    | finished delivery => exact accounted.report_leads found reading
    | crashed => cases holds

/-- Wherever the work stands, the workers can drain the broker. -/
theorem IsAccounted.drains (accounted : shop.IsAccounted limit expected)
    (few : (expected.filterMap (·.notification?)).length < twoTo 63)
    (staffed : shop.workers ≠ []) (reading : Reading) :
    ∃ later, machine.Leads shop later ∧ later.IsDrained := by
  induction count : shop.left generalizing shop with
  | zero => exact ⟨shop, .refl, isDrained_iff.2 (List.length_eq_zero_iff.1 count)⟩
  | succ tasks ih =>
    obtain ⟨next, first, less⟩ := accounted.finishes_one few staffed (by omega) reading
    have stillStaffed : next.workers ≠ [] := by
      rw [← List.length_pos_iff, length_leads first, List.length_pos_iff]
      exact staffed
    obtain ⟨later, rest, drained⟩ := ih (accounted.leads first) stillStaffed (by omega)
    exact ⟨later, first.trans rest, drained⟩

end Workshop

/-! ## From the scan to the last delivery -/

/-- A workshop opens with the work that a scan has published. -/
theorem Collaborators.Stocked.opened {now : Collaborators} {policy : RetryPolicy}
    {store : ReminderStore} {works : List TaskPayload}
    (stocked : Stocked { fresh policy limit with reminders := store } works now)
    (doable : ∀ work ∈ works, work.IsDoable) (workers : Nat) :
    (Workshop.opened now workers).IsAccounted limit works := by
  have held : (Workshop.opened now workers).workers.filterMap (·.inHand?) = [] :=
    List.filterMap_replicate_of_none rfl
  have finished : (Workshop.opened now workers).workers.filterMap (·.finishedWork?) = [] :=
    List.filterMap_replicate_of_none rfl
  have carried : now.exchange.broker.envelopes.filterMap (·.work?) = works := by
    have read := congrArg (List.filterMap id) stocked.carries
    rwa [List.filterMap_map, List.filterMap_map, Function.id_comp, Function.id_comp,
      List.filterMap_some] at read
  have counted : now.exchange.broker.envelopes.length = works.length := by
    simpa only [List.length_map] using congrArg List.length stocked.carries
  have untouched : now.performed = [] := by
    unfold performed
    rw [stocked.notifications_eq, stocked.outbox_eq]
    rfl
  exact {
    serving := held ▸ ⟨stocked.consistent, List.nodup_nil, by simp⟩
    isOpen := stocked.isOpen
    unscheduled := stocked.unscheduled
    undead := stocked.undead
    wired := stocked.dispatcher_eq
    known := congrArg (·.templates) stocked.outbox_eq
    doable := fun envelope member => by
      have read : envelope.work? ∈ works.map some :=
        stocked.carries ▸ List.mem_map_of_mem member
      obtain ⟨work, isDue, same⟩ := List.mem_map.1 read
      exact ⟨work, same.symm, doable work isDue⟩
    attended := fun _ id record found running => by
      rw [stocked.queued id record found] at running
      contradiction
    onDuty := fun worker member => List.eq_of_mem_replicate member ▸ .free
    places := by
      change now.performed ++ now.exchange.broker.envelopes.filterMap (·.work?) ~
        works ++ (Workshop.opened now workers).workers.filterMap (·.finishedWork?)
      rw [untouched, carried, finished, List.nil_append, List.append_nil]
    succeeded_eq := by
      change now.exchange.broker.succeeded + now.exchange.broker.envelopes.length = works.length
      rw [stocked.unacked, counted, Nat.zero_add]
    unread := by
      change ∀ record ∈ now.notifications.records, record.status = .unread
      rw [stocked.notifications_eq]
      exact fun record member => absurd member List.not_mem_nil
    numbered := by
      change now.notifications.lastId.toInt = now.notifications.records.length
      rw [stocked.notifications_eq]
      rfl
    exhausted := fun brokeOff => absurd (List.eq_of_mem_replicate brokeOff) (by simp) }

/-- The mail that is to be sent, if that is the work. -/
def TaskPayload.email? : TaskPayload → Option EmailDelivery
  | .email mail => some mail
  | .notification _ => none

namespace Collaborators

theorem emails_performed (shared : Collaborators) :
    shared.performed.filterMap (·.email?) = shared.outbox.sent := by
  unfold performed
  rw [List.filterMap_append, List.filterMap_map, List.filterMap_map]
  have all : (TaskPayload.email? ∘ TaskPayload.email) = some := rfl
  have none : shared.notifications.records.filterMap (TaskPayload.email? ∘
      fun record => .notification record.delivery) = [] :=
    List.filterMap_eq_nil_iff.2 fun record _ => rfl
  rw [all, none, List.nil_append, List.filterMap_some]

theorem notifications_payloads (items : List FanOut) :
    (items.flatMap (·.payloads)).filterMap (·.notification?) = items.map (·.notification) := by
  induction items with
  | nil => rfl
  | cons tasks more ih =>
    rw [List.flatMap_cons, List.filterMap_append, ih]
    rfl

theorem emails_payloads (items : List FanOut) :
    (items.flatMap (·.payloads)).filterMap (·.email?) = items.map (·.email) := by
  induction items with
  | nil => rfl
  | cons tasks more ih =>
    rw [List.flatMap_cons, List.filterMap_append, ih]
    rfl

theorem length_notifications_tasksDue (store : ReminderStore) (now : Instant) :
    ((tasksDue store now).filterMap (·.notification?)).length = (dueItems store now).length := by
  rw [tasksDue_eq, notifications_payloads, List.length_map]

theorem length_payloads (items : List FanOut) :
    (items.flatMap (·.payloads)).length = 2 * items.length := by
  induction items with
  | nil => rfl
  | cons tasks more ih =>
    rw [List.flatMap_cons, List.length_append, ih, List.length_cons]
    change 2 + 2 * more.length = 2 * (more.length + 1)
    omega

/-- What is due in a store at a time was delivered, and nothing else. -/
structure Delivered (store : ReminderStore) (now : Instant) (shared : Collaborators) : Prop where
  /-- There is one notification for each due item that can be delivered. -/
  notifications : shared.notifications.records.map (·.delivery) ~
    (dueItems store now).map (·.notification)
  /-- Nobody has read a notification. -/
  unread : ∀ record ∈ shared.notifications.records, record.status = .unread
  /-- One mail was sent for each due item that can be delivered. -/
  mails : shared.outbox.sent ~ (dueItems store now).map (·.email)
  /-- No task was given up. -/
  undead : shared.exchange.broker.counts.dead = 0
  /-- Two tasks were acknowledged for each due item that can be delivered. -/
  succeeded : shared.exchange.broker.counts.succeeded = 2 * (dueItems store now).length

/-- In a drained shop everything that was due was delivered. -/
theorem delivered_of_drained {store : ReminderStore} {now : Instant}
    (accounted : shop.IsAccounted limit (tasksDue store now)) (drained : shop.IsDrained) :
    Delivered store now shop.shared := by
  obtain ⟨performed, succeeded⟩ := accounted.drained drained
  rw [tasksDue_eq] at performed succeeded
  refine ⟨?_, accounted.unread, ?_, ?_, ?_⟩
  · rw [← notifications_performed, ← notifications_payloads]
    exact performed.filterMap _
  · rw [← emails_performed, ← emails_payloads]
    exact performed.filterMap _
  · exact List.length_eq_zero_iff.2 accounted.undead
  · exact succeeded.trans (length_payloads _)

/-- After the first scan of a store by a new scanner, in which every call is answered in time, any
number of workers deliver what is due in the store, once each and nothing else: however they have
taken turns when the broker is drained, everything was delivered. As long as there is a worker, and
fewer than `2 ^ 63` items are due, the broker can be drained from wherever the work stands. -/
theorem scan_delivered {config : Config} {start stocked : Collaborators} {store : ReminderStore}
    {settings : ScannerSettings} {timeout : Duration} {now : Instant} {trace : List Answered}
    {outcome : Scanner × Except IncompleteScan ScanReport}
    (connected : connect config = .ok start) (distinct : (store.users.map (·.userId)).Nodup)
    (scanned : ((Scanner.new settings timeout).scan now).Runs Answers
      { start with reminders := store } trace stocked (some outcome))
    (workers : Nat) (leads : Workshop.machine.Leads (.opened stocked workers) shop) :
    (shop.IsDrained → Delivered store now shop.shared) ∧
      (0 < workers → (dueItems store now).length < twoTo 63 →
        ∃ later, Workshop.machine.Leads shop later ∧ later.IsDrained) := by
  obtain ⟨-, -, rfl⟩ := connect_eq_ok.1 connected
  have published := (fresh_stocked config.retryPolicy config.ioTimeout store).scan distinct scanned
  have opened := published.opened (fun _ => isDoable_of_mem_tasksDue) workers
  have accounted := opened.leads leads
  refine ⟨delivered_of_drained accounted, fun some few => ?_⟩
  rw [← length_notifications_tasksDue] at few
  have staffed : shop.workers ≠ [] := by
    rw [← List.length_pos_iff, Workshop.length_leads leads]
    exact List.length_replicate ▸ some
  exact accounted.drains few staffed ⟨0, now, now, .ofNat 0⟩

/-- A store with one reminder that is due at a time and one user who has birthday then. -/
def demoStore (now : Instant) : ReminderStore :=
  (ReminderStore.empty.insert {
    id := ⟨1⟩
    userId := ⟨1⟩
    email := "ada@example.com"
    title := "Bob's birthday is coming"
    body := "Bob added 3 items to his wishlist"
    kind := "alert"
    executeAt := now
    status := .pending }).addUser (demoUser now)

/-- On a leap day two workers deliver a reminder and a birthday. -/
theorem scan_delivered_leapDay :
    ∃ (now : Instant) (start stocked : Collaborators) (trace : List Answered)
      (outcome : Scanner × Except IncompleteScan ScanReport) (shop : Workshop),
      connect .default = .ok start ∧ ((demoStore now).users.map (·.userId)).Nodup ∧
      ((Scanner.new ⟨.zero, .zero, false⟩ .zero).scan now).Runs Answers
        { start with reminders := demoStore now } trace stocked (some outcome) ∧
      Workshop.machine.Leads (.opened stocked 2) shop ∧ shop.IsDrained ∧
      Delivered (demoStore now) now shop.shared ∧ (dueItems (demoStore now) now).length = 2 := by
  let now : Instant := .midnight ⟨2024, 2, 29, by decide⟩
  let start := fresh Config.default.retryPolicy Config.default.ioTimeout
  have connected : connect .default = .ok start := connect_eq_ok.2 ⟨rfl, rfl, rfl⟩
  have distinct : ((demoStore now).users.map (·.userId)).Nodup := by decide +kernel
  have ends : (promptly ((Scanner.new ⟨.zero, .zero, false⟩ .zero).scan now)
      ((List.range 7).map fun number => ⟨0, now, now, .ofNat number⟩)
      { start with reminders := demoStore now }).isSome = true := by decide +kernel
  obtain ⟨⟨outcome, stocked⟩, prompt⟩ := Option.isSome_iff_exists.1 ends
  obtain ⟨trace, scanned⟩ := runs_promptly prompt
  obtain ⟨shop, leads, drained⟩ :=
    (scan_delivered connected distinct scanned 2 .refl).2 (by decide) (by decide +kernel)
  have delivered := (scan_delivered connected distinct scanned 2 leads).1 drained
  exact ⟨now, start, stocked, trace, outcome, shop, connected, distinct, scanned, leads, drained,
    delivered, by decide +kernel⟩

end Collaborators

end ReminderDispatch
