import ReminderDispatch.Proofs.Calendar.InstantText
import ReminderDispatch.Proofs.Json.Lists
import ReminderDispatch.Proofs.Task.Identifiers
import ReminderDispatch.Proofs.Wire.Payloads

/-!
# Records on the wire

Reminders, birthdays, notifications, envelopes and counts are read back from their JSON texts,
whatever their fields hold: every number of its type, every string, every byte, every identifier and
every instant of the calendar that is regular. Any other instant shares its text with a regular one,
which is what is read for it.
-/

namespace ReminderDispatch.Wire

open Json

/-! ## Fields -/

/-- Instants are read as their texts show them. -/
theorem instant_yields (time : Instant) : instant.Yields time time.shown := fun rest _ =>
  readStringWith_written (by rw [time.ofText_text]; rfl) rest

/-- An instant begins with a quote, and not like null. -/
theorem instant_avoids : instant.Avoids 0x6e := fun time =>
  ⟨quoteMark, _, writeString_append time.text [] ▸ (List.append_nil _).symm, rfl, by decide⟩

/-- Types of tasks are read back. -/
theorem taskType_faithful : taskType.Faithful := string_faithful.via fun _ => rfl

/-- The digits of an identifier are read back. -/
theorem taskIdDigits_faithful : taskIdDigits.Faithful := by
  intro id rest delimited
  have read : string.read (writeString id.digitText ++ rest) = .ok (id.digitText, rest) :=
    string_faithful id.digitText rest delimited
  change (string.read >>= _) (writeString id.digitText ++ rest) = _
  rw [Reader.bind_of_ok read, id.ofDigitText_digitText]
  rfl

/-- Identifiers are read back. -/
theorem taskId_faithful : taskId.codec.Faithful :=
  Record.codec_faithful ⟨taskIdDigits_faithful, trivial⟩ (by decide) fun _ => rfl

/-- Whether a reminder was dispatched is read back. -/
theorem dispatchStatus_faithful : dispatchStatus.Faithful :=
  named_faithful fun status => by cases status <;> rfl

/-- Whether a notification was read is read back. -/
theorem readStatus_faithful : readStatus.Faithful :=
  named_faithful fun status => by cases status <;> rfl

/-! ## Records -/

/-- Reminders are read back, their times as shown. -/
theorem reminder_yields (value : Reminder) :
    reminder.codec.Yields value { value with executeAt := value.executeAt.shown } :=
  Record.codec_yields
    ⟨storeId_faithful _, storeId_faithful _, string_faithful _, string_faithful _,
      string_faithful _, string_faithful _, instant_yields _, dispatchStatus_faithful _, trivial⟩
    (by decide) rfl

/-- Requests for reminders are read back, with a time as shown or without one. -/
theorem reminderRequest_yields (value : ReminderRequest) :
    reminderRequest.codec.Yields value
      { value with executeAt := value.executeAt.map Instant.shown } := by
  have time : (optional instant).Yields value.executeAt (value.executeAt.map Instant.shown) := by
    cases value.executeAt with
    | none => exact optional_yields_none instant
    | some time => exact optional_yields (instant_yields time) instant_avoids
  exact Record.codec_yields
    ⟨storeId_faithful _, string_faithful _, string_faithful _, string_faithful _,
      string_faithful _, time, trivial⟩
    (by decide) rfl

/-- Birthdays are read back. -/
theorem birthday_faithful : birthday.codec.Faithful :=
  Record.codec_faithful ⟨storeId_faithful, string_faithful, string_faithful, trivial⟩
    (by decide) fun _ => rfl

/-- Stored notifications are read back, their times as shown. -/
theorem storedNotification_yields (value : StoredNotification) :
    storedNotification.codec.Yields value { value with createdAt := value.createdAt.shown } :=
  Record.codec_yields
    ⟨storeId_faithful _, storeId_faithful _, string_faithful _, string_faithful _,
      string_faithful _, readStatus_faithful _, instant_yields _, trivial⟩
    (by decide) rfl

/-- Requests for notifications are read back. -/
theorem notificationRequest_faithful : notificationRequest.codec.Faithful :=
  Record.codec_faithful
    ⟨storeId_faithful, string_faithful, string_faithful, string_faithful, trivial⟩
    (by decide) fun _ => rfl

/-- Envelopes are read back, their times as shown. -/
theorem envelope_yields (value : Envelope) :
    envelope.codec.Yields value { value with publishedAt := value.publishedAt.shown } :=
  Record.codec_yields
    ⟨taskId_faithful _, taskType_faithful _,
      list_faithful byte_faithful (integer_avoids (by decide) (by decide)) _, instant_yields _,
      trivial⟩
    (by decide) rfl

/-- Counts of tasks are read back. -/
theorem queueCounts_faithful : queueCounts.codec.Faithful :=
  Record.codec_faithful
    ⟨count_faithful, count_faithful, count_faithful, count_faithful, count_faithful, trivial⟩
    (by decide) fun _ => rfl

/-- Every record of the domain is read back from the JSON text that is written for it, but that an
instant is read as its text shows it. That is the instant itself, unless it lies in a leap second
inside a minute: such a one is written as the second after it. -/
theorem records_read_back :
    (∀ value, reminder.codec.readAll (reminder.codec.write value) =
      .ok { value with executeAt := value.executeAt.shown }) ∧
    (∀ value, reminderRequest.codec.readAll (reminderRequest.codec.write value) =
      .ok { value with executeAt := value.executeAt.map Instant.shown }) ∧
    (∀ value, birthday.codec.readAll (birthday.codec.write value) = .ok value) ∧
    (∀ value, storedNotification.codec.readAll (storedNotification.codec.write value) =
      .ok { value with createdAt := value.createdAt.shown }) ∧
    (∀ value, notificationRequest.codec.readAll (notificationRequest.codec.write value) =
      .ok value) ∧
    (∀ value, envelope.codec.readAll (envelope.codec.write value) =
      .ok { value with publishedAt := value.publishedAt.shown }) ∧
    (∀ value, queueCounts.codec.readAll (queueCounts.codec.write value) = .ok value) ∧
    (∀ time : Instant, time.shown = time ↔ time.nanos < 1000000000 ∨ time.second % 60 = 59) :=
  ⟨fun value => (reminder_yields value).readAll_write,
    fun value => (reminderRequest_yields value).readAll_write, birthday_faithful.readAll_write,
    fun value => (storedNotification_yields value).readAll_write,
    notificationRequest_faithful.readAll_write, fun value => (envelope_yields value).readAll_write,
    queueCounts_faithful.readAll_write, fun time => time.shown_eq_self_iff⟩

/-- A task that was published in a leap second inside a minute, at 12:00:30 and a second and a half,
is read back as one that was published half a second after 12:00:31. -/
theorem leap_inside_minute_read_as_next :
    let noon : Date := ⟨2025, 3, 1, by decide⟩
    let task (publishedAt : Instant) : Envelope := ⟨⟨⟨1⟩⟩, ⟨"mail:deliver"⟩, [], publishedAt⟩
    let leap : Instant := ⟨noon, 43230, 1500000000, by decide, by decide⟩
    let next : Instant := ⟨noon, 43231, 500000000, by decide, by decide⟩
    envelope.codec.readAll (envelope.codec.write (task leap)) = .ok (task next) ∧
      task next ≠ task leap := by
  intro noon task leap next
  have shown : leap.shown = next := by decide
  constructor
  · have read : envelope.codec.readAll (envelope.codec.write (task leap)) =
        .ok (task leap.shown) := (envelope_yields (task leap)).readAll_write
    rw [read, shown]
  · intro same
    have second : (43231 : Nat) = 43230 := congrArg (·.publishedAt.second) same
    omega

end ReminderDispatch.Wire
