import ReminderDispatch.Calendar.Anniversary
import ReminderDispatch.Reminder

/-!
# Store of reminders and users

The reminders in the order of their insertion, and the users whose birthdays are kept. A new
reminder gets the number after the greatest one that was ever stored. A call changes the store in
place: its outcome stands beside the store as the call has left it.
-/

namespace ReminderDispatch

/-- What the store knows about a user. -/
structure User where
  /-- The user. -/
  userId : UserId
  /-- The address for mails. -/
  email : String
  /-- The name. -/
  name : String
  /-- The day of birth. -/
  birthDate : Date
  deriving DecidableEq, Repr

namespace User

/-- The user has birthday on the day. -/
def celebratesOn (user : User) (today : Date) : Bool :=
  Anniversary.fallsOn user.birthDate today

/-- The birthday of a user. -/
def birthday (user : User) : Birthday :=
  ⟨user.userId, user.email, user.name⟩

end User

/-- Reminders and users in memory. -/
structure ReminderStore where
  /-- The reminders, in the order of their insertion. -/
  reminders : List Reminder
  /-- The users, in the order of their insertion. -/
  users : List User
  /-- The greatest number of a reminder so far. -/
  lastId : Int64
  deriving DecidableEq, Repr

namespace ReminderStore

/-- A store without reminders and users. -/
def empty : ReminderStore := ⟨[], [], 0⟩

/-- There is no reminder with this key. -/
def noReminder (id : ReminderId) : StoreError := .notFound ("reminder " ++ id.text)

/-- Insert a reminder as it is. -/
def insert (store : ReminderStore) (reminder : Reminder) : ReminderStore :=
  { store with
    lastId := max store.lastId reminder.id.value
    reminders := store.reminders ++ [reminder] }

/-- Insert a user. -/
def addUser (store : ReminderStore) (user : User) : ReminderStore :=
  { store with users := store.users ++ [user] }

/-- The reminder with a key. -/
def get? (store : ReminderStore) (id : ReminderId) : Option Reminder :=
  store.reminders.find? fun reminder => reminder.id = id

/-- The reminders that are due. -/
def dueReminders (store : ReminderStore) (now : Instant) : List Reminder :=
  store.reminders.filter (·.isDue now)

/-- The birthdays of a day. -/
def dueBirthdays (store : ReminderStore) (now : Instant) : List Birthday :=
  (store.users.filter (·.celebratesOn now.date)).map (·.birthday)

/-- Change the first reminder with a key. -/
def changeFirst (id : ReminderId) (change : Reminder → Reminder) : List Reminder → List Reminder
  | [] => []
  | reminder :: more =>
    if reminder.id = id then change reminder :: more else reminder :: changeFirst id change more

/-- A reminder was dispatched; to say so again changes nothing. -/
def mark (store : ReminderStore) (id : ReminderId) : Except StoreError Unit × ReminderStore :=
  match store.get? id with
  | none => (.error (noReminder id), store)
  | some _ =>
    let dispatched := fun reminder : Reminder => { reminder with status := .dispatched }
    (.ok (), { store with reminders := changeFirst id dispatched store.reminders })

/-- Create a pending reminder from a request. There is no outcome when the call breaks off because
no number is left. -/
def create (store : ReminderStore) (request : ReminderRequest) :
    Option (Except StoreError Reminder) × ReminderStore :=
  match request.validate with
  | .error missing => (some (.error (.validation ⟨missing⟩)), store)
  | .ok executeAt =>
    match nextNumber? store.lastId with
    | none => (none, store)
    | some id =>
      let reminder : Reminder := {
        id := ⟨id⟩
        userId := request.userId
        email := request.email
        title := request.title
        body := request.body
        kind := request.kind
        executeAt := executeAt
        status := .pending }
      (some (.ok reminder),
        { store with lastId := id, reminders := store.reminders ++ [reminder] })

/-- Delete the reminders with a key. Whether there was one shows in how many are left. -/
def delete (store : ReminderStore) (id : ReminderId) : Except StoreError Unit × ReminderStore :=
  let left := store.reminders.filter fun reminder => reminder.id ≠ id
  let after := { store with reminders := left }
  if left.length = store.reminders.length then (.error (noReminder id), after) else (.ok (), after)

end ReminderStore

end ReminderDispatch
