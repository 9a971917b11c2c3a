import Spotuify.GuardedMachine
import Spotuify.MonthCalendar
import Spotuify.ResourceUri
import Spotuify.SqlTable

/-!
# Listening reminders

A reminder keeps the time it is due next.  The scheduler lists the active
reminders that are due, and notifies and then advances or completes each of
them, one store call at a time, while other requests create and cancel
reminders.  Times are milliseconds since the epoch.  Snoozing a notification
is a request of its own and is left out, as is the media lookup of a new
reminder.  The notifications and the advances are kept with what is needed to
speak about them.
-/

namespace Spotuify

structure ReminderId where
  value : Nat
  deriving DecidableEq, Repr

inductive Recurrence where
  | none
  | daily
  | weekly
  | monthly
  deriving DecidableEq, Repr

inductive ReminderState where
  | active
  | completed
  | cancelled
  deriving DecidableEq, Repr

structure Reminder where
  id : ReminderId
  mediaUri : String
  mediaKind : MediaKind
  name : String
  subtitle : String
  imageUrl : Option String
  anchorAtMs : Int
  recurrence : Recurrence
  tz : String
  nextDueAtMs : Int
  state : ReminderState
  message : Option String
  createdAtMs : Int
  deriving DecidableEq

inductive NotificationState where
  | unseen
  | seen
  | snoozed
  | dismissed
  | done
  deriving DecidableEq, Repr

structure Notification where
  id : Nat
  reminderId : ReminderId
  mediaUri : String
  mediaKind : MediaKind
  name : String
  subtitle : String
  imageUrl : Option String
  dueAtMs : Int
  firedAtMs : Int
  state : NotificationState
  snoozedUntilMs : Option Int
  acted : Option String
  message : Option String
  deriving DecidableEq

def dayMs : Int := 86400000

/-- A sum that leaves the 64 bits of a time wraps around. -/
def wrapMs (sum : Int) : Int := if sum < 2 ^ 63 then sum else sum - 2 ^ 64

/-- The first millisecond of the year -262143, and the last one of the year
262142. -/
def chronoMinMs : Int := -8334601228800000

def chronoMaxMs : Int := 8210266876799999

/-- The times `from_timestamp_millis` has a date for. -/
def ChronoHolds (ms : Int) : Prop := chronoMinMs ≤ ms ∧ ms ≤ chronoMaxMs

instance (ms : Int) : Decidable (ChronoHolds ms) :=
  inferInstanceAs (Decidable (_ ∧ _))

/-- The same time of day some months later, in UTC. -/
def addMonthsMs (ms months : Int) : Int :=
  Gregorian.calendar.addMonths (ms / dayMs) months * dayMs + ms % dayMs

/-- `checked_add_months` of one month. -/
def checkedAddMonth (ms : Int) : Option Int :=
  if ChronoHolds ms ∧ ChronoHolds (addMonthsMs ms 1) then
    some (addMonthsMs ms 1)
  else none

namespace Recurrence

variable (recurrence : Recurrence)

def isRecurring : Bool := recurrence != .none

def step (fromMs : Int) : Recurrence → Int
  | .daily => wrapMs (fromMs + dayMs)
  | .weekly => wrapMs (fromMs + 7 * dayMs)
  | .monthly =>
    (checkedAddMonth fromMs).getD (wrapMs (fromMs + 30 * dayMs))
  | .none => wrapMs (fromMs + dayMs)

def maxSkips : Nat := 10000

/-- The loop of `next_occurrence`. -/
def skipMissed (nowMs : Int) : Nat → Int → Int
  | 0, next => next
  | skips + 1, next =>
    if next > nowMs then next
    else skipMissed nowMs skips (step next recurrence)

def nextOccurrence (fromMs nowMs : Int) : Int :=
  recurrence.skipMissed nowMs maxSkips (step fromMs recurrence)

def initialNextDue (anchorAtMs nowMs : Int) : Int :=
  if anchorAtMs > nowMs ∨ recurrence.isRecurring = false then anchorAtMs
  else recurrence.nextOccurrence anchorAtMs nowMs

end Recurrence

abbrev ReminderTable := SqlTable Reminder.id

namespace ReminderTable

/-- What `due_reminders` may return: rows of one due time in any order. -/
def IsDueList (schedules : ReminderTable) (nowMs : Int)
    (due : List Reminder) : Prop :=
  due.Perm (schedules.rows.filter fun reminder =>
    reminder.state = .active ∧ reminder.nextDueAtMs ≤ nowMs) ∧
  due.Pairwise fun first second => first.nextDueAtMs ≤ second.nextDueAtMs

instance (schedules : ReminderTable) (nowMs : Int) (due : List Reminder) :
    Decidable (schedules.IsDueList nowMs due) :=
  inferInstanceAs (Decidable (_ ∧ _))

def setReminderState (schedules : ReminderTable) (id : ReminderId)
    (state : ReminderState) : ReminderTable :=
  schedules.updateKey id (fun _ => true)
    (fun reminder => { reminder with state := state }) fun _ => rfl

def cancelReminder (schedules : ReminderTable) (id : ReminderId) :
    ReminderTable :=
  setReminderState schedules id .cancelled

def advanceReminder (schedules : ReminderTable) (id : ReminderId)
    (nextDueAtMs : Int) : ReminderTable :=
  schedules.updateKey id (fun _ => true)
    (fun reminder => { reminder with nextDueAtMs := nextDueAtMs })
    fun _ => rfl

def completeReminder (schedules : ReminderTable) (id : ReminderId) :
    ReminderTable :=
  setReminderState schedules id .completed

end ReminderTable

/-- A request to create a reminder, with the snapshot of its media. -/
structure ReminderDraft where
  mediaUri : String
  mediaKind : MediaKind
  name : String
  subtitle : String
  imageUrl : Option String
  anchorAtMs : Int
  recurrence : Recurrence
  tz : String
  message : Option String

/-- A pass of `fire_due`: the time it sampled, the listed reminders it has not
settled yet, and whether it has notified the first of them. -/
structure ReminderPass where
  number : Nat
  nowMs : Int
  due : List Reminder
  notified : Bool

/-- A notification and the pass that inserted it. -/
structure Firing where
  pass : Nat
  notification : Notification

/-- A new due time, and when it was computed. -/
structure Advance where
  reminder : Reminder
  atMs : Int
  nextDueAtMs : Int

structure ReminderSystem where
  clock : Int
  minted : Nat
  schedules : ReminderTable
  passes : Nat
  pass : Option ReminderPass
  firings : List Firing
  advances : List Advance

inductive ReminderAction where
  | elapse (ms : Nat)
  | create (draft : ReminderDraft)
  | cancel (id : ReminderId)
  | list (includeInactive : Bool)
  | beginPass (due : List Reminder)
  | notify
  | settle
  | abandon
  | endPass

/-- The notification of an occurrence. -/
def Reminder.notification (reminder : Reminder) (id : Nat) (nowMs : Int) :
    Notification where
  id := id
  reminderId := reminder.id
  mediaUri := reminder.mediaUri
  mediaKind := reminder.mediaKind
  name := reminder.name
  subtitle := reminder.subtitle
  imageUrl := reminder.imageUrl
  dueAtMs := reminder.nextDueAtMs
  firedAtMs := nowMs
  state := .unseen
  snoozedUntilMs := none
  acted := none
  message := reminder.message

def ReminderDraft.reminder (draft : ReminderDraft) (id : ReminderId)
    (nowMs : Int) : Reminder where
  id := id
  mediaUri := draft.mediaUri
  mediaKind := draft.mediaKind
  name := draft.name
  subtitle := draft.subtitle
  imageUrl := draft.imageUrl
  anchorAtMs := draft.anchorAtMs
  recurrence := draft.recurrence
  tz := draft.tz
  nextDueAtMs := draft.recurrence.initialNextDue draft.anchorAtMs nowMs
  state := .active
  message := draft.message
  createdAtMs := nowMs

namespace ReminderSystem

/-- A daemon without reminders. -/
def started (clock : Int) : ReminderSystem where
  clock := clock
  minted := 0
  schedules := .empty
  passes := 0
  pass := none
  firings := []
  advances := []

variable (system : ReminderSystem)

/-- `cancel_reminder`. -/
def cancelled (id : ReminderId) : ReminderSystem :=
  { system with
    schedules := ReminderTable.cancelReminder system.schedules id }

/-- `insert_notification`, after which the event is emitted. -/
def notified (pass : ReminderPass) (reminder : Reminder) : ReminderSystem :=
  { system with
    pass := some { pass with notified := true },
    firings := system.firings ++
      [{ pass := pass.number,
         notification :=
           reminder.notification system.firings.length pass.nowMs }] }

/-- The end of `fire_reminder`: the next due time, or completion. -/
def settled (pass : ReminderPass) (reminder : Reminder)
    (rest : List Reminder) : ReminderSystem :=
  let next := { pass with due := rest, notified := false }
  if reminder.recurrence.isRecurring then
    let nextDueAtMs :=
      reminder.recurrence.nextOccurrence reminder.nextDueAtMs system.clock
    { system with
      pass := some next,
      schedules := ReminderTable.advanceReminder system.schedules reminder.id
        nextDueAtMs,
      advances := system.advances ++
        [{ reminder := reminder, atMs := system.clock,
           nextDueAtMs := nextDueAtMs }] }
  else
    { system with
      pass := some next,
      schedules :=
        ReminderTable.completeReminder system.schedules reminder.id }

def step (system : ReminderSystem) : ReminderAction → Option ReminderSystem
  | .elapse ms => some { system with clock := system.clock + ms }
  | .create draft =>
    (system.schedules.insert?
      (draft.reminder ⟨system.minted⟩ system.clock)).map fun schedules =>
        { system with
          schedules := schedules, minted := system.minted + 1 }
  | .cancel id => some (system.cancelled id)
  | .list _ => some system
  | .beginPass due =>
    if system.pass.isNone ∧
        system.schedules.IsDueList system.clock due then
      some
        { system with
          passes := system.passes + 1,
          pass := some
            { number := system.passes + 1, nowMs := system.clock,
              due := due, notified := false } }
    else none
  | .notify =>
    match system.pass with
    | some { number, nowMs, due := reminder :: rest, notified := false } =>
      some (system.notified
        { number, nowMs, due := reminder :: rest, notified := false }
        reminder)
    | _ => none
  | .settle =>
    match system.pass with
    | some { number, nowMs, due := reminder :: rest, notified := true } =>
      some (system.settled
        { number, nowMs, due := reminder :: rest, notified := true }
        reminder rest)
    | _ => none
  -- A failed write is logged, and the pass goes on with the next reminder.
  | .abandon =>
    match system.pass with
    | some { number, nowMs, due := _ :: rest, .. } =>
      some
        { system with
          pass := some { number, nowMs, due := rest, notified := false } }
    | _ => none
  | .endPass =>
    match system.pass with
    | some { due := [], .. } => some { system with pass := none }
    | _ => none

def machine : GuardedMachine ReminderSystem ReminderAction where
  step := step

end ReminderSystem

namespace Recurrence

/-- The occurrences of an anchor. -/
def occurrence (recurrence : Recurrence) (anchorAtMs : Int) (index : Nat) :
    Int :=
  match recurrence with
  | .none => anchorAtMs
  | .daily => anchorAtMs + index * dayMs
  | .weekly => anchorAtMs + index * (7 * dayMs)
  | .monthly => addMonthsMs anchorAtMs index

/-- The least occurrence later than a time. -/
def IsNextOccurrence (recurrence : Recurrence)
    (anchorAtMs nowMs next : Int) : Prop :=
  (∃ index, next = recurrence.occurrence anchorAtMs index) ∧ nowMs < next ∧
    ∀ index, nowMs < recurrence.occurrence anchorAtMs index →
      next ≤ recurrence.occurrence anchorAtMs index

end Recurrence

end Spotuify
