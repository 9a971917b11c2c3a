import Spotuify.ReminderOccurrences

/-!
# What the reminder scheduler does over a run

A listed reminder stays the row it was read from, apart from its state, until
its own pass settles it.  From this follow both what a run of passes does to
one reminder, as long as its next occurrences are within reach, and that no
pass brings a cancelled reminder back.
-/

namespace Spotuify

namespace ReminderTable

variable {schedules : ReminderTable} {id other : ReminderId}

theorem get?_setReminderState (state : ReminderState) :
    (schedules.setReminderState id state).get? other =
      (schedules.get? other).map fun reminder =>
        if other = id then { reminder with state := state } else reminder := by
  rw [setReminderState, SqlTable.get?_updateKey]
  simp only [and_true]

theorem get?_advanceReminder (nextDueAtMs : Int) :
    (schedules.advanceReminder id nextDueAtMs).get? other =
      (schedules.get? other).map fun reminder =>
        if other = id then { reminder with nextDueAtMs := nextDueAtMs }
        else reminder := by
  rw [advanceReminder, SqlTable.get?_updateKey]
  simp only [and_true]

/-- A due list reads every reminder once, active and due. -/
theorem IsDueList.mem_iff {nowMs : Int} {due : List Reminder}
    (isDue : schedules.IsDueList nowMs due) {reminder : Reminder} :
    reminder ∈ due ↔
      schedules.get? reminder.id = some reminder ∧
        reminder.state = .active ∧ reminder.nextDueAtMs ≤ nowMs := by
  rw [isDue.1.mem_iff, List.mem_filter, SqlTable.get?_eq_some]
  simp

theorem IsDueList.nodup {nowMs : Int} {due : List Reminder}
    (isDue : schedules.IsDueList nowMs due) :
    (due.map Reminder.id).Nodup := by
  rw [(isDue.1.map Reminder.id).nodup_iff]
  exact schedules.keysNodup.sublist
    (List.Sublist.map Reminder.id List.filter_sublist)

end ReminderTable

namespace ReminderPass

variable (pass : ReminderPass)

/-- The reminders a pass has yet to notify. -/
def awaiting : List Reminder :=
  if pass.notified then pass.due.tail else pass.due

/-- The reminder a pass has notified and not settled. -/
def settling : Option Reminder :=
  if pass.notified then pass.due.head? else none

end ReminderPass

namespace ReminderSystem

/-- What a step of the machine can be. -/
inductive Moves (system : ReminderSystem) :
    ReminderAction → ReminderSystem → Prop
  | elapse (ms : Nat) :
    Moves system (.elapse ms) { system with clock := system.clock + ms }
  | create (draft : ReminderDraft) (schedules : ReminderTable)
    (inserted : system.schedules.insert?
      (draft.reminder ⟨system.minted⟩ system.clock) = some schedules) :
    Moves system (.create draft)
      { system with schedules := schedules, minted := system.minted + 1 }
  | cancel (id : ReminderId) : Moves system (.cancel id) (system.cancelled id)
  | list (includeInactive : Bool) : Moves system (.list includeInactive) system
  | beginPass (due : List Reminder) (idle : system.pass = none)
    (isDue : system.schedules.IsDueList system.clock due) :
    Moves system (.beginPass due)
      { system with
        passes := system.passes + 1,
        pass := some
          { number := system.passes + 1, nowMs := system.clock,
            due := due, notified := false } }
  | notify (number : Nat) (nowMs : Int) (reminder : Reminder)
    (rest : List Reminder)
    (running : system.pass =
      some { number, nowMs, due := reminder :: rest, notified := false }) :
    Moves system .notify
      (system.notified
        { number, nowMs, due := reminder :: rest, notified := false } reminder)
  | settle (number : Nat) (nowMs : Int) (reminder : Reminder)
    (rest : List Reminder)
    (running : system.pass =
      some { number, nowMs, due := reminder :: rest, notified := true }) :
    Moves system .settle
      (system.settled
        { number, nowMs, due := reminder :: rest, notified := true }
        reminder rest)
  | abandon (number : Nat) (nowMs : Int) (reminder : Reminder)
    (rest : List Reminder) (notified : Bool)
    (running : system.pass =
      some { number, nowMs, due := reminder :: rest, notified := notified }) :
    Moves system .abandon
      { system with
        pass := some { number, nowMs, due := rest, notified := false } }
  | endPass (number : Nat) (nowMs : Int) (notified : Bool)
    (running : system.pass =
      some { number, nowMs, due := [], notified := notified }) :
    Moves system .endPass { system with pass := none }

variable {system next : ReminderSystem} {action : ReminderAction}

theorem moves_of_step (steps : system.step action = some next) :
    system.Moves action next := by
  cases action with
  | elapse ms =>
    cases steps
    exact .elapse ms
  | create draft =>
    obtain ⟨schedules, inserted, rfl⟩ := Option.map_eq_some_iff.mp steps
    exact .create draft schedules inserted
  | cancel id =>
    cases steps
    exact .cancel id
  | list includeInactive =>
    cases steps
    exact .list includeInactive
  | beginPass due =>
    rw [step, Option.ite_none_right_eq_some] at steps
    obtain ⟨⟨idle, isDue⟩, found⟩ := steps
    cases found
    exact .beginPass due (Option.isNone_iff_eq_none.mp idle) isDue
  | notify =>
    rw [step] at steps
    split at steps
    · rename_i number nowMs reminder rest running
      cases steps
      exact .notify number nowMs reminder rest running
    · cases steps
  | settle =>
    rw [step] at steps
    split at steps
    · rename_i number nowMs reminder rest running
      cases steps
      exact .settle number nowMs reminder rest running
    · cases steps
  | abandon =>
    rw [step] at steps
    split at steps
    · rename_i number nowMs reminder rest notified running
      cases steps
      exact .abandon number nowMs reminder rest notified running
    · cases steps
  | endPass =>
    rw [step] at steps
    split at steps
    · rename_i number nowMs notified running
      cases steps
      exact .endPass number nowMs notified running
    · cases steps

section Settled

variable (pass : ReminderPass) (reminder : Reminder) (rest : List Reminder)

@[simp]
theorem settled_pass :
    (system.settled pass reminder rest).pass =
      some { pass with due := rest, notified := false } := by
  unfold settled
  split
  · rfl
  · rfl

@[simp]
theorem settled_passes :
    (system.settled pass reminder rest).passes = system.passes := by
  unfold settled
  split
  · rfl
  · rfl

@[simp]
theorem settled_minted :
    (system.settled pass reminder rest).minted = system.minted := by
  unfold settled
  split
  · rfl
  · rfl

@[simp]
theorem settled_firings :
    (system.settled pass reminder rest).firings = system.firings := by
  unfold settled
  split
  · rfl
  · rfl

end Settled

/-- The pass lists each reminder once, as it still is apart from its state,
and it was due. -/
structure Listed (system : ReminderSystem) (pass : ReminderPass) : Prop where
  number : pass.number = system.passes
  distinct : (pass.due.map Reminder.id).Nodup
  due : ∀ reminder ∈ pass.due, reminder.nextDueAtMs ≤ system.clock
  current : ∀ reminder ∈ pass.due, ∃ state,
    system.schedules.get? reminder.id = some { reminder with state := state }

/-- Ids are minted once, and the passes are numbered as they begin. -/
structure WellKept (system : ReminderSystem) : Prop where
  ids : ∀ id reminder, system.schedules.get? id = some reminder →
    id.value < system.minted
  listed : ∀ pass, system.pass = some pass → system.Listed pass
  fired : ∀ firing ∈ system.firings, firing.pass ≤ system.passes

theorem started_wellKept (clock : Int) : (started clock).WellKept := by
  constructor
  · intro id reminder found
    cases found
  · intro pass running
    cases running
  · intro firing member
    cases member

/-- A new reminder leaves the others as they are. -/
theorem WellKept.get?_create (wellKept : system.WellKept)
    {draft : ReminderDraft} {schedules : ReminderTable}
    (inserted : system.schedules.insert?
      (draft.reminder ⟨system.minted⟩ system.clock) = some schedules)
    {id : ReminderId} {row : Reminder}
    (found : system.schedules.get? id = some row) :
    schedules.get? id = some row := by
  have older : id ≠ ⟨system.minted⟩ := by
    intro same
    have minted := wellKept.ids id row found
    rw [same] at minted
    exact Nat.lt_irrefl _ minted
  rw [SqlTable.get?_insert inserted]
  exact (if_neg older).trans found

/-- What is left of a list stays listed while its rows keep all but their
state. -/
theorem Listed.carry {pass after : ReminderPass} (listed : system.Listed pass)
    (left : after.due.Sublist pass.due) (number : after.number = pass.number)
    (passes : next.passes = system.passes) (later : system.clock ≤ next.clock)
    (rows : ∀ reminder ∈ after.due, ∀ state,
      system.schedules.get? reminder.id =
          some { reminder with state := state } →
        ∃ other, next.schedules.get? reminder.id =
          some { reminder with state := other }) :
    next.Listed after := by
  constructor
  · rw [number, passes]
    exact listed.number
  · exact listed.distinct.sublist (left.map Reminder.id)
  · intro reminder member
    exact (listed.due reminder (left.subset member)).trans later
  · intro reminder member
    obtain ⟨state, found⟩ := listed.current reminder (left.subset member)
    exact rows reminder member state found

/-- A changed state is no change to what is listed. -/
theorem exists_get?_setReminderState {id : ReminderId} {state : ReminderState}
    {reminder : Reminder} {before : ReminderState}
    (found : system.schedules.get? reminder.id =
      some { reminder with state := before }) :
    ∃ other, (ReminderTable.setReminderState system.schedules id state).get?
        reminder.id =
      some { reminder with state := other } := by
  rw [ReminderTable.get?_setReminderState, found, Option.map_some]
  by_cases selected : reminder.id = id
  · exact ⟨state, by rw [if_pos selected]⟩
  · exact ⟨before, by rw [if_neg selected]⟩

/-- The rest of a list is not about its first reminder. -/
theorem Listed.ne_of_mem_rest {number : Nat} {nowMs : Int}
    {reminder other : Reminder} {rest : List Reminder} {notified : Bool}
    (listed : system.Listed
      { number, nowMs, due := reminder :: rest, notified })
    (member : other ∈ rest) : other.id ≠ reminder.id := by
  intro same
  have distinct := listed.distinct
  rw [List.map_cons, List.nodup_cons] at distinct
  exact distinct.1 (same ▸ List.mem_map_of_mem member)

theorem settled_listed {number : Nat} {nowMs : Int} {reminder : Reminder}
    {rest : List Reminder}
    (listed : system.Listed
      { number, nowMs, due := reminder :: rest, notified := true }) :
    (system.settled
        { number, nowMs, due := reminder :: rest, notified := true }
        reminder rest).Listed
      { number, nowMs, due := rest, notified := false } := by
  have left : rest.Sublist (reminder :: rest) := List.sublist_cons_self _ _
  unfold settled
  dsimp only
  split
  · refine listed.carry left rfl rfl le_rfl ?_
    intro other member state found
    refine ⟨state, ?_⟩
    rw [ReminderTable.get?_advanceReminder, found, Option.map_some,
      if_neg (listed.ne_of_mem_rest member)]
  · refine listed.carry left rfl rfl le_rfl ?_
    intro other member state found
    exact exists_get?_setReminderState found

/-- The reminder that is notified and not settled. -/
def settling (system : ReminderSystem) : Option Reminder :=
  system.pass.bind ReminderPass.settling

/-- What a step may do to a row: a settled one is advanced or retired. -/
inductive RowStep (system : ReminderSystem) (action : ReminderAction)
    (row : Reminder) : Reminder → Prop
  | kept (unsettled : action = .settle →
      system.settling.map Reminder.id ≠ some row.id) :
    RowStep system action row row
  | retired (state : ReminderState) (ended : state ≠ .active) :
    RowStep system action row { row with state := state }
  | advanced (settles : action = .settle)
    (own : system.settling.map Reminder.id = some row.id)
    (recurring : row.recurrence.isRecurring = true) :
    RowStep system action row
      { row with
        nextDueAtMs :=
          row.recurrence.nextOccurrence row.nextDueAtMs system.clock }

theorem rowStep_setReminderState {id : ReminderId} {state : ReminderState}
    (ended : state ≠ .active) {other : ReminderId} {row : Reminder}
    (found : system.schedules.get? other = some row)
    (unsettled : other ≠ id → action = .settle →
      system.settling.map Reminder.id ≠ some row.id) :
    ∃ after,
      (ReminderTable.setReminderState system.schedules id state).get? other =
          some after ∧
        system.RowStep action row after := by
  rw [ReminderTable.get?_setReminderState, found, Option.map_some]
  by_cases selected : other = id
  · exact ⟨_, by rw [if_pos selected], .retired state ended⟩
  · exact ⟨_, by rw [if_neg selected], .kept (unsettled selected)⟩

theorem rowStep_settled {number : Nat} {nowMs : Int} {reminder : Reminder}
    {rest : List Reminder}
    (running : system.pass =
      some { number, nowMs, due := reminder :: rest, notified := true })
    (listed : system.Listed
      { number, nowMs, due := reminder :: rest, notified := true })
    {id : ReminderId} {row : Reminder}
    (found : system.schedules.get? id = some row) :
    ∃ after,
      (system.settled
          { number, nowMs, due := reminder :: rest, notified := true }
          reminder rest).schedules.get? id = some after ∧
        system.RowStep .settle row after := by
  have settles : system.settling.map Reminder.id = some reminder.id := by
    rw [settling, running]
    rfl
  have unsettled : id ≠ reminder.id → ReminderAction.settle = .settle →
      system.settling.map Reminder.id ≠ some row.id := by
    intro differs _ same
    rw [settles, SqlTable.key_of_get? found] at same
    exact differs (Option.some.inj same).symm
  unfold settled
  dsimp only
  split
  · rename_i recurring
    dsimp only
    rw [ReminderTable.get?_advanceReminder, found, Option.map_some]
    by_cases selected : id = reminder.id
    · obtain ⟨state, current⟩ := listed.current reminder List.mem_cons_self
      rw [selected, current] at found
      cases found
      rw [if_pos selected]
      exact ⟨_, rfl, .advanced rfl settles recurring⟩
    · exact ⟨_, by rw [if_neg selected], .kept (unsettled selected)⟩
  · exact rowStep_setReminderState (fun same => by cases same) found unsettled

theorem Moves.rowStep (moves : system.Moves action next)
    (wellKept : system.WellKept) {id : ReminderId} {row : Reminder}
    (found : system.schedules.get? id = some row) :
    ∃ after, next.schedules.get? id = some after ∧
      system.RowStep action row after := by
  cases moves with
  | create draft schedules inserted =>
    refine ⟨row, wellKept.get?_create inserted found, .kept ?_⟩
    rintro ⟨⟩
  | cancel target =>
    apply rowStep_setReminderState (by simp) found
    rintro _ ⟨⟩
  | settle number nowMs reminder rest running =>
    exact rowStep_settled running (wellKept.listed _ running) found
  | _ =>
    refine ⟨row, found, .kept ?_⟩
    rintro ⟨⟩

/-- Only a creation adds a row. -/
theorem Moves.row_source (moves : system.Moves action next)
    {id : ReminderId} (absent : system.schedules.get? id = none)
    {after : Reminder} (found : next.schedules.get? id = some after) :
    ∃ draft : ReminderDraft, action = .create draft ∧
      id = ⟨system.minted⟩ ∧
      after = draft.reminder ⟨system.minted⟩ system.clock := by
  cases moves with
  | create draft schedules inserted =>
    rw [SqlTable.get?_insert inserted] at found
    split at found
    · rename_i same
      cases found
      exact ⟨draft, rfl, same, rfl⟩
    · rw [absent] at found
      cases found
  | cancel target =>
    rw [cancelled, ReminderTable.cancelReminder,
      ReminderTable.get?_setReminderState, absent] at found
    cases found
  | settle number nowMs reminder rest running =>
    unfold settled at found
    dsimp only at found
    split at found
    · rw [ReminderTable.get?_advanceReminder, absent] at found
      cases found
    · rw [ReminderTable.completeReminder,
        ReminderTable.get?_setReminderState, absent] at found
      cases found
  | _ =>
    have same : system.schedules.get? id = some after := found
    rw [absent] at same
    cases same

theorem Moves.minted_le (moves : system.Moves action next) :
    system.minted ≤ next.minted := by
  cases moves with
  | create => exact Nat.le_succ _
  | settle => rw [settled_minted]
  | _ => exact Nat.le_refl _

theorem Moves.ids (moves : system.Moves action next)
    (wellKept : system.WellKept) {id : ReminderId} {after : Reminder}
    (found : next.schedules.get? id = some after) : id.value < next.minted := by
  cases source : system.schedules.get? id with
  | some row =>
    exact (wellKept.ids id row source).trans_le moves.minted_le
  | none =>
    obtain ⟨draft, rfl, rfl, -⟩ := moves.row_source source found
    cases moves with
    | create => exact Nat.lt_succ_self _

theorem Moves.listed (moves : system.Moves action next)
    (wellKept : system.WellKept) {pass : ReminderPass}
    (running : next.pass = some pass) : next.Listed pass := by
  cases moves with
  | elapse ms =>
    refine (wellKept.listed pass running).carry (.refl _) rfl rfl ?_ ?_
    · dsimp only
      omega
    · exact fun _ _ state found => ⟨state, found⟩
  | create draft schedules inserted =>
    refine (wellKept.listed pass running).carry (.refl _) rfl rfl le_rfl ?_
    exact fun _ _ state found =>
      ⟨state, wellKept.get?_create inserted found⟩
  | cancel target =>
    refine (wellKept.listed pass running).carry (.refl _) rfl rfl le_rfl ?_
    exact fun _ _ _ found => exists_get?_setReminderState found
  | list includeInactive => exact wellKept.listed pass running
  | beginPass due idle isDue =>
    cases running
    constructor
    · rfl
    · exact isDue.nodup
    · intro reminder member
      exact (isDue.mem_iff.mp member).2.2
    · intro reminder member
      exact ⟨reminder.state, (isDue.mem_iff.mp member).1⟩
  | notify number nowMs reminder rest before =>
    cases running
    refine (wellKept.listed _ before).carry (.refl _) rfl rfl le_rfl ?_
    exact fun _ _ state found => ⟨state, found⟩
  | settle number nowMs reminder rest before =>
    have left := settled_listed (wellKept.listed _ before)
    rw [settled_pass] at running
    cases running
    exact left
  | abandon number nowMs reminder rest notified before =>
    cases running
    refine (wellKept.listed _ before).carry (List.sublist_cons_self _ _)
      rfl rfl le_rfl ?_
    exact fun _ _ state found => ⟨state, found⟩
  | endPass => cases running

theorem Moves.passes_le (moves : system.Moves action next) :
    system.passes ≤ next.passes := by
  cases moves with
  | beginPass => exact Nat.le_succ _
  | settle => rw [settled_passes]
  | _ => exact Nat.le_refl _

/-- A step notifies only the first reminder its pass has left. -/
theorem Moves.firings_eq (moves : system.Moves action next) :
    next.firings = system.firings ∨
      ∃ number nowMs reminder rest,
        system.pass =
            some { number, nowMs, due := reminder :: rest,
                   notified := false } ∧
          next = system.notified
            { number, nowMs, due := reminder :: rest, notified := false }
            reminder := by
  cases moves with
  | notify number nowMs reminder rest running =>
    exact .inr ⟨number, nowMs, reminder, rest, running, rfl⟩
  | settle => exact .inl (by rw [settled_firings])
  | _ => exact .inl rfl

theorem Moves.fired (moves : system.Moves action next)
    (wellKept : system.WellKept) :
    ∀ firing ∈ next.firings, firing.pass ≤ next.passes := by
  intro firing member
  rcases moves.firings_eq with same | ⟨number, nowMs, reminder, rest, running, rfl⟩
  · rw [same] at member
    exact (wellKept.fired firing member).trans moves.passes_le
  · rcases List.mem_append.mp member with older | new
    · exact (wellKept.fired firing older).trans moves.passes_le
    · rw [List.mem_singleton] at new
      rw [new]
      exact (wellKept.listed _ running).number.le

theorem step_wellKept (wellKept : system.WellKept)
    (steps : system.step action = some next) : next.WellKept := by
  have moves := moves_of_step steps
  constructor
  · exact fun _ _ found => moves.ids wellKept found
  · exact fun _ running => moves.listed wellKept running
  · exact moves.fired wellKept

theorem run_wellKept {clock : Int} {actions : List ReminderAction}
    (runs : machine.run (started clock) actions = some system) :
    system.WellKept :=
  machine.run_preserves (fun _ _ _ => step_wellKept)
    (started_wellKept clock) runs

/-- The last day of January 2026 at nine in the morning, every month. -/
def lastOfJanuary : ReminderDraft where
  mediaUri := "spotify:album:4aawyAB9vmqN3uQ7FjRGTy"
  mediaKind := .album
  name := "Album"
  subtitle := "Artist"
  imageUrl := none
  anchorAtMs := 1769850000000
  recurrence := .monthly
  tz := "UTC"
  message := none

/-- A pass over one reminder that is due. -/
def passOver (reminder : Reminder) : List ReminderAction :=
  [.beginPass [reminder], .notify, .settle, .endPass]

/-- The reminder fires on the last day of January and on the last day of
February. -/
def lastOfJanuaryRun : List ReminderAction :=
  let first := lastOfJanuary.reminder ⟨0⟩ 1769800000000
  .create lastOfJanuary :: .elapse 50000000 :: passOver first ++
    .elapse 2419200000 :: passOver { first with nextDueAtMs := 1772269200000 }

/-- A reminder that was cancelled after some passes had begun: only these
passes have notified it, and no later one lists it. -/
structure Retired (system : ReminderSystem) (id : ReminderId)
    (passesBefore : Nat) : Prop where
  begun : passesBefore ≤ system.passes
  ended : ∃ row, system.schedules.get? id = some row ∧ row.state ≠ .active
  silent : ∀ firing ∈ system.firings,
    firing.notification.reminderId = id → firing.pass ≤ passesBefore
  unlisted : ∀ pass, system.pass = some pass → passesBefore < pass.number →
    ∀ reminder ∈ pass.due, reminder.id ≠ id

theorem cancelled_retired (wellKept : system.WellKept) {id : ReminderId}
    (known : (system.schedules.get? id).isSome = true) :
    (system.cancelled id).Retired id system.passes := by
  obtain ⟨row, found⟩ := Option.isSome_iff_exists.mp known
  constructor
  · exact Nat.le_refl _
  · refine ⟨{ row with state := .cancelled }, ?_, by simp⟩
    rw [cancelled, ReminderTable.cancelReminder,
      ReminderTable.get?_setReminderState, found, Option.map_some, if_pos rfl]
  · exact fun firing member _ => wellKept.fired firing member
  · intro pass running late
    have number := (wellKept.listed pass running).number
    exact absurd late (by omega)

theorem RowStep.ended {row after : Reminder}
    (changes : system.RowStep action row after)
    (ended : row.state ≠ .active) : after.state ≠ .active := by
  cases changes with
  | kept => exact ended
  | retired state inactive => exact inactive
  | advanced => exact ended

/-- A pass lists what the one before it had left, or what is due as it
begins. -/
theorem Moves.due_cases (moves : system.Moves action next)
    {after : ReminderPass} (running : next.pass = some after) :
    (∃ pass, system.pass = some pass ∧ after.number = pass.number ∧
      after.due.Sublist pass.due) ∨
      system.pass = none ∧ next.schedules = system.schedules ∧
        system.schedules.IsDueList system.clock after.due := by
  cases moves with
  | beginPass due idle isDue =>
    cases running
    exact .inr ⟨idle, rfl, isDue⟩
  | notify number nowMs reminder rest before =>
    cases running
    exact .inl ⟨_, before, rfl, .refl _⟩
  | settle number nowMs reminder rest before =>
    rw [settled_pass] at running
    cases running
    exact .inl ⟨_, before, rfl, List.sublist_cons_self _ _⟩
  | abandon number nowMs reminder rest notified before =>
    cases running
    exact .inl ⟨_, before, rfl, List.sublist_cons_self _ _⟩
  | endPass => cases running
  | _ => exact .inl ⟨after, running, rfl, .refl _⟩

theorem step_retired (wellKept : system.WellKept)
    (steps : system.step action = some next) {id : ReminderId}
    {passesBefore : Nat} (retired : system.Retired id passesBefore) :
    next.Retired id passesBefore := by
  have moves := moves_of_step steps
  obtain ⟨row, found, ended⟩ := retired.ended
  constructor
  · exact retired.begun.trans moves.passes_le
  · obtain ⟨after, kept, changes⟩ := moves.rowStep wellKept found
    exact ⟨after, kept, changes.ended ended⟩
  · intro firing member own
    rcases moves.firings_eq with
      same | ⟨number, nowMs, reminder, rest, running, rfl⟩
    · rw [same] at member
      exact retired.silent firing member own
    · rcases List.mem_append.mp member with older | new
      · exact retired.silent firing older own
      · rw [List.mem_singleton] at new
        subst new
        by_contra late
        exact retired.unlisted _ running (Nat.lt_of_not_le late) reminder
          List.mem_cons_self own
  · intro after running late reminder member own
    rcases moves.due_cases running with
      ⟨pass, before, number, left⟩ | ⟨_, _, isDue⟩
    · exact retired.unlisted pass before (by omega) reminder
        (left.subset member) own
    · obtain ⟨current, active, -⟩ := isDue.mem_iff.mp member
      rw [own, found] at current
      cases current
      exact ended active

/-- Once a cancel has succeeded, the reminder is never active again and only
the passes that had begun before notify it. -/
theorem cancelled_stays_cancelled {clock : Int}
    {before after : List ReminderAction} {final : ReminderSystem}
    {id : ReminderId}
    (runs : machine.run (started clock) before = some system)
    (known : (system.schedules.get? id).isSome = true)
    (cancels : system.step (.cancel id) = some next)
    (continues : machine.run next after = some final) :
    (∃ row, final.schedules.get? id = some row ∧ row.state ≠ .active) ∧
      ∀ firing ∈ final.firings, firing.notification.reminderId = id →
        firing.pass ≤ system.passes := by
  have wellKept := run_wellKept runs
  have retired : next.Retired id system.passes := by
    cases cancels
    exact cancelled_retired wellKept known
  have preserved : ∀ current action following,
      WellKept current ∧ current.Retired id system.passes →
        machine.step current action = some following →
          following.WellKept ∧ following.Retired id system.passes := by
    intro current action following kept steps
    exact ⟨step_wellKept kept.1 steps, step_retired kept.1 steps kept.2⟩
  have atEnd := machine.run_preserves preserved
    ⟨step_wellKept wellKept cancels, retired⟩ continues
  exact ⟨atEnd.2.ended, atEnd.2.silent⟩

/-- A reminder that is cancelled after its notification and before its due time
moves is not listed by the next pass. -/
theorem lastOfJanuary_cancelled :
    ∃ system next final,
      machine.run (started 1769800000000) (lastOfJanuaryRun.take 4) =
          some system ∧
        system.step (.cancel ⟨0⟩) = some next ∧
        machine.run next
            [.settle, .endPass, .elapse 2419200000, .beginPass [], .endPass] =
          some final ∧
        (∃ row, final.schedules.get? ⟨0⟩ = some row ∧ row.state ≠ .active) ∧
        ∀ firing ∈ final.firings, firing.notification.reminderId = ⟨0⟩ →
          firing.pass ≤ system.passes := by
  have goesOn : ((machine.run (started 1769800000000)
      (lastOfJanuaryRun.take 4)).bind fun system =>
        (system.step (.cancel ⟨0⟩)).bind fun next =>
          (machine.run next
            [.settle, .endPass, .elapse 2419200000, .beginPass [],
              .endPass]).filter fun _ =>
                (system.schedules.get? ⟨0⟩).isSome).isSome = true := by
    decide +kernel
  obtain ⟨final, goesOn⟩ := Option.isSome_iff_exists.mp goesOn
  obtain ⟨system, runs, goesOn⟩ := Option.bind_eq_some_iff.mp goesOn
  obtain ⟨next, cancels, goesOn⟩ := Option.bind_eq_some_iff.mp goesOn
  obtain ⟨continues, known⟩ := Option.filter_eq_some_iff.mp goesOn
  exact ⟨system, next, final, runs, cancels, continues,
    cancelled_stays_cancelled runs known cancels continues⟩

/-- Every firing of a reminder is for an occurrence of its own, of which each
pass notifies at most one. -/
structure FiresOncePerOccurrence (system : ReminderSystem) : Prop where
  onceAPass : system.firings.Pairwise fun first second =>
    first.notification.reminderId = second.notification.reminderId →
      first.pass ≠ second.pass
  increasing : system.firings.Pairwise fun first second =>
    first.notification.reminderId = second.notification.reminderId →
      first.notification.dueAtMs < second.notification.dueAtMs
  anchored : ∀ firing ∈ system.firings, ∃ row index,
    system.schedules.get? firing.notification.reminderId = some row ∧
      firing.notification.dueAtMs =
        row.recurrence.occurrence row.anchorAtMs index
  scheduled : ∀ id row, system.schedules.get? id = some row →
    ∃ index, row.nextDueAtMs = row.recurrence.occurrence row.anchorAtMs index
  advanced : ∀ advance ∈ system.advances,
    advance.reminder.recurrence.IsNextOccurrence advance.reminder.anchorAtMs
      advance.atMs advance.nextDueAtMs

/-- Whenever a next due time is computed, it is within reach. -/
def Timely (system : ReminderSystem) : ReminderAction → Prop
  | .create draft =>
    draft.recurrence.isRecurring = true → draft.anchorAtMs ≤ system.clock →
      draft.recurrence.WithinReach draft.anchorAtMs draft.anchorAtMs
        system.clock
  | .settle =>
    ∀ reminder, system.settling = some reminder →
      reminder.recurrence.isRecurring = true →
        reminder.recurrence.WithinReach reminder.anchorAtMs
          reminder.nextDueAtMs system.clock
  | _ => True

/-- A row that a pass may still notify. -/
def MayFire (system : ReminderSystem) (row : Reminder) : Prop :=
  (∃ pass, system.pass = some pass ∧
    ∃ reminder ∈ pass.awaiting, reminder.id = row.id) ∨
  row.state = .active ∧ system.settling.map Reminder.id ≠ some row.id

/-- Every notified occurrence is over before its reminder may fire again, and
the running pass does not notify a reminder twice. -/
structure Ordered (system : ReminderSystem) : Prop where
  facts : system.FiresOncePerOccurrence
  passed : ∀ firing ∈ system.firings, ∀ row,
    system.schedules.get? firing.notification.reminderId = some row →
      firing.notification.dueAtMs ≤ row.nextDueAtMs ∧
        (system.MayFire row → firing.notification.dueAtMs < row.nextDueAtMs)
  notAgain : ∀ firing ∈ system.firings, firing.pass = system.passes →
    ∀ pass, system.pass = some pass → ∀ reminder ∈ pass.awaiting,
      reminder.id ≠ firing.notification.reminderId

theorem started_ordered (clock : Int) : (started clock).Ordered := by
  constructor
  · constructor
    · exact .nil
    · exact .nil
    · intro firing member
      cases member
    · intro id row found
      cases found
    · intro advance member
      cases member
  · intro firing member
    cases member
  · intro firing member
    cases member

theorem settling_eq_none {pass : ReminderPass}
    (running : system.pass = some pass) (fresh : pass.notified = false) :
    system.settling = none := by
  rw [settling, running, Option.bind_some, ReminderPass.settling, fresh]
  rfl

/-- What a pass has yet to notify after a step, it had before, unless the step
begins it. -/
theorem Moves.awaiting_cases (moves : system.Moves action next)
    {after : ReminderPass} (running : next.pass = some after)
    {reminder : Reminder} (waits : reminder ∈ after.awaiting) :
    (∃ pass, system.pass = some pass ∧ next.passes = system.passes ∧
      reminder ∈ pass.awaiting) ∨
      system.pass = none ∧ next.passes = system.passes + 1 ∧
        system.schedules.get? reminder.id = some reminder ∧
        reminder.state = .active := by
  cases moves with
  | beginPass due idle isDue =>
    cases running
    have member : reminder ∈ due := waits
    obtain ⟨found, active, -⟩ := isDue.mem_iff.mp member
    exact .inr ⟨idle, rfl, found, active⟩
  | notify number nowMs first rest before =>
    cases running
    exact .inl ⟨_, before, rfl, List.mem_cons_of_mem _ waits⟩
  | settle number nowMs first rest before =>
    rw [settled_pass] at running
    cases running
    exact .inl ⟨_, before, settled_passes _ _ _, waits⟩
  | abandon number nowMs first rest notified before =>
    cases running
    refine .inl ⟨_, before, rfl, ?_⟩
    cases notified with
    | false => exact List.mem_cons_of_mem _ waits
    | true => exact waits
  | endPass => cases running
  | _ => exact .inl ⟨after, running, rfl, waits⟩

/-- Unless a write failed, a reminder stops being settled only by being
settled. -/
theorem Moves.unsettled (moves : system.Moves action next)
    (writes : action ≠ .abandon) {id : ReminderId}
    (before : action = .settle → system.settling.map Reminder.id ≠ some id)
    (after : next.settling.map Reminder.id ≠ some id) :
    system.settling.map Reminder.id ≠ some id := by
  cases moves with
  | beginPass due idle isDue =>
    rw [settling, idle]
    rintro ⟨⟩
  | notify number nowMs reminder rest running =>
    rw [settling_eq_none running rfl]
    rintro ⟨⟩
  | settle => exact before rfl
  | abandon => exact absurd rfl writes
  | endPass number nowMs notified running =>
    have none : system.settling = none := by
      rw [settling, running, Option.bind_some, ReminderPass.settling]
      exact ite_self _
    rw [none]
    rintro ⟨⟩
  | _ => exact after

theorem Moves.awaiting_mayFire (moves : system.Moves action next)
    {row : Reminder} (found : system.schedules.get? row.id = some row)
    (waits : ∃ pass, next.pass = some pass ∧
      ∃ reminder ∈ pass.awaiting, reminder.id = row.id) :
    system.MayFire row := by
  obtain ⟨after, running, reminder, waits, own⟩ := waits
  rcases moves.awaiting_cases running waits with
    ⟨pass, before, -, waited⟩ | ⟨idle, -, current, active⟩
  · exact .inl ⟨pass, before, reminder, waited, own⟩
  · rw [own, found] at current
    cases current
    refine .inr ⟨active, ?_⟩
    rw [settling, idle]
    rintro ⟨⟩

/-- A reminder that may fire after a step could before, or has advanced. -/
theorem Moves.mayFire (moves : system.Moves action next)
    (writes : action ≠ .abandon) {row after : Reminder}
    (found : system.schedules.get? row.id = some row)
    (changes : system.RowStep action row after) (may : next.MayFire after) :
    system.MayFire row ∧ after.nextDueAtMs = row.nextDueAtMs ∨
      action = .settle ∧ system.settling.map Reminder.id = some row.id ∧
        row.recurrence.isRecurring = true ∧
        after.nextDueAtMs =
          row.recurrence.nextOccurrence row.nextDueAtMs system.clock := by
  cases changes with
  | kept unsettled =>
    refine .inl ⟨?_, rfl⟩
    rcases may with waits | ⟨active, free⟩
    · exact moves.awaiting_mayFire found waits
    · exact .inr ⟨active, moves.unsettled writes unsettled free⟩
  | retired state ended =>
    refine .inl ⟨?_, rfl⟩
    rcases may with waits | ⟨active, -⟩
    · exact moves.awaiting_mayFire found waits
    · exact absurd active ended
  | advanced settles own recurring => exact .inr ⟨settles, own, recurring, rfl⟩

/-- The reminder a pass settles is its row. -/
theorem WellKept.settling_row (wellKept : system.WellKept) {row : Reminder}
    (found : system.schedules.get? row.id = some row)
    (own : system.settling.map Reminder.id = some row.id) :
    ∃ state, system.settling = some { row with state := state } ∧
      row.nextDueAtMs ≤ system.clock := by
  obtain ⟨reminder, settles, same⟩ := Option.map_eq_some_iff.mp own
  obtain ⟨pass, running, first⟩ := Option.bind_eq_some_iff.mp settles
  have listed := wellKept.listed pass running
  have member : reminder ∈ pass.due := by
    unfold ReminderPass.settling at first
    split at first
    · exact List.mem_of_mem_head? first
    · cases first
  obtain ⟨state, current⟩ := listed.current reminder member
  rw [← same] at found
  rw [found] at current
  have due := listed.due reminder member
  cases current
  exact ⟨reminder.state, settles, due⟩

theorem RowStep.occurrence {row after : Reminder}
    (changes : system.RowStep action row after) (index : Nat) :
    after.recurrence.occurrence after.anchorAtMs index =
      row.recurrence.occurrence row.anchorAtMs index := by
  cases changes with
  | kept => rfl
  | retired => rfl
  | advanced => rfl

/-- A timely settlement advances a row to its next occurrence. -/
theorem Timely.advances (timely : system.Timely action)
    (wellKept : system.WellKept) {row : Reminder}
    (found : system.schedules.get? row.id = some row)
    (settles : action = .settle)
    (own : system.settling.map Reminder.id = some row.id)
    (recurring : row.recurrence.isRecurring = true) :
    row.nextDueAtMs ≤ system.clock ∧
      row.recurrence.IsNextOccurrence row.anchorAtMs system.clock
        (row.recurrence.nextOccurrence row.nextDueAtMs system.clock) := by
  obtain ⟨state, settling, due⟩ := wellKept.settling_row found own
  subst settles
  have reach := timely _ settling recurring
  exact ⟨due, reach.isNextOccurrence recurring⟩

theorem Moves.scheduled (moves : system.Moves action next)
    (timely : system.Timely action) (wellKept : system.WellKept)
    (facts : system.FiresOncePerOccurrence) {id : ReminderId}
    {after : Reminder} (found : next.schedules.get? id = some after) :
    ∃ index, after.nextDueAtMs =
      after.recurrence.occurrence after.anchorAtMs index := by
  cases source : system.schedules.get? id with
  | some row =>
    obtain ⟨other, kept, changes⟩ := moves.rowStep wellKept source
    rw [found] at kept
    cases kept
    obtain ⟨index, scheduled⟩ := facts.scheduled id row source
    cases changes with
    | kept => exact ⟨index, scheduled⟩
    | retired => exact ⟨index, scheduled⟩
    | advanced settles own recurring =>
      have current := source
      rw [← SqlTable.key_of_get? source] at current
      exact (timely.advances wellKept current settles own recurring).2.1
  | none =>
    obtain ⟨draft, rfl, -, rfl⟩ := moves.row_source source found
    rw [ReminderDraft.reminder]
    dsimp only
    rw [Recurrence.initialNextDue]
    split
    · exact ⟨0, Recurrence.occurrence_zero.symm⟩
    · rename_i past
      rw [not_or] at past
      have recurring := Bool.of_not_eq_false past.2
      exact ((timely recurring (Int.not_lt.mp past.1)).isNextOccurrence
        recurring).1

theorem Moves.passed (moves : system.Moves action next)
    (writes : action ≠ .abandon) (timely : system.Timely action)
    (wellKept : system.WellKept) (ordered : system.Ordered)
    {firing : Firing} (older : firing ∈ system.firings) {after : Reminder}
    (found : next.schedules.get? firing.notification.reminderId =
      some after) :
    firing.notification.dueAtMs ≤ after.nextDueAtMs ∧
      (next.MayFire after → firing.notification.dueAtMs < after.nextDueAtMs) := by
  obtain ⟨row, index, source, -⟩ := ordered.facts.anchored firing older
  obtain ⟨other, kept, changes⟩ := moves.rowStep wellKept source
  rw [found] at kept
  cases kept
  have current := source
  rw [← SqlTable.key_of_get? source] at current
  obtain ⟨before, strictly⟩ := ordered.passed firing older row source
  have grows : row.nextDueAtMs ≤ after.nextDueAtMs := by
    cases changes with
    | kept => exact le_rfl
    | retired => exact le_rfl
    | advanced settles own recurring =>
      obtain ⟨due, isNext⟩ :=
        timely.advances wellKept current settles own recurring
      exact (due.trans_lt isNext.2.1).le
  refine ⟨before.trans grows, ?_⟩
  intro may
  rcases moves.mayFire writes current changes may with
    ⟨mayBefore, same⟩ | ⟨settles, own, recurring, advanced⟩
  · rw [same]
    exact strictly mayBefore
  · obtain ⟨due, isNext⟩ :=
      timely.advances wellKept current settles own recurring
    rw [advanced]
    exact before.trans_lt (due.trans_lt isNext.2.1)

/-- The reminder that a pass notifies was neither notified by it before nor
for the occurrence that is due. -/
theorem Ordered.notified (ordered : system.Ordered)
    (wellKept : system.WellKept) {number : Nat} {nowMs : Int}
    {reminder : Reminder} {rest : List Reminder}
    (running : system.pass =
      some { number, nowMs, due := reminder :: rest, notified := false })
    {firing : Firing} (older : firing ∈ system.firings)
    (same : firing.notification.reminderId = reminder.id) :
    firing.pass ≠ number ∧
      firing.notification.dueAtMs < reminder.nextDueAtMs := by
  have listed := wellKept.listed _ running
  have waits : reminder ∈ ReminderPass.awaiting
      { number, nowMs, due := reminder :: rest, notified := false } :=
    List.mem_cons_self
  constructor
  · intro samePass
    exact ordered.notAgain firing older (samePass.trans listed.number) _
      running reminder waits same.symm
  · obtain ⟨state, current⟩ := listed.current reminder List.mem_cons_self
    rw [← same] at current
    exact (ordered.passed firing older _ current).2
      (.inl ⟨_, running, reminder, waits, same.symm⟩)

theorem Moves.advanced (moves : system.Moves action next)
    (timely : system.Timely action) (facts : system.FiresOncePerOccurrence) :
    ∀ advance ∈ next.advances,
      advance.reminder.recurrence.IsNextOccurrence advance.reminder.anchorAtMs
        advance.atMs advance.nextDueAtMs := by
  intro advance member
  cases moves with
  | settle number nowMs reminder rest running =>
    have settles : system.settling = some reminder := by
      rw [settling, running]
      rfl
    unfold settled at member
    dsimp only at member
    split at member
    · rename_i recurring
      rcases List.mem_append.mp member with older | new
      · exact facts.advanced advance older
      · rw [List.mem_singleton] at new
        subst new
        exact (timely reminder settles recurring).isNextOccurrence recurring
    · exact facts.advanced advance member
  | _ => exact facts.advanced advance member

theorem Moves.facts (moves : system.Moves action next)
    (timely : system.Timely action) (wellKept : system.WellKept)
    (ordered : system.Ordered) : next.FiresOncePerOccurrence := by
  have anchoredBefore : ∀ firing ∈ system.firings, ∃ row index,
      next.schedules.get? firing.notification.reminderId = some row ∧
        firing.notification.dueAtMs =
          row.recurrence.occurrence row.anchorAtMs index := by
    intro firing older
    obtain ⟨row, index, source, due⟩ := ordered.facts.anchored firing older
    obtain ⟨after, kept, changes⟩ := moves.rowStep wellKept source
    exact ⟨after, index, kept, due.trans (changes.occurrence index).symm⟩
  have advanced : ∀ advance ∈ next.advances,
      advance.reminder.recurrence.IsNextOccurrence advance.reminder.anchorAtMs
        advance.atMs advance.nextDueAtMs :=
    moves.advanced timely ordered.facts
  rcases moves.firings_eq with
    same | ⟨number, nowMs, reminder, rest, running, rfl⟩
  · constructor
    · rw [same]
      exact ordered.facts.onceAPass
    · rw [same]
      exact ordered.facts.increasing
    · rw [same]
      exact anchoredBefore
    · exact fun _ _ found => moves.scheduled timely wellKept ordered.facts found
    · exact advanced
  · have new : ∀ older ∈ system.firings,
        ∀ firing ∈ [Firing.mk number
          (reminder.notification system.firings.length nowMs)],
          older.notification.reminderId = firing.notification.reminderId →
            older.pass ≠ firing.pass ∧
              older.notification.dueAtMs < firing.notification.dueAtMs := by
      intro older member firing isNew sameReminder
      rw [List.mem_singleton] at isNew
      subst isNew
      exact ordered.notified wellKept running member sameReminder
    constructor
    · exact List.pairwise_append.mpr ⟨ordered.facts.onceAPass,
        List.pairwise_singleton _ _, fun older member firing isNew same =>
          (new older member firing isNew same).1⟩
    · exact List.pairwise_append.mpr ⟨ordered.facts.increasing,
        List.pairwise_singleton _ _, fun older member firing isNew same =>
          (new older member firing isNew same).2⟩
    · intro firing member
      rcases List.mem_append.mp member with older | isNew
      · exact anchoredBefore firing older
      · rw [List.mem_singleton] at isNew
        subst isNew
        obtain ⟨state, current⟩ :=
          (wellKept.listed _ running).current reminder List.mem_cons_self
        obtain ⟨index, due⟩ := ordered.facts.scheduled _ _ current
        exact ⟨_, index, current, due⟩
    · exact fun _ _ found => moves.scheduled timely wellKept ordered.facts found
    · exact advanced

/-- The reminder that was just notified is not notified again before it is
settled. -/
theorem notified_not_mayFire {number : Nat} {nowMs : Int}
    {reminder : Reminder} {rest : List Reminder}
    (listed : system.Listed
      { number, nowMs, due := reminder :: rest, notified := false })
    {row : Reminder} (same : row.id = reminder.id) :
    ¬ (system.notified
        { number, nowMs, due := reminder :: rest, notified := false }
        reminder).MayFire row := by
  rintro (⟨pass, running, other, waits, own⟩ | ⟨-, free⟩)
  · cases running
    exact listed.ne_of_mem_rest waits (own.trans same)
  · apply free
    rw [same]
    rfl

theorem Moves.notAgain (moves : system.Moves action next)
    (wellKept : system.WellKept) (ordered : system.Ordered) {firing : Firing}
    (older : firing ∈ system.firings) (samePass : firing.pass = next.passes)
    {pass : ReminderPass} (running : next.pass = some pass)
    {reminder : Reminder} (waits : reminder ∈ pass.awaiting) :
    reminder.id ≠ firing.notification.reminderId := by
  rcases moves.awaiting_cases running waits with
    ⟨current, before, passes, waited⟩ | ⟨idle, passes, -⟩
  · exact ordered.notAgain firing older (samePass.trans passes) current
      before reminder waited
  · have fired := wellKept.fired firing older
    omega

theorem step_ordered (writes : action ≠ .abandon)
    (timely : system.Timely action) (wellKept : system.WellKept)
    (ordered : system.Ordered) (steps : system.step action = some next) :
    next.Ordered := by
  have moves := moves_of_step steps
  refine ⟨moves.facts timely wellKept ordered, ?_, ?_⟩
  · intro firing member row found
    rcases moves.firings_eq with
      same | ⟨number, nowMs, reminder, rest, running, rfl⟩
    · rw [same] at member
      exact moves.passed writes timely wellKept ordered member found
    · rcases List.mem_append.mp member with older | new
      · exact moves.passed writes timely wellKept ordered older found
      · rw [List.mem_singleton] at new
        subst new
        have listed := wellKept.listed _ running
        obtain ⟨state, current⟩ := listed.current reminder List.mem_cons_self
        have rowIs : some { reminder with state := state } = some row :=
          current.symm.trans found
        cases rowIs
        refine ⟨le_rfl, fun may => ?_⟩
        exact absurd may (notified_not_mayFire listed rfl)
  · intro firing member samePass pass running reminder waits own
    by_cases older : firing ∈ system.firings
    · exact moves.notAgain wellKept ordered older samePass running waits own
    · rcases moves.firings_eq with
        same | ⟨number, nowMs, first, rest, before, rfl⟩
      · exact older (same ▸ member)
      · have new := (List.mem_append.mp member).resolve_left older
        rw [List.mem_singleton] at new
        subst new
        cases running
        exact (wellKept.listed _ before).ne_of_mem_rest waits own

/-- As long as every next due time is within reach, a reminder fires once per
occurrence of its anchor. -/
theorem run_firesOncePerOccurrence {clock : Int}
    {actions : List ReminderAction}
    (timely : machine.StepsMeet
      (fun current action => action ≠ .abandon ∧ current.Timely action)
      (started clock) actions)
    (runs : machine.run (started clock) actions = some system) :
    system.FiresOncePerOccurrence := by
  have preserved : ∀ current action following,
      WellKept current ∧ current.Ordered →
        action ≠ .abandon ∧ current.Timely action →
          machine.step current action = some following →
            following.WellKept ∧ following.Ordered := by
    rintro current action following ⟨wellKept, ordered⟩ ⟨writes, timely⟩ steps
    exact ⟨step_wellKept wellKept steps,
      step_ordered writes timely wellKept ordered steps⟩
  have atEnd := machine.run_preserves_of_stepsMeet preserved
    ⟨started_wellKept clock, started_ordered clock⟩ timely runs
  exact atEnd.2.facts

/-- From the last day of February the walk goes to the 28th of March, which is
no occurrence of a reminder for the 31st. -/
theorem lastOfJanuary_drifts :
    (∀ action ∈ lastOfJanuaryRun, action ≠ .abandon) ∧
      ∃ system, machine.run (started 1769800000000) lastOfJanuaryRun =
          some system ∧
        ¬ system.FiresOncePerOccurrence := by
  constructor
  · simp [lastOfJanuaryRun, passOver]
  · have ends : (machine.run (started 1769800000000) lastOfJanuaryRun).map
        (fun system => system.schedules.rows.map fun row =>
          (row.id, row.recurrence, row.anchorAtMs, row.nextDueAtMs)) =
        some [(⟨0⟩, .monthly, 1769850000000, 1774688400000)] := by
      decide +kernel
    obtain ⟨system, runs, rows⟩ := Option.map_eq_some_iff.mp ends
    refine ⟨system, runs, ?_⟩
    intro fires
    obtain ⟨row, only, read⟩ := List.map_eq_singleton_iff.mp rows
    have known : system.schedules.get? row.id = some row :=
      SqlTable.get?_eq_some.mpr ⟨by rw [only]; exact List.mem_cons_self, rfl⟩
    obtain ⟨index, scheduled⟩ := fires.scheduled _ row known
    rw [Prod.mk.injEq, Prod.mk.injEq, Prod.mk.injEq] at read
    obtain ⟨-, monthly, anchor, due⟩ := read
    rw [monthly, anchor, due] at scheduled
    have later : Recurrence.occurrence .monthly 1769850000000 1 <
        1774688400000 := by
      decide
    have earlier : 1774688400000 <
        Recurrence.occurrence .monthly 1769850000000 2 := by
      decide
    exact Recurrence.occurrence_ne_of_between rfl later earlier index scheduled

/-- The last day of February is within reach of the last day of January. -/
theorem lastOfJanuary_timely :
    machine.StepsMeet
      (fun current action => action ≠ .abandon ∧ current.Timely action)
      (started 1769800000000) (lastOfJanuaryRun.take 5) := by
  refine ⟨⟨by simp, ?_⟩, ?_⟩
  · intro _ past
    exact absurd past (by decide)
  intro next steps
  cases steps
  refine ⟨⟨by simp, trivial⟩, ?_⟩
  intro next steps
  cases steps
  refine ⟨⟨by simp, trivial⟩, ?_⟩
  intro next steps
  cases steps
  refine ⟨⟨by simp, trivial⟩, ?_⟩
  intro next steps
  cases steps
  refine ⟨⟨by simp, ?_⟩, fun _ _ => trivial⟩
  intro reminder settles recurring
  cases settles
  refine ⟨0, 1, by decide, by decide, ?_, ?_, ?_⟩
  · exact Recurrence.occurrence_zero.symm
  · apply Recurrence.isNextOccurrence_of_between recurring
    · decide
    · decide
  · refine ⟨by decide, by decide, ?_⟩
    intro other _ before
    obtain rfl : other = 0 := Nat.lt_one_iff.mp before
    decide

theorem lastOfJanuary_fires :
    ∃ system, machine.run (started 1769800000000) (lastOfJanuaryRun.take 5) =
        some system ∧
      system.FiresOncePerOccurrence :=
  ⟨_, rfl, run_firesOncePerOccurrence lastOfJanuary_timely rfl⟩

end ReminderSystem

end Spotuify
