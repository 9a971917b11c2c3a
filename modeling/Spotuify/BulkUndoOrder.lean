import Spotuify.RecoverableClaims
import Spotuify.UndoSteps

/-!
# A bulk undo works through its members in order

An undo reverses one member after another, and marks a member before it sends
the next reversal.  Whatever the other requests do, a member of an undo that
was sent is marked, or it is the first one that is not.
-/

namespace Spotuify

namespace Store

/-- An undo marked an operation. -/
def UndoneBy (store : Store) (issuer target : OperationId) : Prop :=
  ∃ row, store.operations.get? target = some row ∧
    row.undoneByOpId = some issuer

/-- No operation of this id is pending. -/
def IsOver (store : Store) (issuer : OperationId) : Prop :=
  ∀ row, store.operations.get? issuer = some row → row.status ≠ .pending

end Store

/-- An operation is offered, or some undo that names it has undone it, or has
disabled it when it ended. -/
def MutationSystem.OfferedUnlessUndone (system : MutationSystem)
    (target : OperationId) : Prop :=
  ∃ row, system.store.operations.get? target = some row ∧
    row.status ≠ .pending ∧
      (row.isOffered = true ∨
        ∃ issuer, (issuer, target) ∈ system.undoTargets ∧
          (row.undoneByOpId = some issuer ∨
            (row.reversible = false ∧ system.store.IsOver issuer)))

namespace MutationSystem

variable {topology : ProviderTopology} {system next : MutationSystem}
  {issuer : OperationId} {updates : List LogUpdate}

/-- Every undone row was sent by the undo that marked it. -/
def UndoneWereSent (system : MutationSystem) : Prop :=
  ∀ target row issuer, system.store.operations.get? target = some row →
    row.undoneByOpId = some issuer →
      (issuer, target) ∈ system.reversalsSent ∧
        (row.status = .undone ∨ row.status = .redone)

/-- One operation updates the log, and what it undoes or disables is on
record. -/
structure Updates (system next : MutationSystem) (issuer : OperationId)
    (updates : List LogUpdate) : Prop where
  operations : next.store.operations =
    LogUpdate.applyAll issuer system.store.operations updates
  targets : system.undoTargets ⊆ next.undoTargets
  sent : system.reversalsSent ⊆ next.reversalsSent
  undone : ∀ target, .undone target ∈ updates →
    (issuer, target) ∈ next.reversalsSent
  disabled : ∀ target, .disable target ∈ updates →
    (issuer, target) ∈ next.undoTargets ∧ next.store.IsOver issuer

namespace Updates

variable (updated : system.Updates next issuer updates)

include updated

theorem get?_of_row {target : OperationId} {row : Operation}
    (found : system.store.operations.get? target = some row) :
    next.store.operations.get? target =
      some (LogUpdate.rowAfterAll issuer row updates) := by
  rw [updated.operations, LogUpdate.get?_applyAll, found, Option.map_some]

theorem row_before {target : OperationId} {after : Operation}
    (found : next.store.operations.get? target = some after) :
    ∃ row, system.store.operations.get? target = some row ∧
      LogUpdate.rowAfterAll issuer row updates = after := by
  rw [updated.operations] at found
  exact (LogUpdate.get?_applyAll_eq_some issuer).mp found

theorem isOver {other : OperationId} (hasEnded : system.store.IsOver other) :
    next.store.IsOver other := by
  intro after found
  obtain ⟨row, before, rfl⟩ := updated.row_before found
  exact LogUpdate.ended_rowAfterAll (hasEnded row before)

theorem undoneWereSent (holds : system.UndoneWereSent) :
    next.UndoneWereSent := by
  intro target after other found marked
  obtain ⟨row, before, rfl⟩ := updated.row_before found
  have kept := @LogUpdate.rowAfterAll_induction issuer
    (fun after => after.operationId = target ∧
      ∀ other, after.undoneByOpId = some other →
        (other, target) ∈ next.reversalsSent ∧
          (after.status = .undone ∨ after.status = .redone))
    updates ?_ row ⟨SqlTable.key_of_get? before, fun other marked => by
      obtain ⟨inSent, status⟩ := holds target row other before marked
      exact ⟨updated.sent inSent, status⟩⟩
  · exact kept.2 other marked
  · rintro update member later ⟨own, kept⟩
    rw [LogUpdate.rowAfter_operationId]
    refine ⟨own, fun other marked => ?_⟩
    rcases LogUpdate.undoneByOpId_rowAfter marked with
      before | ⟨rfl, rfl, status⟩
    · obtain ⟨inSent, status⟩ := kept other before
      refine ⟨inSent, ?_⟩
      have ended : later.status ≠ .pending := by
        rcases status with status | status <;> simp [status]
      rcases @LogUpdate.rowAfter_of_ended issuer update later ended with
        same | ⟨-, succeeded, -⟩ | ⟨-, -, redone⟩ | ⟨-, disabled⟩
      · rwa [same]
      · simp [succeeded] at status
      · rw [redone]
        exact Or.inr rfl
      · rw [disabled]
        exact status
    · rw [own] at member
      exact ⟨updated.undone target member, Or.inl status⟩

/-- What an undo marked stays marked by it. -/
theorem undoneBy (holds : system.UndoneWereSent) {other target : OperationId}
    (undone : system.store.UndoneBy other target) :
    next.store.UndoneBy other target := by
  obtain ⟨row, found, marked⟩ := undone
  obtain ⟨-, status⟩ := holds target row other found marked
  refine ⟨_, updated.get?_of_row found, ?_⟩
  have kept := @LogUpdate.rowAfterAll_induction issuer
    (fun after => after.undoneByOpId = some other ∧
      (after.status = .undone ∨ after.status = .redone))
    updates ?_ row ⟨marked, status⟩
  · exact kept.1
  · rintro update member later ⟨marked, status⟩
    have ended : later.status ≠ .pending := by
      rcases status with status | status <;> simp [status]
    rcases @LogUpdate.rowAfter_of_ended issuer update later ended with
      same | ⟨-, succeeded, -⟩ | ⟨-, -, redone⟩ | ⟨-, disabled⟩
    · rw [same]
      exact ⟨marked, status⟩
    · simp [succeeded] at status
    · rw [redone]
      exact ⟨marked, Or.inr rfl⟩
    · rw [disabled]
      exact ⟨marked, status⟩

theorem offered (named : next.reversalsSent ⊆ next.undoTargets)
    {target : OperationId} (offered : system.OfferedUnlessUndone target) :
    next.OfferedUnlessUndone target := by
  obtain ⟨row, found, ended, holds⟩ := offered
  refine ⟨_, updated.get?_of_row found, LogUpdate.ended_rowAfterAll ended, ?_⟩
  have kept := @LogUpdate.rowAfterAll_induction issuer
    (fun after => after.operationId = target ∧ after.status ≠ .pending ∧
      (after.isOffered = true ∨
        ∃ other, (other, target) ∈ next.undoTargets ∧
          (after.undoneByOpId = some other ∨
            (after.reversible = false ∧ next.store.IsOver other))))
    updates ?_ row ⟨SqlTable.key_of_get? found, ended, ?_⟩
  · exact kept.2.2
  · rintro update member later ⟨own, ended, holds⟩
    rw [LogUpdate.rowAfter_operationId]
    refine ⟨own, @LogUpdate.ended_rowAfterAll issuer later [update] ended, ?_⟩
    rcases @LogUpdate.rowAfter_of_ended issuer update later ended with
      same | ⟨rfl, -, after⟩ | ⟨-, undone, after⟩ | ⟨rfl, after⟩
    · rwa [same]
    · rw [own] at member
      rw [after]
      exact Or.inr ⟨issuer, named (updated.undone target member), Or.inl rfl⟩
    · rw [after]
      rcases holds with offered | byOther
      · simp [undone] at offered
      · exact Or.inr byOther
    · rw [own] at member
      obtain ⟨isTarget, hasEnded⟩ := updated.disabled target member
      rw [after]
      exact Or.inr ⟨issuer, isTarget, Or.inr ⟨rfl, hasEnded⟩⟩
  · rcases holds with offered | ⟨other, isTarget, undone | ⟨disabled, hasEnded⟩⟩
    · exact Or.inl offered
    · exact Or.inr ⟨other, updated.targets isTarget, Or.inl undone⟩
    · exact Or.inr ⟨other, updated.targets isTarget,
        Or.inr ⟨disabled, updated.isOver hasEnded⟩⟩

end Updates

/-- What holds of a live undo: it marked the members that it went through, and
the others are as it found them. -/
structure Reversing (system : MutationSystem) (task : MutationTask)
    (header : BodyStep) (members : List Operation) : Prop where
  distinct : (members.map Operation.operationId).Nodup
  waiting : ∀ member ∈ members, member.status = .succeeded →
    .markUndone member.operationId ∉ task.done →
      ∃ row, system.store.operations.get? member.operationId = some row ∧
        row.status = .succeeded
  marked : ∀ member ∈ members,
    .markUndone member.operationId ∈ task.done →
      system.store.UndoneBy task.operationId member.operationId
  sends : ∀ target, (task.operationId, target) ∈ system.reversalsSent ↔
    .sendReversal target ∈ task.done
  targets : (header = .recordCandidates members ∧ task.done = []) ∨
    ∀ member ∈ members,
      (task.operationId, member.operationId) ∈ system.undoTargets
  listed : bulkMembers system.store.bulkUndoCandidates task.operationId =
      [] ∨
    bulkMembers system.store.bulkUndoCandidates task.operationId =
      members.map Operation.operationId
  offered : ∀ member ∈ members, member.isOffered = true →
    system.OfferedUnlessUndone member.operationId

/-- A task whose steps belong to no undo. -/
def IsForward (recorded : RecordedMutation) : Prop :=
  ∀ step ∈ recorded.body, step.isForward = true ∨
    (∃ subject, step = .linkSubject subject) ∧
      recordedKind recorded.request ≠ .undo

/-- Undos send their reversals in order, and what they act on is on
record. -/
structure UndoesInOrder (topology : ProviderTopology)
    (system : MutationSystem) : Prop where
  recoverable : system.Recoverable topology
  minted : ∀ pair ∈ system.undoTargets, pair.1.value < system.minted
  sent : system.reversalsSent ⊆ system.undoTargets
  members : ∀ outer,
    ∀ member ∈ bulkMembers system.store.bulkUndoCandidates outer,
      (outer, member) ∈ system.undoTargets
  offered : ∀ outer,
    ∀ member ∈ bulkMembers system.store.bulkUndoCandidates outer,
      system.OfferedUnlessUndone member
  undone : system.UndoneWereSent
  order : ∀ outer earlier member later,
    bulkMembers system.store.bulkUndoCandidates outer =
        earlier ++ member :: later →
      (outer, member) ∈ system.reversalsSent →
        ∀ before ∈ earlier, system.store.UndoneBy outer before
  subjects : ∀ target row subject,
    system.store.operations.get? target = some row → row.kind = .undo →
      row.subjectOpId = some subject → (target, subject) ∈ system.undoTargets
  requested : ∀ mutationId row outer subject dryRun force,
    system.store.mutationDedup.get? mutationId = some row →
      row.request = .opsUndo (some subject) dryRun force none →
        row.operationId = some outer → (outer, subject) ∈ system.undoTargets
  asked : ∀ task ∈ system.tasks, ∀ subject dryRun force,
    task.recorded.request = .opsUndo (some subject) dryRun force none →
      (task.operationId, subject) ∈ system.undoTargets
  lane : ∀ first ∈ system.tasks, ∀ second ∈ system.tasks,
    mutationLaneKind first.recorded.request = some .operation →
      mutationLaneKind second.recorded.request = some .operation →
        first.operationId = second.operationId
  guards : ∀ task ∈ system.tasks, ∀ target,
    task.guard = some (.disableUndo target) →
      (task.operationId, target) ∈ system.undoTargets
  tasks : ∀ task ∈ system.tasks, IsForward task.recorded ∨
    ∃ header members, task.recorded.Reverses header members ∧
      system.Reversing task header members

/-- What is on record before a task takes a step. -/
structure Acts (system : MutationSystem) (task : MutationTask)
    (step : BodyStep) : Prop where
  lane : ∀ target, step = .markUndone target →
    mutationLaneKind task.recorded.request = some .operation
  sent : ∀ target, step = .markUndone target →
    (task.operationId, target) ∈ system.reversalsSent
  names : ∀ target, step = .sendReversal target →
    (task.operationId, target) ∈ system.undoTargets
  order : ∀ earlier target later, step = .sendReversal target →
    bulkMembers system.store.bulkUndoCandidates task.operationId =
        earlier ++ target :: later →
      ∀ before ∈ earlier, system.store.UndoneBy task.operationId before
  links : ∀ subject, step = .linkSubject subject →
    recordedKind task.recorded.request = .undo →
      (task.operationId, subject) ∈ system.undoTargets
  unsent : ∀ members, step = .recordCandidates members → ∀ target,
    (task.operationId, target) ∉ system.reversalsSent
  offered : ∀ members, step = .recordCandidates members →
    ∀ member ∈ members, system.OfferedUnlessUndone member.operationId
  uncertain : ∀ target, step.uncertainGuard = some (.disableUndo target) →
    (task.operationId, target) ∈ system.undoTargets

variable {task : MutationTask} {step : BodyStep} {rest : List BodyStep}

theorem Acts.of_forward (forward : step.isForward = true ∨
    (∃ subject, step = .linkSubject subject) ∧
      recordedKind task.recorded.request ≠ .undo) :
    system.Acts task step := by
  rcases forward with forward | ⟨⟨subject, rfl⟩, notUndo⟩
  · cases step with
    | recordCandidates members => cases forward
    | checkReversal member => cases forward
    | sendReversal member => cases forward
    | awaitReversal member => cases forward
    | markUndone member => cases forward
    | linkSubject subject => cases forward
    | _ => constructor <;> simp [BodyStep.uncertainGuard]
  · constructor <;> simp [BodyStep.uncertainGuard, notUndo]

variable {header : BodyStep} {members : List Operation}

theorem Acts.of_header (reverses : task.recorded.Reverses header members)
    (reversing : system.Reversing task header members)
    (nothing : task.done = []) : system.Acts task header := by
  have unsent : ∀ target,
      (task.operationId, target) ∉ system.reversalsSent := by
    intro target inSent
    have sends := (reversing.sends target).mp inSent
    rw [nothing] at sends
    exact List.not_mem_nil sends
  rcases reverses.links with ⟨rfl, offered⟩ | ⟨selected, rfl, rfl, -⟩
  · constructor
    case unsent => exact fun _ _ => unsent
    case offered =>
      intro listed same member isMember
      cases same
      exact reversing.offered member isMember (offered member isMember)
    all_goals simp [BodyStep.uncertainGuard]
  · constructor
    case links =>
      intro subject same _
      cases same
      rcases reversing.targets with ⟨other, -⟩ | targets
      · cases other
      · exact targets selected List.mem_cons_self
    all_goals simp [BodyStep.uncertainGuard]

theorem Acts.of_member {earlier later : List Operation} {member : Operation}
    {inner last : List BodyStep}
    (reverses : task.recorded.Reverses header (earlier ++ member :: later))
    (reversing : system.Reversing task header (earlier ++ member :: later))
    (isStep : undoSingleSteps member = inner ++ step :: last)
    (isDone : task.done =
      header :: (earlier.flatMap undoSingleSteps ++ inner)) :
    system.Acts task step := by
  have isTarget : (task.operationId, member.operationId) ∈
      system.undoTargets := by
    rcases reversing.targets with ⟨-, nothing⟩ | targets
    · rw [nothing] at isDone
      cases isDone
    · exact targets member (by simp)
  have ordered : ∀ before target after,
      bulkMembers system.store.bulkUndoCandidates task.operationId =
          before ++ target :: after → target = member.operationId →
        ∀ other ∈ before,
          system.store.UndoneBy task.operationId other := by
    rintro before target after split rfl other isBefore
    rcases reversing.listed with nothing | listed
    · simp [nothing] at split
    · have distinct := reversing.distinct
      rw [split] at listed
      rw [← listed, List.nodup_append, List.nodup_cons] at distinct
      obtain ⟨-, ⟨notLater, -⟩, apart⟩ := distinct
      rw [List.map_append, List.map_cons] at listed
      obtain ⟨rfl, -, -⟩ := (List.append_cons_inj_of_notMem
        (fun inBefore => apart _ inBefore _ List.mem_cons_self rfl)
        notLater).mp listed
      obtain ⟨operation, isEarlier, rfl⟩ := List.mem_map.mp isBefore
      apply reversing.marked operation (List.mem_append_left _ isEarlier)
      rw [isDone]
      apply List.mem_cons_of_mem
      apply List.mem_append_left
      rw [List.mem_flatMap]
      exact ⟨operation, isEarlier, by simp [undoSingleSteps]⟩
  rcases undoSingleSteps_eq_append_cons isStep with ⟨rfl, rfl⟩ | ⟨rfl, rfl⟩ |
    ⟨rfl, rfl⟩ | ⟨rfl, rfl⟩
  · constructor <;> simp [BodyStep.uncertainGuard]
  · constructor
    case names =>
      intro target same
      cases same
      exact isTarget
    case order =>
      intro before target after same split
      cases same
      exact ordered before _ after split rfl
    all_goals simp [BodyStep.uncertainGuard]
  · constructor
    case uncertain =>
      intro target same
      cases same
      exact isTarget
    all_goals simp
  · constructor
    case lane => exact fun _ _ => reverses.lane
    case sent =>
      intro target same
      cases same
      rw [reversing.sends, isDone]
      simp
    case uncertain =>
      intro target same
      cases same
      exact isTarget
    all_goals simp

theorem UndoesInOrder.acts (order : UndoesInOrder topology system)
    (live : task ∈ system.tasks) (isNext : task.remaining = step :: rest) :
    system.Acts task step := by
  have ran := (order.recoverable.linked.apart.wellRun task live).ran
  rw [isNext] at ran
  rcases order.tasks task live with
    forward | ⟨header, members, reverses, reversing⟩
  · apply Acts.of_forward
    apply forward
    rw [ran]
    simp
  · rcases reverses.next ran with ⟨nothing, rfl⟩ |
      ⟨earlier, member, later, inner, last, rfl, isStep, isDone⟩
    · exact .of_header reverses reversing nothing
    · exact .of_member reverses reversing isStep isDone

theorem mem_performed_sent {pair : OperationId × OperationId}
    {store : Store} :
    pair ∈ (system.performed task step rest store).reversalsSent ↔
      (pair.1 = task.operationId ∧ step = .sendReversal pair.2) ∨
        pair ∈ system.reversalsSent := by
  obtain ⟨outer, target⟩ := pair
  rw [performed, List.mem_append]
  cases step <;> simp [BodyStep.sends, eq_comm]

theorem mem_performed_targets {pair : OperationId × OperationId}
    {store : Store} :
    pair ∈ (system.performed task step rest store).undoTargets ↔
      (pair.1 = task.operationId ∧ ∃ members,
          step = .recordCandidates members ∧
            pair.2 ∈ members.map Operation.operationId) ∨
        pair ∈ system.undoTargets := by
  obtain ⟨outer, target⟩ := pair
  rw [performed, List.mem_append]
  cases step with
  | recordCandidates members =>
    simp only [BodyStep.records, List.mem_map, Prod.mk.injEq,
      BodyStep.recordCandidates.injEq, exists_eq_left']
    constructor
    · rintro (⟨member, isMember, rfl, rfl⟩ | old)
      · exact Or.inl ⟨rfl, member, isMember, rfl⟩
      · exact Or.inr old
    · rintro (⟨rfl, member, isMember, rfl⟩ | old)
      · exact Or.inl ⟨member, isMember, rfl, rfl⟩
      · exact Or.inr old
  | _ => simp [BodyStep.records]

theorem mem_updates_undone {target : OperationId} :
    .undone target ∈ step.updates ↔ step = .markUndone target := by
  cases step <;> simp [BodyStep.updates, eq_comm]

theorem mem_updates_subject {subject : OperationId} :
    .subject subject ∈ step.updates ↔ step = .linkSubject subject := by
  cases step <;> simp [BodyStep.updates, eq_comm]

/-- A step updates the log on record. -/
theorem Acts.updated (acts : system.Acts task step) {store : Store}
    (operations : store.operations = LogUpdate.applyAll task.operationId
      system.store.operations step.updates) :
    system.Updates (system.performed task step rest store) task.operationId
      step.updates where
  operations := operations
  targets _ old := mem_performed_targets.mpr (Or.inr old)
  sent _ old := mem_performed_sent.mpr (Or.inr old)
  undone target member := by
    rw [mem_updates_undone] at member
    exact mem_performed_sent.mpr (Or.inr (acts.sent target member))
  disabled target member := by
    cases step <;> simp [BodyStep.updates] at member

/-- What holds of a live undo while others act. -/
theorem Reversing.mono (reversing : system.Reversing task header members)
    (waiting : ∀ target row,
      system.store.operations.get? target = some row →
        row.status = .succeeded →
          ∃ after, next.store.operations.get? target = some after ∧
            after.status = .succeeded)
    (undoneBy : ∀ target, system.store.UndoneBy task.operationId target →
      next.store.UndoneBy task.operationId target)
    (offered : ∀ target, system.OfferedUnlessUndone target →
      next.OfferedUnlessUndone target)
    (sent : ∀ target, (task.operationId, target) ∈ next.reversalsSent ↔
      (task.operationId, target) ∈ system.reversalsSent)
    (targets : system.undoTargets ⊆ next.undoTargets)
    (listed : bulkMembers next.store.bulkUndoCandidates task.operationId =
      bulkMembers system.store.bulkUndoCandidates task.operationId) :
    next.Reversing task header members where
  distinct := reversing.distinct
  waiting member isMember succeeded isWaiting := by
    obtain ⟨row, found, status⟩ :=
      reversing.waiting member isMember succeeded isWaiting
    exact waiting _ row found status
  marked member isMember isMarked :=
    undoneBy _ (reversing.marked member isMember isMarked)
  sends target := (sent target).trans (reversing.sends target)
  targets := reversing.targets.imp id fun named member isMember =>
    targets (named member isMember)
  listed := by
    rw [listed]
    exact reversing.listed
  offered member isMember isOffered :=
    offered _ (reversing.offered member isMember isOffered)

/-- What holds of a live undo that does not act itself. -/
theorem Reversing.of_updates
    (reversing : system.Reversing task header members)
    (updated : system.Updates next issuer updates)
    (undone : system.UndoneWereSent)
    (named : next.reversalsSent ⊆ next.undoTargets)
    (sent : ∀ target, (task.operationId, target) ∈ next.reversalsSent →
      (task.operationId, target) ∈ system.reversalsSent)
    (listed : bulkMembers next.store.bulkUndoCandidates task.operationId =
      bulkMembers system.store.bulkUndoCandidates task.operationId)
    (notUndone : ∀ target, .undone target ∉ updates) :
    next.Reversing task header members := by
  apply reversing.mono _ (fun _ => updated.undoneBy undone)
    (fun _ => updated.offered named)
    (fun target => ⟨sent target, fun inSent => updated.sent inSent⟩)
    updated.targets listed
  intro target row found status
  exact ⟨_, updated.get?_of_row found,
    LogUpdate.succeeded_rowAfterAll status (notUndone _)⟩

/-- A member that is marked next was checked and is still as it was found. -/
theorem Reversing.succeeded_of_markUndone
    (reverses : task.recorded.Reverses header members)
    (reversing : system.Reversing task header members)
    (wellRun : task.WellRun topology system.minted) {target : OperationId}
    (isNext : task.remaining = .markUndone target :: rest) :
    ∃ row, system.store.operations.get? target = some row ∧
      row.status = .succeeded := by
  have ran := wellRun.ran
  rw [isNext] at ran
  rcases reverses.next ran with ⟨-, isHeader⟩ |
    ⟨earlier, member, later, inner, last, rfl, isStep, isDone⟩
  · rcases reverses.links with ⟨rfl, -⟩ | ⟨selected, -, rfl, -⟩
    · cases isHeader
    · cases isHeader
  · rcases undoSingleSteps_eq_append_cons isStep with ⟨-, other⟩ |
      ⟨-, other⟩ | ⟨-, other⟩ | ⟨rfl, same⟩
    · cases other
    · cases other
    · cases other
    · cases same
      apply reversing.waiting member (by simp)
      · have checked := List.all_eq_true.mp wellRun.maySucceed
          (.checkReversal member) (by rw [isDone]; simp)
        simp only [BodyStep.maySucceed] at checked
        split at checked
        · rename_i accepted
          obtain ⟨offered, -⟩ := validateUndoable_eq_ok.mp accepted
          exact (Operation.isOffered_eq_true.mp offered).2
        · cases checked
      · have distinct := reversing.distinct
        rw [List.map_append, List.map_cons, List.nodup_append] at distinct
        rw [isDone]
        intro isMarked
        rcases List.mem_cons.mp isMarked with isHeader | isMarked
        · rcases reverses.links with ⟨rfl, -⟩ | ⟨selected, -, rfl, -⟩
          · cases isHeader
          · cases isHeader
        · rcases List.mem_append.mp isMarked with isEarlier | isInner
          · obtain ⟨other, inEarlier, isStep⟩ :=
              List.mem_flatMap.mp isEarlier
            simp only [undoSingleSteps, List.mem_cons, reduceCtorEq,
              BodyStep.markUndone.injEq, false_or, List.not_mem_nil,
              or_false] at isStep
            exact distinct.2.2 _ (List.mem_map_of_mem inEarlier) _
              List.mem_cons_self isStep.symm
          · simp at isInner

/-- What holds of a live undo after it took a step. -/
theorem Reversing.performs
    (reverses : task.recorded.Reverses header members)
    (reversing : system.Reversing task header members)
    (wellRun : task.WellRun topology system.minted)
    (isNext : task.remaining = step :: rest) {store : Store}
    (updated : system.Updates (system.performed task step rest store)
      task.operationId step.updates)
    (undone : system.UndoneWereSent)
    (named : (system.performed task step rest store).reversalsSent ⊆
      (system.performed task step rest store).undoTargets)
    (candidates : store.bulkUndoCandidates =
      step.candidatesAfter task.operationId system.store.bulkUndoCandidates) :
    (system.performed task step rest store).Reversing
      { task with remaining := rest } header members := by
  have done := wellRun.done_next isNext
  have ran := wellRun.ran
  rw [isNext] at ran
  refine ⟨reversing.distinct, ?_, ?_, ?_, ?_, ?_, ?_⟩
  · intro member isMember succeeded isWaiting
    rw [done, List.mem_append, List.mem_singleton, not_or] at isWaiting
    obtain ⟨row, found, status⟩ :=
      reversing.waiting member isMember succeeded isWaiting.1
    refine ⟨_, updated.get?_of_row found,
      LogUpdate.succeeded_rowAfterAll status ?_⟩
    rw [mem_updates_undone, SqlTable.key_of_get? found]
    exact fun same => isWaiting.2 same.symm
  · intro member isMember isMarked
    rw [done, List.mem_append, List.mem_singleton] at isMarked
    rcases isMarked with before | rfl
    · exact updated.undoneBy undone (reversing.marked member isMember before)
    · obtain ⟨row, found, status⟩ :=
        reversing.succeeded_of_markUndone reverses wellRun isNext
      refine ⟨_, updated.get?_of_row found, ?_⟩
      simp [BodyStep.updates, LogUpdate.rowAfterAll, LogUpdate.rowAfter,
        LogUpdate.target, LogUpdate.guard, LogUpdate.change, status,
        SqlTable.key_of_get? found]
  · intro target
    rw [mem_performed_sent, done, List.mem_append, List.mem_singleton]
    change _ ∨ (task.operationId, target) ∈ _ ↔ _
    rw [reversing.sends, or_comm]
    simp [eq_comm]
  · rcases reversing.targets with ⟨rfl, nothing⟩ | targets
    · right
      intro member isMember
      rcases reverses.next ran with ⟨-, rfl⟩ |
        ⟨earlier, other, later, inner, last, -, -, isDone⟩
      · exact mem_performed_targets.mpr (Or.inl ⟨rfl, members, rfl,
          List.mem_map_of_mem isMember⟩)
      · rw [nothing] at isDone
        cases isDone
    · exact Or.inr fun member isMember =>
        updated.targets (targets member isMember)
  · change bulkMembers store.bulkUndoCandidates task.operationId = [] ∨
      bulkMembers store.bulkUndoCandidates task.operationId = _
    rw [candidates]
    by_cases records : ∃ listed, step = .recordCandidates listed
    · obtain ⟨listed, rfl⟩ := records
      rw [BodyStep.bulkMembers_recordCandidates]
      rcases reverses.next ran with ⟨-, rfl⟩ |
        ⟨earlier, member, later, inner, last, -, isStep, -⟩
      · rcases reverses.links with ⟨same, -⟩ | ⟨selected, -, other, -⟩
        · cases same
          exact Or.inr rfl
        · cases other
      · rcases undoSingleSteps_eq_append_cons isStep with ⟨-, other⟩ |
          ⟨-, other⟩ | ⟨-, other⟩ | ⟨-, other⟩ <;> cases other
    · rw [BodyStep.bulkMembers_candidatesAfter_of_plain fun listed same =>
        records ⟨listed, same⟩]
      exact reversing.listed
  · intro member isMember offered
    exact updated.offered named (reversing.offered member isMember offered)

/-- The members that a step leaves to an undo are the recorded ones, or those
it had. -/
theorem bulkMembers_performed {store : Store}
    (candidates : store.bulkUndoCandidates =
      step.candidatesAfter task.operationId system.store.bulkUndoCandidates)
    (outer : OperationId) :
    (outer = task.operationId ∧ ∃ members, step = .recordCandidates members ∧
        bulkMembers store.bulkUndoCandidates outer =
          members.map Operation.operationId) ∨
      bulkMembers store.bulkUndoCandidates outer =
        bulkMembers system.store.bulkUndoCandidates outer := by
  rw [candidates]
  by_cases own : outer = task.operationId
  · subst own
    by_cases records : ∃ members, step = .recordCandidates members
    · obtain ⟨members, rfl⟩ := records
      exact Or.inl ⟨rfl, members, rfl,
        BodyStep.bulkMembers_recordCandidates members⟩
    · right
      rw [BodyStep.bulkMembers_candidatesAfter_of_plain fun members same =>
        records ⟨members, same⟩]
  · exact Or.inr (step.bulkMembers_candidatesAfter_of_ne own)

/-- The members before one whose reversal was sent stay undone. -/
theorem UndoesInOrder.performs_order (order : UndoesInOrder topology system)
    (acts : system.Acts task step) {store : Store}
    (candidates : store.bulkUndoCandidates =
      step.candidatesAfter task.operationId system.store.bulkUndoCandidates)
    (updated : system.Updates (system.performed task step rest store)
      task.operationId step.updates) :
    ∀ outer earlier member later,
      bulkMembers store.bulkUndoCandidates outer = earlier ++ member :: later →
        (outer, member) ∈
            (system.performed task step rest store).reversalsSent →
          ∀ before ∈ earlier, store.UndoneBy outer before := by
  intro outer earlier member later split inSent before isEarlier
  have isMember := @bulkMembers_performed system task step store candidates
  apply updated.undoneBy order.undone
  rcases isMember outer with ⟨rfl, members, records, listed⟩ | same
  · rcases mem_performed_sent.mp inSent with ⟨-, sends⟩ | old
    · rw [records] at sends
      cases sends
    · exact absurd old (acts.unsent members records member)
  · rw [same] at split
    rcases mem_performed_sent.mp inSent with ⟨rfl, sends⟩ | old
    · exact acts.order earlier member later sends split before isEarlier
    · exact order.order outer earlier member later split old before
        isEarlier

/-- An undo that names its subject is on record for it. -/
theorem UndoesInOrder.performs_subjects (order : UndoesInOrder topology system)
    (live : task ∈ system.tasks) (acts : system.Acts task step)
    {store : Store}
    (updated : system.Updates (system.performed task step rest store)
      task.operationId step.updates) :
    ∀ target after subject, store.operations.get? target = some after →
      after.kind = .undo → after.subjectOpId = some subject →
        (target, subject) ∈
          (system.performed task step rest store).undoTargets := by
  intro target after subject found isUndo isSubject
  obtain ⟨row, isRow, rfl⟩ := updated.row_before found
  rw [LogUpdate.rowAfterAll_kind] at isUndo
  rcases LogUpdate.subjectOpId_rowAfterAll isSubject with
    old | ⟨member, own⟩
  · exact updated.targets (order.subjects target row subject isRow isUndo old)
  · have same : target = task.operationId :=
      (SqlTable.key_of_get? isRow).symm.trans own
    subst same
    apply updated.targets
    apply acts.links subject (mem_updates_subject.mp member)
    rw [← order.recoverable.taskKinds task live row isRow, isUndo]

/-- Tasks of the operation lane stay alone in it. -/
theorem UndoesInOrder.performs_lane (order : UndoesInOrder topology system)
    (live : task ∈ system.tasks) {store : Store} :
    ∀ first ∈ (system.performed task step rest store).tasks,
      ∀ second ∈ (system.performed task step rest store).tasks,
        mutationLaneKind first.recorded.request = some .operation →
          mutationLaneKind second.recorded.request = some .operation →
            first.operationId = second.operationId := by
  have apart := order.recoverable.linked.apart
  intro first isFirst second isSecond firstLane secondLane
  have before : ∀ other ∈ (system.performed task step rest store).tasks,
      ∃ old ∈ system.tasks, other.operationId = old.operationId ∧
        other.recorded = old.recorded := by
    intro other member
    rcases apart.of_mem_updateTask live member with rfl | ⟨old, -⟩
    · exact ⟨task, live, rfl, rfl⟩
    · exact ⟨other, old, rfl, rfl⟩
  obtain ⟨oldFirst, wasFirst, sameFirst, recordedFirst⟩ :=
    before first isFirst
  obtain ⟨oldSecond, wasSecond, sameSecond, recordedSecond⟩ :=
    before second isSecond
  rw [sameFirst, sameSecond]
  exact order.lane oldFirst wasFirst oldSecond wasSecond
    (recordedFirst ▸ firstLane) (recordedSecond ▸ secondLane)

/-- Every live undo goes on in order after one of them took a step. -/
theorem UndoesInOrder.performs_tasks (order : UndoesInOrder topology system)
    (live : task ∈ system.tasks) (isNext : task.remaining = step :: rest)
    (acts : system.Acts task step) {store : Store}
    (named : (system.performed task step rest store).reversalsSent ⊆
      (system.performed task step rest store).undoTargets)
    (candidates : store.bulkUndoCandidates =
      step.candidatesAfter task.operationId system.store.bulkUndoCandidates)
    (updated : system.Updates (system.performed task step rest store)
      task.operationId step.updates) :
    ∀ other ∈ (system.performed task step rest store).tasks,
      IsForward other.recorded ∨
        ∃ header members, other.recorded.Reverses header members ∧
          (system.performed task step rest store).Reversing other header
            members := by
  have apart := order.recoverable.linked.apart
  have wellRun := apart.wellRun task live
  have isMember := @bulkMembers_performed system task step store candidates
  intro other member
  rcases apart.of_mem_updateTask live member with rfl | ⟨old, different⟩
  · refine (order.tasks task live).imp id ?_
    rintro ⟨header, members, reverses, reversing⟩
    exact ⟨header, members, reverses, reversing.performs reverses wellRun
      isNext updated order.undone named candidates⟩
  · refine (order.tasks other old).imp id ?_
    rintro ⟨header, members, reverses, reversing⟩
    refine ⟨header, members, reverses, reversing.of_updates updated
      order.undone named ?_ ?_ ?_⟩
    · intro target inSent
      rcases mem_performed_sent.mp inSent with ⟨own, -⟩ | wasSent
      · exact absurd own different
      · exact wasSent
    · rcases isMember other.operationId with ⟨own, -⟩ | same
      · exact absurd own different
      · exact same
    · intro target marks
      rw [mem_updates_undone] at marks
      exact different (order.lane other old task live reverses.lane
        (acts.lane target marks))

theorem UndoesInOrder.performs (order : UndoesInOrder topology system)
    (live : task ∈ system.tasks) (isNext : task.remaining = step :: rest)
    {store : Store}
    (performs : step.perform task.operationId system.store = .ok store)
    (recoverable :
      (system.performed task step rest store).Recoverable topology) :
    UndoesInOrder topology (system.performed task step rest store) := by
  have acts := order.acts live isNext
  have apart := order.recoverable.linked.apart
  have wellRun := apart.wellRun task live
  obtain ⟨sameStore, -⟩ := BodyStep.perform_eq_ok performs
  have candidates := congrArg Store.bulkUndoCandidates sameStore
  have updated := @Acts.updated system task step rest acts store
    (congrArg Store.operations sameStore)
  have named : (system.performed task step rest store).reversalsSent ⊆
      (system.performed task step rest store).undoTargets := by
    rintro ⟨outer, target⟩ inSent
    rcases mem_performed_sent.mp inSent with ⟨rfl, sends⟩ | old
    · exact updated.targets (acts.names target sends)
    · exact updated.targets (order.sent old)
  have isMember := @bulkMembers_performed system task step store candidates
  refine ⟨recoverable, ?_, named, ?_, ?_,
    updated.undoneWereSent order.undone, ?_, ?_, ?_, ?_, ?_, ?_, ?_⟩
  · intro pair isTarget
    rcases mem_performed_targets.mp isTarget with ⟨own, -⟩ | old
    · rw [own]
      exact wellRun.minted
    · exact order.minted pair old
  · intro outer member inMembers
    rcases isMember outer with ⟨own, members, records, listed⟩ | same
    · rw [performed, listed] at inMembers
      exact mem_performed_targets.mpr
        (Or.inl ⟨own, members, records, inMembers⟩)
    · rw [performed, same] at inMembers
      exact updated.targets (order.members outer member inMembers)
  · intro outer member inMembers
    apply updated.offered named
    rcases isMember outer with ⟨own, members, records, listed⟩ | same
    · rw [performed, listed] at inMembers
      obtain ⟨operation, isListed, rfl⟩ := List.mem_map.mp inMembers
      exact acts.offered members records operation isListed
    · rw [performed, same] at inMembers
      exact order.offered outer member inMembers
  · exact order.performs_order acts candidates updated
  · exact order.performs_subjects live acts updated
  · intro mutationId row outer subject dryRun force found
    rw [performed, sameStore] at found
    intro request operationEq
    exact updated.targets (order.requested mutationId row outer subject dryRun
      force found request operationEq)
  · intro other member subject dryRun force request
    rcases apart.of_mem_updateTask live member with rfl | ⟨old, -⟩
    · exact updated.targets
        (order.asked task live subject dryRun force request)
    · exact updated.targets
        (order.asked other old subject dryRun force request)
  · exact order.performs_lane live
  · intro other member target isGuard
    rcases apart.of_mem_updateTask live member with rfl | ⟨old, -⟩
    · exact updated.targets (order.guards task live target isGuard)
    · exact updated.targets (order.guards other old target isGuard)
  · exact order.performs_tasks live isNext acts named candidates updated

theorem Reversing.of_task {later : MutationTask}
    (reversing : system.Reversing task header members)
    (operationId : later.operationId = task.operationId)
    (done : later.done = task.done) :
    system.Reversing later header members where
  distinct := reversing.distinct
  waiting := by
    rw [done]
    exact reversing.waiting
  marked := by
    rw [done, operationId]
    exact reversing.marked
  sends := by
    rw [done, operationId]
    exact reversing.sends
  targets := by
    rw [done, operationId]
    exact reversing.targets
  listed := by
    rw [operationId]
    exact reversing.listed
  offered := reversing.offered

/-- A transaction that undoes and links nothing. -/
theorem UndoesInOrder.of_updates (order : UndoesInOrder topology system)
    (recoverable : next.Recoverable topology)
    (updated : system.Updates next issuer updates)
    (notUndone : ∀ target, .undone target ∉ updates)
    (notLinked : ∀ subject, .subject subject ∉ updates)
    (targets : next.undoTargets = system.undoTargets)
    (sent : next.reversalsSent = system.reversalsSent)
    (candidates : next.store.bulkUndoCandidates =
      system.store.bulkUndoCandidates)
    (le : system.minted ≤ next.minted)
    (bindings : ∀ mutationId,
      (next.store.mutationDedup.get? mutationId).map
          MutationDedupRow.claimBinding =
        (system.store.mutationDedup.get? mutationId).map
          MutationDedupRow.claimBinding)
    (tasks : ∀ task ∈ next.tasks, ∃ before ∈ system.tasks,
      task.operationId = before.operationId ∧
        task.recorded = before.recorded ∧ task.remaining = before.remaining)
    (guards : ∀ task ∈ next.tasks, ∀ target,
      task.guard = some (.disableUndo target) →
        (task.operationId, target) ∈ system.undoTargets) :
    UndoesInOrder topology next := by
  have named : next.reversalsSent ⊆ next.undoTargets := by
    rw [targets, sent]
    exact order.sent
  refine ⟨recoverable, ?_, named, ?_, ?_, updated.undoneWereSent order.undone,
    ?_, ?_, ?_, ?_, ?_, ?_, ?_⟩
  · rw [targets]
    intro pair isTarget
    exact Nat.lt_of_lt_of_le (order.minted pair isTarget) le
  · rw [targets, candidates]
    exact order.members
  · rw [candidates]
    intro outer member inMembers
    exact updated.offered named (order.offered outer member inMembers)
  · rw [candidates, sent]
    intro outer earlier member later split inSent before isEarlier
    exact updated.undoneBy order.undone
      (order.order outer earlier member later split inSent before isEarlier)
  · rw [targets]
    intro target after subject found isUndo isSubject
    obtain ⟨row, isRow, rfl⟩ := updated.row_before found
    rw [LogUpdate.rowAfterAll_kind] at isUndo
    rcases LogUpdate.subjectOpId_rowAfterAll isSubject with old | ⟨member, -⟩
    · exact order.subjects target row subject isRow isUndo old
    · exact absurd member (notLinked subject)
  · rw [targets]
    intro mutationId row outer subject dryRun force found request operationEq
    have same := bindings mutationId
    rw [found, Option.map_some, eq_comm, Option.map_eq_some_iff] at same
    obtain ⟨before, wasFound, same⟩ := same
    simp only [MutationDedupRow.claimBinding, Prod.mk.injEq] at same
    exact order.requested mutationId before outer subject dryRun force wasFound
      (same.1.trans request) (same.2.2.trans operationEq)
  · rw [targets]
    intro task live subject dryRun force request
    obtain ⟨before, wasLive, sameOperation, sameRecorded, -⟩ := tasks task live
    rw [sameOperation]
    exact order.asked before wasLive subject dryRun force
      (sameRecorded ▸ request)
  · intro first isFirst second isSecond firstLane secondLane
    obtain ⟨oldFirst, wasFirst, sameFirst, recordedFirst, -⟩ :=
      tasks first isFirst
    obtain ⟨oldSecond, wasSecond, sameSecond, recordedSecond, -⟩ :=
      tasks second isSecond
    rw [sameFirst, sameSecond]
    exact order.lane oldFirst wasFirst oldSecond wasSecond
      (recordedFirst ▸ firstLane) (recordedSecond ▸ secondLane)
  · rw [targets]
    exact guards
  · intro task live
    obtain ⟨before, wasLive, sameOperation, sameRecorded, sameRemaining⟩ :=
      tasks task live
    rw [sameRecorded]
    refine (order.tasks before wasLive).imp id ?_
    rintro ⟨header, members, reverses, reversing⟩
    refine ⟨header, members, reverses, ?_⟩
    have kept := reversing.of_updates updated order.undone named
      (fun target inSent => sent ▸ inSent) (by rw [candidates]) notUndone
    apply kept.of_task sameOperation
    rw [MutationTask.done, MutationTask.done, sameRecorded, sameRemaining]

/-- A step that leaves the database alone. -/
theorem UndoesInOrder.of_store (order : UndoesInOrder topology system)
    (recoverable : next.Recoverable topology)
    (same : next.store = system.store)
    (targets : next.undoTargets = system.undoTargets)
    (sent : next.reversalsSent = system.reversalsSent)
    (le : system.minted ≤ next.minted)
    (tasks : ∀ task ∈ next.tasks, ∃ before ∈ system.tasks,
      task.operationId = before.operationId ∧
        task.recorded = before.recorded ∧ task.remaining = before.remaining)
    (guards : ∀ task ∈ next.tasks, ∀ target,
      task.guard = some (.disableUndo target) →
        (task.operationId, target) ∈ system.undoTargets) :
    UndoesInOrder topology next := by
  have updated : system.Updates next ⟨0⟩ [] :=
    ⟨by rw [same]; rfl, by rw [targets]; exact List.Subset.refl _,
      by rw [sent]; exact List.Subset.refl _,
      fun _ member => absurd member List.not_mem_nil,
      fun _ member => absurd member List.not_mem_nil⟩
  exact order.of_updates recoverable updated (fun _ => List.not_mem_nil)
    (fun _ => List.not_mem_nil) targets sent (by rw [same])
    le (fun _ => by rw [same]) tasks guards

end MutationSystem

namespace Store

variable {store : Store} {topology : ProviderTopology}

/-- The subject of an undo or a redo is linked to it, or it was asked for. -/
theorem subject_of_recoverySubject {outer : OperationId}
    {requested : Option OperationId} {subject : Operation}
    (found : store.recoverySubject outer requested = .ok (some subject)) :
    (∃ row, store.operations.get? outer = some row ∧
        row.subjectOpId = some subject.operationId) ∨
      requested = some subject.operationId := by
  unfold recoverySubject at found
  split at found
  · rename_i linked isLinked
    cases found
    obtain ⟨row, isRow, link⟩ := Option.bind_eq_some_iff.mp isLinked
    obtain ⟨target, isTarget, isSubject⟩ := Option.bind_eq_some_iff.mp link
    left
    refine ⟨row, isRow, ?_⟩
    rw [isTarget, SqlTable.key_of_get? isSubject]
  · split at found
    · cases found
    · rename_i requested
      obtain ⟨row, read, result⟩ := Except.bind_eq_ok.mp found
      cases result
      unfold getOperation at read
      split at read
      · rename_i isSubject
        cases read
        exact Or.inr (congrArg some (SqlTable.key_of_get? isSubject).symm)
      · cases read

theorem guard_of_subjectRecovery
    {guard : OperationId → PostWriteOperationGuard} {outer : OperationId}
    {requested : Option OperationId} {seeds : List ReconciliationSeed}
    {derived : PostWriteOperationGuard}
    (recovered : store.subjectRecovery topology guard outer requested =
      .ok (seeds, some derived)) :
    ∃ subject, store.recoverySubject outer requested = .ok (some subject) ∧
      guard subject.operationId = derived := by
  obtain ⟨subject, isSubject, rest⟩ := Except.bind_eq_ok.mp recovered
  cases subject with
  | none => cases rest
  | some subject =>
    obtain ⟨seeds, -, result⟩ := Except.bind_eq_ok.mp rest
    cases result
    exact ⟨subject, isSubject, rfl⟩

/-- The guard of a bulk undo's recovery disables the first member that it did
not mark. -/
theorem guard_of_bulkRecovery {currentItem : Option String}
    {requested : Option OperationId} {dryRun force : Bool} {sinceMs : Int}
    {outer : OperationId} {seeds : List ReconciliationSeed}
    {guard : Option PostWriteOperationGuard}
    (derived : store.recoverySeeds topology currentItem
      (.opsUndo requested dryRun force (some sinceMs)) outer =
        .ok (seeds, guard)) :
    guard = ((store.operationsForBulkUndoRecovery outer).find? fun member =>
      member.undoneByOpId ≠ some outer).map fun member =>
        .disableUndo member.operationId := by
  obtain ⟨operation, -, rest⟩ := Except.bind_eq_ok.mp derived
  obtain ⟨seeds, -, result⟩ := Except.bind_eq_ok.mp rest
  cases result
  rfl

end Store

namespace MutationSystem

variable {topology : ProviderTopology} {system next : MutationSystem}

/-- A recovery disables what the undo acts on. -/
theorem UndoesInOrder.names_of_recoverySeeds
    (order : UndoesInOrder topology system) {currentItem : Option String}
    {request : Request} {outer target : OperationId}
    {seeds : List ReconciliationSeed}
    (derived : system.store.recoverySeeds topology currentItem request outer =
      .ok (seeds, some (.disableUndo target)))
    (kind : ∀ row, system.store.operations.get? outer = some row →
      row.kind = recordedKind request)
    (asked : ∀ subject dryRun force,
      request = .opsUndo (some subject) dryRun force none →
        (outer, subject) ∈ system.undoTargets) :
    (outer, target) ∈ system.undoTargets := by
  have whole := derived
  obtain ⟨operation, -, rest⟩ := Except.bind_eq_ok.mp derived
  dsimp only at rest
  split at rest
  · have isGuard := Store.guard_of_bulkRecovery whole
    rw [eq_comm, Option.map_eq_some_iff] at isGuard
    obtain ⟨member, isFirst, same⟩ := isGuard
    cases same
    have isMember := List.mem_of_find?_eq_some isFirst
    rw [Store.operationsForBulkUndoRecovery_eq, List.mem_filterMap] at isMember
    obtain ⟨memberId, inMembers, found⟩ := isMember
    rw [SqlTable.key_of_get? found]
    exact order.members outer memberId inMembers
  · obtain ⟨subject, isSubject, same⟩ := Store.guard_of_subjectRecovery rest
    cases same
    rcases Store.subject_of_recoverySubject isSubject with
      ⟨row, found, linked⟩ | rfl
    · exact order.subjects outer row _ found (kind row found) linked
    · exact asked _ _ _ rfl
  · obtain ⟨subject, -, same⟩ := Store.guard_of_subjectRecovery rest
    cases same
  · obtain ⟨forward, -, rest⟩ := Except.bind_eq_ok.mp rest
    split at rest
    · obtain ⟨seed, -, rest⟩ := Except.bind_eq_ok.mp rest
      split at rest
      · cases rest
      · cases rest
    · cases rest

/-- An end that disables what the operation acts on is on record. -/
theorem updates_of_endsOperation {store : Store} {issuer : OperationId}
    {receiptId : ReceiptId} {lower upper : Nat}
    {recovery : Option PartialOperationRecovery} {status : OperationStatus}
    {nowMs : Int} {error : Option String}
    {guard : Option PostWriteOperationGuard}
    (ends : system.store.EndsOperation store issuer receiptId lower upper
      (LogUpdate.ending recovery status nowMs error guard))
    (terminal : status ≠ .pending)
    (names : ∀ target, guard = some (.disableUndo target) →
      (issuer, target) ∈ system.undoTargets)
    (sameStore : next.store = store)
    (targets : next.undoTargets = system.undoTargets)
    (sent : next.reversalsSent = system.reversalsSent) :
    system.Updates next issuer
      (LogUpdate.ending recovery status nowMs error guard) where
  operations := by
    rw [sameStore]
    exact ends.operations
  targets := by
    rw [targets]
    exact List.Subset.refl _
  sent := by
    rw [sent]
    exact List.Subset.refl _
  undone target member := absurd member LogUpdate.undone_notMem_ending
  disabled target member := by
    rw [targets]
    refine ⟨names target (LogUpdate.disable_mem_ending.mp member), ?_⟩
    intro after found
    rw [sameStore, ends.operations] at found
    obtain ⟨row, before, rfl⟩ :=
      (LogUpdate.get?_applyAll_eq_some issuer).mp found
    exact LogUpdate.ended_rowAfterAll_ending terminal
      (SqlTable.key_of_get? before)

theorem UndoesInOrder.of_endsOperation (order : UndoesInOrder topology system)
    (recoverable : next.Recoverable topology) {store : Store}
    {issuer : OperationId} {receiptId : ReceiptId} {lower upper : Nat}
    {recovery : Option PartialOperationRecovery} {status : OperationStatus}
    {nowMs : Int} {error : Option String}
    {guard : Option PostWriteOperationGuard}
    (ends : system.store.EndsOperation store issuer receiptId lower upper
      (LogUpdate.ending recovery status nowMs error guard))
    (terminal : status ≠ .pending)
    (names : ∀ target, guard = some (.disableUndo target) →
      (issuer, target) ∈ system.undoTargets)
    (sameStore : next.store = store)
    (targets : next.undoTargets = system.undoTargets)
    (sent : next.reversalsSent = system.reversalsSent)
    (le : system.minted ≤ next.minted)
    (tasks : next.tasks ⊆ system.tasks) : UndoesInOrder topology next := by
  refine order.of_updates recoverable
    (updates_of_endsOperation ends terminal names sameStore targets sent)
    (fun _ => LogUpdate.undone_notMem_ending)
    (fun _ => LogUpdate.subject_notMem_ending) targets sent
    (by rw [sameStore]; exact ends.candidates) le
    (by rw [sameStore]; exact ends.claims)
    (fun task live => ⟨task, tasks live, rfl, rfl, rfl⟩) ?_
  intro task live
  exact order.guards task (tasks live)

/-- An undo of one operation that was asked for by its id names it. -/
theorem startTargets_of_asked {store : Store} {reads : HandlerReads}
    {request : Request} {recorded : RecordedMutation}
    (records : store.Records topology reads request recorded)
    {subject : OperationId} {dryRun force : Bool}
    (asked : recorded.request = .opsUndo (some subject) dryRun force none)
    (operationId : OperationId) :
    startTargets recorded operationId = [(operationId, subject)] := by
  cases records with
  | undo found selects =>
    cases asked
    have same := of_decide_eq_true selects
    subst same
    rfl
  | bulkUndo found window => cases asked
  | redo found selects => cases asked
  | forward records =>
    rw [(HandlerReads.forward_of_recordForward records).1] at asked
    subst asked
    cases records

theorem mem_startTargets {recorded : RecordedMutation}
    {operationId : OperationId} {pair : OperationId × OperationId}
    (member : pair ∈ startTargets recorded operationId) :
    pair.1 = operationId := by
  unfold startTargets at member
  split at member
  · cases List.mem_singleton.mp member
    rfl
  · cases member

/-- What is recorded holds the lane of its request. -/
theorem lane_of_records {store : Store} {reads : HandlerReads}
    {request : Request} {recorded : RecordedMutation}
    (records : store.Records topology reads request recorded) :
    mutationLaneKind recorded.request = mutationLaneKind request := by
  cases records with
  | forward records =>
    rw [(HandlerReads.forward_of_recordForward records).1]
  | _ => rfl

/-- A new operation was never named. -/
theorem UndoesInOrder.fresh (order : UndoesInOrder topology system)
    {target : OperationId} :
    (⟨system.minted⟩, target) ∉ system.undoTargets :=
  fun isTarget => Nat.lt_irrefl _ (order.minted _ isTarget)

/-- The rows of a database in which one row was inserted. -/
structure Inserts (system next : MutationSystem) (operation : Operation) :
    Prop where
  rows : ∀ target, next.store.operations.get? target =
    if target = operation.operationId then some operation
    else system.store.operations.get? target
  isFresh : operation.operationId = ⟨system.minted⟩
  free : system.store.operations.get? operation.operationId = none
  targets : system.undoTargets ⊆ next.undoTargets
  sent : next.reversalsSent = system.reversalsSent

namespace Inserts

variable {operation : Operation} (inserts : system.Inserts next operation)

include inserts

theorem get?_of_row {target : OperationId} {row : Operation}
    (found : system.store.operations.get? target = some row) :
    next.store.operations.get? target = some row := by
  rw [inserts.rows, if_neg, found]
  rintro rfl
  rw [inserts.free] at found
  cases found

theorem undoneBy {issuer target : OperationId}
    (undone : system.store.UndoneBy issuer target) :
    next.store.UndoneBy issuer target := by
  obtain ⟨row, found, marked⟩ := undone
  exact ⟨row, inserts.get?_of_row found, marked⟩

theorem offered (order : UndoesInOrder topology system)
    {target : OperationId} (offered : system.OfferedUnlessUndone target) :
    next.OfferedUnlessUndone target := by
  obtain ⟨row, found, ended, holds⟩ := offered
  refine ⟨row, inserts.get?_of_row found, ended, holds.imp id ?_⟩
  rintro ⟨issuer, isTarget, undone | ⟨disabled, hasEnded⟩⟩
  · exact ⟨issuer, inserts.targets isTarget, Or.inl undone⟩
  · refine ⟨issuer, inserts.targets isTarget, Or.inr ⟨disabled, ?_⟩⟩
    intro later isLater
    rw [inserts.rows, if_neg] at isLater
    · exact hasEnded later isLater
    · rw [inserts.isFresh]
      rintro rfl
      exact order.fresh isTarget

end Inserts

/-- A new undo finds its members as they were selected. -/
theorem Reversing.of_start (order : UndoesInOrder topology system)
    {operation : Operation} (inserts : system.Inserts next operation)
    (candidates : next.store.bulkUndoCandidates =
      system.store.bulkUndoCandidates)
    (nodup : members.Nodup)
    (found : ∀ member ∈ members,
      system.store.operations.get? member.operationId = some member)
    (own : task.operationId = ⟨system.minted⟩) (unstarted : task.done = [])
    (reverses : task.recorded.Reverses header members)
    (targets : startTargets task.recorded task.operationId ⊆
      next.undoTargets) : next.Reversing task header members where
  distinct := by
    apply nodup.map_on
    intro first isFirst second isSecond same
    have read := found first isFirst
    rw [same, found second isSecond] at read
    exact (Option.some.inj read).symm
  waiting member isMember succeeded _ :=
    ⟨member, inserts.get?_of_row (found member isMember), succeeded⟩
  marked member isMember isMarked := by
    rw [unstarted] at isMarked
    cases isMarked
  sends target := by
    rw [inserts.sent, own, unstarted]
    constructor
    · intro inSent
      exact absurd (order.sent inSent) order.fresh
    · intro isSent
      cases isSent
  targets := by
    rcases reverses.links with ⟨bulk, -⟩ | ⟨selected, rfl, -, plan⟩
    · exact Or.inl ⟨bulk, unstarted⟩
    · right
      intro member isMember
      cases List.mem_singleton.mp isMember
      apply targets
      rw [startTargets, plan]
      exact List.mem_singleton_self _
  listed := by
    left
    rw [candidates, own, List.eq_nil_iff_forall_not_mem]
    intro member inMembers
    exact order.fresh (order.members _ member inMembers)
  offered member isMember isOffered := by
    refine ⟨member, inserts.get?_of_row (found member isMember), ?_,
      Or.inl isOffered⟩
    simp [(Operation.isOffered_eq_true.mp isOffered).2]

/-- A mutation that starts in the operation lane is alone in it. -/
theorem UndoesInOrder.starts_lane (order : UndoesInOrder topology system)
    {mutationId : Option MutationId} {request : Request}
    {reads : HandlerReads} {recorded : RecordedMutation} {store : Store}
    (lane : system.laneIsFree request = true)
    (records : system.store.Records topology reads request recorded) :
    ∀ first ∈ (system.started mutationId recorded store).tasks,
      ∀ second ∈ (system.started mutationId recorded store).tasks,
        mutationLaneKind first.recorded.request = some .operation →
          mutationLaneKind second.recorded.request = some .operation →
            first.operationId = second.operationId := by
  have alone : mutationLaneKind recorded.request = some .operation →
      ∀ task ∈ system.tasks,
        mutationLaneKind task.recorded.request ≠ some .operation := by
    intro isLane task live
    rw [lane_of_records records] at isLane
    simp only [laneIsFree, isLane, bne_self_eq_false, Bool.false_or,
      List.all_eq_true, bne_iff_ne, ne_eq] at lane
    exact lane task live
  intro first isFirst second isSecond firstLane secondLane
  rcases List.mem_append.mp isFirst with oldFirst | newFirst
  · rcases List.mem_append.mp isSecond with oldSecond | newSecond
    · exact order.lane first oldFirst second oldSecond firstLane secondLane
    · cases List.mem_singleton.mp newSecond
      exact absurd firstLane (alone secondLane first oldFirst)
  · cases List.mem_singleton.mp newFirst
    rcases List.mem_append.mp isSecond with oldSecond | newSecond
    · exact absurd secondLane (alone firstLane second oldSecond)
    · cases List.mem_singleton.mp newSecond
      rfl

/-- Every live undo goes on in order after another mutation started. -/
theorem UndoesInOrder.starts_tasks (order : UndoesInOrder topology system)
    {mutationId : Option MutationId} {request : Request}
    {reads : HandlerReads} {recorded : RecordedMutation} {store : Store}
    {source : OperationSource} {nowMs : Int}
    (records : system.store.Records topology reads request recorded)
    (inserts : system.Inserts (system.started mutationId recorded store)
      (recorded.pendingOperation ⟨system.minted⟩ ⟨system.minted⟩ source
        nowMs))
    (candidates : store.bulkUndoCandidates = system.store.bulkUndoCandidates)
    (isNew : startTargets recorded ⟨system.minted⟩ ⊆
      (system.started mutationId recorded store).undoTargets)
    (isOld : system.undoTargets ⊆
      (system.started mutationId recorded store).undoTargets) :
    ∀ task ∈ (system.started mutationId recorded store).tasks,
      IsForward task.recorded ∨
        ∃ header members, task.recorded.Reverses header members ∧
          (system.started mutationId recorded store).Reversing task header
            members := by
  intro task live
  rcases List.mem_append.mp live with old | isStarted
  · refine (order.tasks task old).imp id ?_
    rintro ⟨header, members, reverses, reversing⟩
    refine ⟨header, members, reverses, reversing.mono ?_
      (fun _ => inserts.undoneBy) (fun _ => inserts.offered order)
      (fun _ => Iff.rfl) isOld (congrArg (bulkMembers · _) candidates)⟩
    intro target row found status
    exact ⟨row, inserts.get?_of_row found, status⟩
  · cases List.mem_singleton.mp isStarted
    rcases records.reverses with
      ⟨header, members, reverses, nodup, found⟩ | forward
    · refine Or.inr ⟨header, members, reverses, ?_⟩
      exact .of_start order inserts candidates nodup found rfl
        (by simp [MutationTask.done]) reverses isNew
    · exact Or.inl forward

theorem UndoesInOrder.starts (order : UndoesInOrder topology system)
    {mutationId : Option MutationId} {fingerprint : String}
    {request : Request} {reads : HandlerReads}
    {recorded : RecordedMutation} {source : OperationSource} {nowMs : Int}
    {store : Store} (lane : system.laneIsFree request = true)
    (free : mutationId.bind system.store.mutationDedup.get? = none)
    (records : system.store.Records topology reads request recorded)
    (pending : system.store.recordPending mutationId fingerprint
      recorded.request (recorded.pendingReceipt ⟨system.minted⟩ nowMs)
      (recorded.pendingOperation ⟨system.minted⟩ ⟨system.minted⟩ source
        nowMs) nowMs = .ok store)
    (recoverable :
      (system.started mutationId recorded store).Recoverable topology) :
    UndoesInOrder topology (system.started mutationId recorded store) := by
  obtain ⟨receipts, operations, mutationDedup, rfl, -, inserted, claims⟩ :=
    Store.recordPending_eq_ok free pending
  have isNew : startTargets recorded ⟨system.minted⟩ ⊆
      startTargets recorded ⟨system.minted⟩ ++ system.undoTargets :=
    List.subset_append_left _ _
  have isOld : system.undoTargets ⊆
      startTargets recorded ⟨system.minted⟩ ++ system.undoTargets :=
    List.subset_append_right _ _
  have inserts : system.Inserts (system.started mutationId recorded
      { system.store with
        receipts := receipts, operations := operations,
        mutationDedup := mutationDedup })
      (recorded.pendingOperation ⟨system.minted⟩ ⟨system.minted⟩ source
        nowMs) :=
    ⟨SqlTable.get?_insert inserted, rfl,
      (SqlTable.insert?_eq_some.mp inserted).1, isOld, rfl⟩
  refine ⟨recoverable, ?_, List.Subset.trans order.sent isOld, ?_, ?_, ?_, ?_,
    ?_, ?_, ?_, ?_, ?_, ?_⟩
  · intro pair isTarget
    rcases List.mem_append.mp isTarget with started | old
    · rw [mem_startTargets started]
      exact Nat.lt_succ_self _
    · exact Nat.lt_succ_of_lt (order.minted pair old)
  · intro outer member inMembers
    exact isOld (order.members outer member inMembers)
  · intro outer member inMembers
    exact inserts.offered order (order.offered outer member inMembers)
  · intro target row issuer found marked
    rw [inserts.rows] at found
    split at found
    · cases found
      cases marked
    · exact order.undone target row issuer found marked
  · intro outer earlier member later split inSent before isEarlier
    exact inserts.undoneBy
      (order.order outer earlier member later split inSent before isEarlier)
  · intro target row subject found isUndo linked
    rw [inserts.rows] at found
    split at found
    · cases found
      cases linked
    · exact isOld (order.subjects target row subject found isUndo linked)
  · intro other row outer subject dryRun force found asked operationEq
    have found := (claims other).symm.trans found
    split at found
    · cases found
      cases operationEq
      apply isNew
      rw [startTargets_of_asked records asked]
      exact List.mem_singleton_self _
    · exact isOld (order.requested other row outer subject dryRun force found
        asked operationEq)
  · intro task live subject dryRun force asked
    rcases List.mem_append.mp live with old | isStarted
    · exact isOld (order.asked task old subject dryRun force asked)
    · cases List.mem_singleton.mp isStarted
      apply isNew
      rw [startTargets_of_asked records asked]
      exact List.mem_singleton_self _
  · exact order.starts_lane lane records
  · intro task live target isGuard
    rcases List.mem_append.mp live with old | isStarted
    · exact isOld (order.guards task old target isGuard)
    · cases List.mem_singleton.mp isStarted
      cases isGuard
  · exact order.starts_tasks records inserts rfl isNew isOld

theorem BodyStep.guard_of_failureOf {step : BodyStep} {fate : StepFate}
    {retained : Option PartialOperationRecovery} {failure : BodyFailure}
    {guard : PostWriteOperationGuard}
    (carries : step.failureOf retained fate = some failure)
    (isGuard : failure.guard = some guard) :
    step.uncertainGuard = some guard := by
  cases fate with
  | succeeds => cases carries
  | fails report =>
    simp only [BodyStep.failureOf, Option.ite_none_right_eq_some] at carries
    cases carries.2
    cases isGuard
  | uncertain report =>
    obtain ⟨derived, isDerived, rfl⟩ := Option.map_eq_some_iff.mp carries
    cases isGuard
    exact isDerived

theorem terminal_of_endsAs {task : MutationTask} {store : Store}
    {recovery : Option PartialOperationRecovery} {status : OperationStatus}
    {guard : Option PostWriteOperationGuard}
    (endsAs : task.EndsAs topology store recovery status guard) :
    status ≠ .pending := by
  cases endsAs with
  | finalized isOwn => exact MutationTask.operationStatus_ne_pending
  | indeterminate intent => simp

/-- The end of a task disables what its undo acts on. -/
theorem UndoesInOrder.names_of_endsAs (order : UndoesInOrder topology system)
    {task : MutationTask} (live : task ∈ system.tasks)
    {recovery : Option PartialOperationRecovery} {status : OperationStatus}
    {guard : Option PostWriteOperationGuard}
    (endsAs : task.EndsAs topology system.store recovery status guard)
    {target : OperationId} (isGuard : guard = some (.disableUndo target)) :
    (task.operationId, target) ∈ system.undoTargets := by
  cases endsAs with
  | finalized isOwn =>
    rcases isOwn with rfl | rfl
    · cases isGuard
    · exact order.guards task live target isGuard
  | indeterminate intent =>
    rcases Option.or_eq_some_iff.mp isGuard with own | ⟨-, derived⟩
    · exact order.guards task live target own
    · subst derived
      exact order.names_of_recoverySeeds intent
        (order.recoverable.taskKinds task live) (order.asked task live)

theorem UndoesInOrder.step (order : UndoesInOrder topology system)
    (steps : Steps topology system next) : UndoesInOrder topology next := by
  have recoverable := order.recoverable.step steps
  have apart := order.recoverable.linked.apart
  cases steps with
  | starts lane free records pending =>
    exact order.starts lane free (Store.record_records records) pending
      recoverable
  | performs live running isNext maySucceed performs =>
    exact order.performs live isNext performs recoverable
  | @fails task step rest fate failure live running isNext carries =>
    refine order.of_store recoverable rfl rfl rfl (Nat.le_refl _) ?_ ?_
    · intro updated member
      rcases apart.of_mem_updateTask live member with rfl | ⟨old, -⟩
      · exact ⟨task, live, rfl, rfl, rfl⟩
      · exact ⟨updated, old, rfl, rfl, rfl⟩
    · intro updated member target isGuard
      rcases apart.of_mem_updateTask live member with rfl | ⟨old, -⟩
      · exact (order.acts live isNext).uncertain target
          (BodyStep.guard_of_failureOf carries isGuard)
      · exact order.guards updated old target isGuard
  | finalizes live finished finalized =>
    have le := le_finalizedStore_minted finalized
    rcases finalizedStore_endsOperation order.recoverable.linked live
        finalized with rfl | ⟨recovery, status, error, guard, endsAs, ends⟩
    · refine order.of_store recoverable rfl rfl rfl le ?_ ?_
      · intro task member
        exact ⟨task, (mem_otherTasks.mp member).1, rfl, rfl, rfl⟩
      · intro task member
        exact order.guards task (mem_otherTasks.mp member).1
    · exact order.of_endsOperation recoverable ends (terminal_of_endsAs endsAs)
        (fun _ => order.names_of_endsAs live endsAs) rfl rfl rfl le
        (List.filter_subset_self _)
  | drops operationId =>
    refine order.of_store recoverable rfl rfl rfl (Nat.le_refl _) ?_ ?_
    · intro task member
      exact ⟨task, (mem_otherTasks.mp member).1, rfl, rfl, rfl⟩
    · intro task member
      exact order.guards task (mem_otherTasks.mp member).1
  | crashes =>
    exact order.of_store recoverable rfl rfl rfl (Nat.le_refl _)
      (fun _ live => absurd live List.not_mem_nil)
      (fun _ live => absurd live List.not_mem_nil)
  | @recovers mutationId row claim _ _ _ _ _ found isClaim notLive
      recovered =>
    obtain ⟨seeds, guard, intent, ends⟩ :=
      recoverProcessingMutationClaim_endsOperation found isClaim recovered
    obtain ⟨-, -, requestEq, -, operationEq⟩ :=
      MutationDedupRow.processingClaim?_eq_some.mp isClaim
    refine order.of_endsOperation recoverable ends (by simp) ?_ rfl rfl rfl
      (Nat.le_add_right _ _) (List.Subset.refl _)
    rintro target rfl
    apply order.names_of_recoverySeeds intent
    · rw [← requestEq]
      exact order.recoverable.kinds mutationId row found _ operationEq
    · intro subject dryRun force request
      exact order.requested mutationId row _ subject dryRun force found
        (requestEq.trans request) operationEq

theorem UndoesInOrder.initial :
    UndoesInOrder topology MutationSystem.initial where
  recoverable := Recoverable.initial
  minted _ isTarget := absurd isTarget List.not_mem_nil
  sent := List.Subset.refl _
  members _ _ inMembers := absurd inMembers List.not_mem_nil
  offered _ _ inMembers := absurd inMembers List.not_mem_nil
  undone target row issuer found := by
    rw [MutationSystem.initial] at found
    cases found
  order _ _ _ _ _ inSent := absurd inSent List.not_mem_nil
  subjects target row subject found := by
    rw [MutationSystem.initial] at found
    cases found
  requested mutationId row outer subject dryRun force found := by
    rw [MutationSystem.initial] at found
    cases found
  asked _ live := absurd live List.not_mem_nil
  lane _ live := absurd live List.not_mem_nil
  guards _ live := absurd live List.not_mem_nil
  tasks _ live := absurd live List.not_mem_nil

theorem UndoesInOrder.of_reachable (reachable : Reachable topology system) :
    UndoesInOrder topology system :=
  reachable.invariant .initial fun _ _ order steps => order.step steps

end MutationSystem

end Spotuify
