import Spotuify.ClaimLinks
import Spotuify.LibraryUndo

/-!
# What undo selects

A row is offered to undo when it succeeded and is flagged reversible, and the
flag is set before the body has captured a state and a plan.  Along every run
an offered row is the row of an undo, of a transfer that had no device to go
back to, or of a mutation whose plan can be executed.
-/

namespace Spotuify

/-- What decides whether the operation of a row can be undone. -/
structure UndoData where
  reversible : Bool
  preState : Option PreState
  plan : Option ReversalPlan

def Operation.undoData (operation : Operation) : UndoData where
  reversible := operation.reversible
  preState := operation.preState
  plan := operation.reversalPlan

def RecordedMutation.undoData (recorded : RecordedMutation) : UndoData where
  reversible := recorded.reversible
  preState := recorded.initialPreState
  plan := recorded.initialReversalPlan

namespace UndoData

/-- What a step of the body captures. -/
def after (data : UndoData) : BodyStep → UndoData
  | .updatePlan preState plan =>
    { data with preState := some preState, plan := some plan }
  | .activatePlan preState plan => ⟨true, some preState, some plan⟩
  | _ => data

/-- A forward operation whose state and executable plan were captured. -/
def Executes (kind : OperationKind) (data : UndoData) : Prop :=
  kind ≠ .undo ∧ kind ≠ .redo ∧
    data.preState.any (· != .transfer none) = true ∧
    data.plan.any ReversalPlan.isExecutable = true

/-- What an offered row may be: an undo without a captured state, a transfer
without a prior device, or one that can be executed. -/
def Accounted (kind : OperationKind) (data : UndoData) : Prop :=
  (kind = .undo ∧ data.preState = none) ∨
    (data.preState = some (.transfer none) ∧
      data.plan.any ReversalPlan.isExecutable = false) ∨
    data.Executes kind

end UndoData

/-- A body that goes through captures what its row needs, and so does what is
retained of it. -/
structure RecordedMutation.Accounts (recorded : RecordedMutation) : Prop where
  body : recorded.body.all BodyStep.maySucceed = true →
    (recorded.body.foldl UndoData.after recorded.undoData).reversible = true →
      (recorded.body.foldl UndoData.after recorded.undoData).Accounted
        (recordedKind recorded.request)
  retained : ∀ recovery ∈ recorded.retained,
    UndoData.Accounted .playlistCreate
      ⟨true, some recovery.preState, some recovery.reversalPlan⟩

namespace RecordedMutation

variable {recorded : RecordedMutation}

/-- Nothing is owed for a row that is never reversible. -/
theorem accounts_of_irreversible
    (irreversible :
      (recorded.body.foldl UndoData.after recorded.undoData).reversible = false)
    (noRetained : recorded.retained = none) : recorded.Accounts where
  body := fun _ reversible => by
    rw [irreversible] at reversible
    cases reversible
  retained := fun recovery member => by
    rw [noRetained] at member
    cases member

end RecordedMutation

namespace HandlerReads

variable (reads : HandlerReads)

theorem playlistAdd_accounts (playlist : String) (uris : List String)
    (provider : Option ProviderId) :
    (reads.playlistAdd (.playlistAddItems playlist uris provider)
      uris).Accounts where
  body _ _ := Or.inr (Or.inr ⟨nofun, nofun, rfl, rfl⟩)
  retained := nofun

/-- A removal is offered once its plan was activated. -/
theorem playlistRemove_accounts {request : Request} {subjectUris : List String}
    (kind : recordedKind request = .playlistRemove) :
    (reads.playlistRemove request subjectUris).Accounts where
  body _ reversible := by
    unfold playlistRemove at reversible ⊢
    cases postVersion : reads.postVersion with
    | none =>
      simp [postVersion, RecordedMutation.undoData, RecordedMutation.reversible,
        UndoData.after, ReversalPlan.isNotReversible] at reversible
    | some version =>
      right
      right
      rw [kind]
      exact ⟨nofun, nofun, rfl, rfl⟩
  retained := nofun

theorem playlistCreate_accounts (name : String) (description : Option String)
    (uris : List String) (provider : Option ProviderId) :
    (reads.playlistCreate (.playlistCreate name description uris provider)
      uris).Accounts where
  body _ _ := by
    right
    right
    unfold playlistCreate
    cases uris.isEmpty with
    | true => exact ⟨nofun, nofun, rfl, rfl⟩
    | false => exact ⟨nofun, nofun, rfl, rfl⟩
  retained recovery member := by
    cases member
    exact Or.inr (Or.inr ⟨nofun, nofun, rfl, rfl⟩)

theorem librarySave_accounts (uri : Option String) (current : Bool) :
    (reads.librarySave (.librarySave uri current) uri current).Accounts where
  body goesThrough _ := by
    unfold librarySave at goesThrough ⊢
    cases resolved : reads.resolvedSave uri current with
    | none =>
      simp [resolved, BodyStep.maySucceed] at goesThrough
    | some uri => exact Or.inr (Or.inr ⟨nofun, nofun, rfl, rfl⟩)
  retained := nofun

theorem libraryUnsave_accounts (uri : String) :
    (libraryUnsave (.libraryUnsave uri) uri).Accounts where
  body _ _ := Or.inr (Or.inr ⟨nofun, nofun, rfl, rfl⟩)
  retained := nofun

theorem deviceTransfer_accounts (device : String) :
    (reads.deviceTransfer (.deviceTransfer device)).Accounts where
  body _ _ := by
    unfold deviceTransfer transferPlan
    cases reads.priorDeviceId with
    | none => exact Or.inr (Or.inl ⟨rfl, rfl⟩)
    | some deviceId => exact Or.inr (Or.inr ⟨nofun, nofun, rfl, rfl⟩)
  retained := nofun

theorem recordForward_accounts {topology : ProviderTopology}
    {request : Request} {recorded : RecordedMutation}
    (records : reads.recordForward topology request = some recorded) :
    recorded.Accounts := by
  cases request with
  | playlistAddItems playlist uris provider =>
    simp only [recordForward, Option.ite_none_right_eq_some] at records
    cases records.2
    exact reads.playlistAdd_accounts playlist uris provider
  | playlistRemoveItems playlist uris provider =>
    simp only [recordForward, Option.ite_none_right_eq_some] at records
    cases records.2
    exact reads.playlistRemove_accounts rfl
  | playlistRemoveOccurrences playlist items provider =>
    simp only [recordForward, Option.ite_none_right_eq_some] at records
    cases records.2
    exact reads.playlistRemove_accounts rfl
  | playlistCreate name description uris provider =>
    cases records
    exact reads.playlistCreate_accounts name description uris provider
  | librarySave uri current =>
    cases records
    exact reads.librarySave_accounts uri current
  | libraryUnsave uri =>
    cases records
    exact libraryUnsave_accounts uri
  | deviceTransfer device =>
    cases records
    exact reads.deviceTransfer_accounts device
  | radioStart seedUri dryRun =>
    cases dryRun with
    | true => cases records
    | false =>
      cases records
      exact RecordedMutation.accounts_of_irreversible rfl rfl
  | playbackCommand command =>
    cases records
    apply RecordedMutation.accounts_of_irreversible _ rfl
    exact Bool.and_eq_false_iff.mpr
      (Or.inl (playbackCommandOperationKind_isReversible command))
  | opsUndo => cases records
  | opsRedo => cases records
  | _ =>
    cases records
    exact RecordedMutation.accounts_of_irreversible rfl rfl

end HandlerReads

theorem UndoData.foldl_after_of_plain {steps : List BodyStep}
    (plain : ∀ step ∈ steps, ∀ data : UndoData, data.after step = data)
    (data : UndoData) : steps.foldl UndoData.after data = data := by
  induction steps generalizing data with
  | nil => rfl
  | cons step rest inductionHypothesis =>
    rw [List.foldl_cons, plain step List.mem_cons_self]
    exact inductionHypothesis
      (fun later member => plain later (List.mem_cons_of_mem _ member)) data

/-- A bulk undo is recorded as not reversible. -/
theorem recordBulkUndo_accounts (request : Request)
    (members : List Operation) : (recordBulkUndo request members).Accounts := by
  apply RecordedMutation.accounts_of_irreversible _ rfl
  rw [UndoData.foldl_after_of_plain]
  · exact Bool.and_false _
  · intro step member data
    rcases List.mem_cons.mp member with rfl | member
    · rfl
    · obtain ⟨operation, -, isStep⟩ := List.mem_flatMap.mp member
      simp only [undoSingleSteps, List.mem_cons, List.not_mem_nil,
        or_false] at isStep
      rcases isStep with rfl | rfl | rfl | rfl <;> rfl

/-- Whatever is recorded captures what its row needs, but an undo. -/
theorem Store.Records.accounts {store : Store} {topology : ProviderTopology}
    {reads : HandlerReads} {request : Request} {recorded : RecordedMutation}
    (records : store.Records topology reads request recorded) :
    recorded.Accounts := by
  cases records with
  | undo found selects => exact ⟨fun _ _ => Or.inl ⟨rfl, rfl⟩, nofun⟩
  | bulkUndo found window => exact recordBulkUndo_accounts _ _
  | redo found selects =>
    exact RecordedMutation.accounts_of_irreversible rfl rfl
  | forward records => exact reads.recordForward_accounts records

/-- A row that is offered, or pending and flagged, afterwards is as it was. -/
structure Operation.Withholds (row after : Operation) : Prop where
  kind : after.kind = row.kind
  offered : after.isOffered = true → after = row
  pending : after.status = .pending →
    row.status = .pending ∧ (after.reversible = true → after = row)

namespace Operation.Withholds

variable {row middle after : Operation}

theorem refl (row : Operation) : row.Withholds row :=
  ⟨rfl, fun _ => rfl, fun pending => ⟨pending, fun _ => rfl⟩⟩

theorem trans (first : row.Withholds middle)
    (second : middle.Withholds after) : row.Withholds after where
  kind := second.kind.trans first.kind
  offered offered := by
    have same := second.offered offered
    rw [same] at offered ⊢
    exact first.offered offered
  pending pending := by
    obtain ⟨middlePending, kept⟩ := second.pending pending
    obtain ⟨rowPending, keptFirst⟩ := first.pending middlePending
    refine ⟨rowPending, fun reversible => ?_⟩
    have same := kept reversible
    rw [same] at reversible ⊢
    exact keptFirst reversible

end Operation.Withholds

namespace LogUpdate

open Operation (Withholds)

variable {issuer : OperationId} {row : Operation}

theorem rowAfter_withholds {update : LogUpdate}
    (change : update.guard row = true →
      row.Withholds (update.change issuer row)) :
    row.Withholds (update.rowAfter issuer row) := by
  unfold rowAfter
  split
  · rename_i selected
    exact change selected.2
  · exact .refl row

theorem undone_withholds (original : OperationId) :
    row.Withholds ((undone original).rowAfter issuer row) :=
  rowAfter_withholds fun _ => ⟨rfl, by simp [change], by simp [change]⟩

theorem redone_withholds (original : OperationId) :
    row.Withholds ((redone original).rowAfter issuer row) :=
  rowAfter_withholds fun _ => ⟨rfl, by simp [change], by simp [change]⟩

theorem disable_withholds (original : OperationId) :
    row.Withholds ((disable original).rowAfter issuer row) :=
  rowAfter_withholds fun _ => ⟨rfl, by simp [change], by simp [change]⟩

theorem failed_withholds (finishedAtMs : Int) (error : Option String) :
    row.Withholds ((finish .failed finishedAtMs error).rowAfter issuer row) :=
  rowAfter_withholds fun _ => ⟨rfl, by simp [change], by simp [change]⟩

theorem ofGuard_withholds (guard : PostWriteOperationGuard) :
    row.Withholds ((ofGuard guard).rowAfter issuer row) := by
  cases guard with
  | disableUndo original => exact disable_withholds original
  | markRedone original => exact redone_withholds original

/-- An update withholds the rows of the other operations. -/
theorem withholds_of_ne (update : LogUpdate)
    (different : row.operationId ≠ issuer) :
    row.Withholds (update.rowAfter issuer row) := by
  cases update with
  | undone original => exact undone_withholds original
  | redone original => exact redone_withholds original
  | disable original => exact disable_withholds original
  | _ =>
    rw [rowAfter_of_ne issuer different]
    exact .refl row

/-- An update that does not finish an operation offers no row. -/
theorem rowAfter_eq_of_offered {update : LogUpdate}
    (unfinished : ∀ status finishedAtMs error,
      update ≠ .finish status finishedAtMs error)
    (offered : (update.rowAfter issuer row).isOffered = true) :
    update.rowAfter issuer row = row := by
  unfold rowAfter at offered ⊢
  split
  · rename_i selected
    rw [if_pos selected] at offered
    obtain ⟨-, guarded⟩ := selected
    exfalso
    cases update with
    | finish status finishedAtMs error =>
      exact unfinished status finishedAtMs error rfl
    | _ => simp_all [change, guard]
  · rfl

/-- No update makes a row pending. -/
theorem pending_of_rowAfter {update : LogUpdate}
    (pending : (update.rowAfter issuer row).status = .pending) :
    row.status = .pending := by
  unfold rowAfter at pending
  split at pending
  · rename_i selected
    cases update <;> simp_all [change, guard]
  · exact pending

theorem pending_of_rowAfterAll {updates : List LogUpdate}
    (pending : (rowAfterAll issuer row updates).status = .pending) :
    row.status = .pending := by
  induction updates generalizing row with
  | nil => exact pending
  | cons update rest inductionHypothesis =>
    exact pending_of_rowAfter (inductionHypothesis pending)

theorem rowAfterAll_withholds {updates : List LogUpdate}
    (withholds : ∀ update ∈ updates, ∀ later : Operation,
      later.operationId = row.operationId →
        later.Withholds (update.rowAfter issuer later)) :
    row.Withholds (rowAfterAll issuer row updates) := by
  have kept := @rowAfterAll_induction issuer
    (fun later => later.operationId = row.operationId ∧ row.Withholds later)
    updates ?_ row ⟨rfl, .refl row⟩
  · exact kept.2
  · intro update member later kept
    rw [rowAfter_operationId]
    exact ⟨kept.1, kept.2.trans (withholds update member later kept.1)⟩

theorem rowAfterAll_eq_of_offered {updates : List LogUpdate}
    (unfinished : ∀ update ∈ updates, ∀ status finishedAtMs error,
      update ≠ .finish status finishedAtMs error)
    (offered : (rowAfterAll issuer row updates).isOffered = true) :
    rowAfterAll issuer row updates = row := by
  induction updates generalizing row with
  | nil => rfl
  | cons update rest inductionHypothesis =>
    rw [List.forall_mem_cons] at unfinished
    have same := inductionHypothesis unfinished.2 offered
    rw [rowAfterAll] at offered ⊢
    rw [same] at offered ⊢
    exact rowAfter_eq_of_offered unfinished.1 offered

theorem rowAfterAll_guard_of_offered {guard : Option PostWriteOperationGuard}
    (offered : (rowAfterAll issuer row
      (guard.map ofGuard).toList).isOffered = true) :
    rowAfterAll issuer row (guard.map ofGuard).toList = row := by
  cases guard with
  | none => rfl
  | some guard => exact (ofGuard_withholds guard).offered offered

/-- What is retained of a partial creation, on its own pending row. -/
def retained (recovery : Option PartialOperationRecovery) (row : Operation) :
    Operation :=
  recovery.elim row fun recovery => (retain recovery).change row.operationId row

theorem undoData_ending_of_offered
    {recovery : Option PartialOperationRecovery} {status : OperationStatus}
    {finishedAtMs : Int} {error : Option String}
    {guard : Option PostWriteOperationGuard}
    (own : row.operationId = issuer) (pending : row.status = .pending)
    (offered : (rowAfterAll issuer row (ending recovery status finishedAtMs
      error guard)).isOffered = true) :
    status = .succeeded ∧
      (rowAfterAll issuer row (ending recovery status finishedAtMs error
        guard)).undoData = (retained recovery row).undoData := by
  have finished : rowAfterAll issuer row ((recovery.map retain).toList ++
      [finish status finishedAtMs error]) =
        { retained recovery row with
          status := status, finishedAtMs := some finishedAtMs,
          errorMessage := error } := by
    cases recovery with
    | none =>
      simp [rowAfterAll, rowAfter, retained, own, pending, target,
        LogUpdate.guard, change]
    | some recovery =>
      simp [rowAfterAll, rowAfter, retained, own, pending, target,
        LogUpdate.guard, change]
  have split : ending recovery status finishedAtMs error guard =
      ((recovery.map retain).toList ++ [finish status finishedAtMs error]) ++
        (guard.map ofGuard).toList := by
    simp [ending]
  rw [split, rowAfterAll_append, finished] at offered ⊢
  have same := rowAfterAll_guard_of_offered offered
  rw [same] at offered ⊢
  exact ⟨(Operation.isOffered_eq_true.mp offered).2, rfl⟩

/-- The end of an operation leaves a row that is not pending alone, or takes
it off offer. -/
theorem rowAfterAll_ending_of_ended
    {recovery : Option PartialOperationRecovery} {status : OperationStatus}
    {finishedAtMs : Int} {error : Option String}
    {guard : Option PostWriteOperationGuard}
    (ended : row.status ≠ .pending)
    (offered : (rowAfterAll issuer row (ending recovery status finishedAtMs
      error guard)).isOffered = true) :
    rowAfterAll issuer row
      (ending recovery status finishedAtMs error guard) = row := by
  have refused : row.isPending = false := by
    simp [Operation.isPending, ended]
  have finished : rowAfterAll issuer row ((recovery.map retain).toList ++
      [finish status finishedAtMs error]) = row := by
    cases recovery with
    | none => simp [rowAfterAll, rowAfter, LogUpdate.guard, refused]
    | some recovery => simp [rowAfterAll, rowAfter, LogUpdate.guard, refused]
  have split : ending recovery status finishedAtMs error guard =
      ((recovery.map retain).toList ++ [finish status finishedAtMs error]) ++
        (guard.map ofGuard).toList := by
    simp [ending]
  rw [split, rowAfterAll_append, finished] at offered ⊢
  exact rowAfterAll_guard_of_offered offered

end LogUpdate

/-- No row is offered, or left pending and flagged, but as it was. -/
def OperationTable.Withholds (operations next : OperationTable) : Prop :=
  ∀ target after, next.get? target = some after →
    ∃ row, operations.get? target = some row ∧ row.Withholds after

theorem OperationTable.Withholds.refl (operations : OperationTable) :
    operations.Withholds operations :=
  fun _ row found => ⟨row, found, .refl row⟩

theorem LogUpdate.applyAll_withholds {issuer : OperationId}
    {operations : OperationTable} {updates : List LogUpdate}
    (withholds : ∀ update ∈ updates, ∀ row : Operation,
      row.Withholds (update.rowAfter issuer row)) :
    operations.Withholds (applyAll issuer operations updates) := by
  intro target after found
  obtain ⟨row, before, rfl⟩ := (get?_applyAll_eq_some issuer).mp found
  exact ⟨row, before, rowAfterAll_withholds fun update member later _ =>
    withholds update member later⟩

/-- An operation that ends as failed offers nothing. -/
theorem LogUpdate.ending_failed_withholds {issuer : OperationId}
    {operations : OperationTable} (nowMs : Int) (error : Option String)
    (guard : Option PostWriteOperationGuard) :
    operations.Withholds (applyAll issuer operations
      (ending none .failed nowMs error guard)) := by
  apply applyAll_withholds
  intro update member row
  rcases List.mem_cons.mp member with rfl | member
  · exact failed_withholds nowMs error
  · rw [Option.toList_map] at member
    obtain ⟨original, -, rfl⟩ := List.mem_map.mp member
    exact ofGuard_withholds original

namespace MutationSystem

variable {topology : ProviderTopology} {system : MutationSystem}

/-- A task ends its operation as it ended, or nothing new is offered. -/
theorem finalizedStore_ends (linked : system.Linked topology)
    {task : MutationTask} (live : task ∈ system.tasks) {data : String}
    {persists : Bool} {currentItem : Option String} {nowMs : Int}
    {store : Store} {minted : Nat}
    (finalized : system.finalizedStore topology task data persists currentItem
      nowMs = (store, minted)) :
    system.store.operations.Withholds store.operations ∨
      ∃ error guard, store.operations =
        LogUpdate.applyAll task.operationId system.store.operations
          (LogUpdate.ending task.recovery task.operationStatus nowMs error
            guard) := by
  rcases finalizedStore_endsOperation linked live finalized with
    rfl | ⟨recovery, status, error, guard, endsAs, ends⟩
  · exact Or.inl (.refl _)
  · cases endsAs with
    | finalized isOwn => exact Or.inr ⟨error, guard, ends.operations⟩
    | indeterminate intent =>
      left
      rw [ends.operations]
      exact LogUpdate.ending_failed_withholds nowMs error _

theorem recoverProcessingMutationClaim_withholds {store next : Store}
    {mutationId : MutationId} {row : MutationDedupRow}
    {claim : ProcessingMutationClaim} {currentItem : Option String}
    {minted : Nat} {nowMs : Int} {response : Response}
    {reconciliations : List ProviderReconciliation}
    (found : store.mutationDedup.get? mutationId = some row)
    (isClaim : row.processingClaim? = some claim)
    (recovered : store.recoverProcessingMutationClaim topology currentItem
      claim minted nowMs = .ok (next, response, reconciliations)) :
    store.operations.Withholds next.operations := by
  obtain ⟨seeds, guard, -, ends⟩ :=
    recoverProcessingMutationClaim_endsOperation found isClaim recovered
  rw [ends.operations]
  exact LogUpdate.ending_failed_withholds nowMs _ guard

end MutationSystem

namespace BodyStep

variable {issuer : OperationId} {row : Operation}

/-- The pending row of an operation shows what its step captured. -/
theorem undoData_rowAfterAll (step : BodyStep) (own : row.operationId = issuer)
    (pending : row.status = .pending)
    (activates : ∀ preState plan, step = .activatePlan preState plan →
      row.reversible = false) :
    (LogUpdate.rowAfterAll issuer row step.updates).undoData =
      row.undoData.after step := by
  cases step with
  | activatePlan preState plan =>
    have irreversible := activates preState plan rfl
    simp [updates, LogUpdate.rowAfterAll, LogUpdate.rowAfter,
      LogUpdate.target, LogUpdate.guard, LogUpdate.change, own, pending,
      irreversible, Operation.undoData, UndoData.after]
  | updatePlan preState plan =>
    simp [updates, LogUpdate.rowAfterAll, LogUpdate.rowAfter,
      LogUpdate.target, LogUpdate.guard, LogUpdate.change, own, pending,
      Operation.undoData, UndoData.after]
  | updateSubjectUris subjectUris =>
    simp [updates, LogUpdate.rowAfterAll, LogUpdate.rowAfter,
      LogUpdate.target, LogUpdate.guard, LogUpdate.change, own, pending,
      Operation.undoData, UndoData.after]
  | linkSubject subject =>
    simp [updates, LogUpdate.rowAfterAll, LogUpdate.rowAfter,
      LogUpdate.target, LogUpdate.guard, LogUpdate.change, own, pending,
      Operation.undoData, UndoData.after]
  | markUndone member =>
    simp [updates, LogUpdate.rowAfterAll, LogUpdate.rowAfter,
      LogUpdate.guard, pending, UndoData.after]
  | markRedone subject =>
    simp [updates, LogUpdate.rowAfterAll, LogUpdate.rowAfter,
      LogUpdate.guard, pending, UndoData.after]
  | _ => rfl

/-- A step keeps the flag, or decides everything. -/
theorem after_cases (step : BodyStep) :
    (∀ data : UndoData, (data.after step).reversible = data.reversible) ∨
      ∀ first second : UndoData, first.after step = second.after step := by
  cases step with
  | activatePlan preState plan => exact Or.inr fun _ _ => rfl
  | _ => exact Or.inl fun _ => rfl

end BodyStep

/-- Every offered row is accounted for. -/
def OperationTable.Accounted (operations : OperationTable) : Prop :=
  ∀ target row, operations.get? target = some row →
    row.isOffered = true → row.undoData.Accounted row.kind

/-- The pending row of a task holds what the task captured so far. -/
def MutationTask.Captures (task : MutationTask)
    (operations : OperationTable) : Prop :=
  ∀ row, operations.get? task.operationId = some row →
    row.status = .pending →
      row.kind = recordedKind task.recorded.request ∧
        (row.reversible = true → row.undoData =
          task.done.foldl UndoData.after task.recorded.undoData)

section Tables

variable {operations next : OperationTable} {task : MutationTask}

theorem OperationTable.Accounted.of_withholds
    (accounted : operations.Accounted) (withholds : operations.Withholds next) :
    next.Accounted := by
  intro target after found offered
  obtain ⟨row, before, kept⟩ := withholds target after found
  have same := kept.offered offered
  rw [same] at offered ⊢
  exact accounted target row before offered

theorem MutationTask.Captures.row {row after : Operation}
    (captures : task.Captures operations)
    (before : operations.get? task.operationId = some row)
    (kept : row.Withholds after) (pending : after.status = .pending) :
    after.kind = recordedKind task.recorded.request ∧
      (after.reversible = true → after.undoData =
        task.done.foldl UndoData.after task.recorded.undoData) := by
  obtain ⟨rowPending, unchanged⟩ := kept.pending pending
  obtain ⟨kind, captured⟩ := captures row before rowPending
  refine ⟨kept.kind.trans kind, fun reversible => ?_⟩
  have same := unchanged reversible
  rw [same] at reversible ⊢
  exact captured reversible

theorem MutationTask.Captures.of_withholds
    (captures : task.Captures operations)
    (withholds : operations.Withholds next) : task.Captures next := by
  intro after found pending
  obtain ⟨row, before, kept⟩ := withholds _ after found
  exact captures.row before kept pending

/-- The updates of another operation leave what a task captured. -/
theorem MutationTask.Captures.of_ne {issuer : OperationId}
    (captures : task.Captures operations)
    (different : task.operationId ≠ issuer) (updates : List LogUpdate) :
    task.Captures (LogUpdate.applyAll issuer operations updates) := by
  intro after found pending
  obtain ⟨row, before, rfl⟩ :=
    (LogUpdate.get?_applyAll_eq_some issuer).mp found
  have own : row.operationId = task.operationId := SqlTable.key_of_get? before
  have kept : row.Withholds (LogUpdate.rowAfterAll issuer row updates) :=
    LogUpdate.rowAfterAll_withholds fun update _ later same =>
      LogUpdate.withholds_of_ne update fun isIssuer =>
        different (own.symm.trans (same.symm.trans isIssuer))
  exact captures.row before kept pending

/-- A step of a body offers no row. -/
theorem OperationTable.Accounted.updates {issuer : OperationId}
    (accounted : operations.Accounted) (step : BodyStep) :
    (LogUpdate.applyAll issuer operations step.updates).Accounted := by
  intro target after found offered
  obtain ⟨row, before, rfl⟩ :=
    (LogUpdate.get?_applyAll_eq_some issuer).mp found
  have same : LogUpdate.rowAfterAll issuer row step.updates = row := by
    apply LogUpdate.rowAfterAll_eq_of_offered _ offered
    intro update member
    cases step <;> simp_all [BodyStep.updates]
  rw [same] at offered ⊢
  exact accounted target row before offered

/-- What a step captures shows in the pending row of its task. -/
theorem MutationTask.Captures.performs {store : Store} {step : BodyStep}
    {rest : List BodyStep} {topology : ProviderTopology} {minted : Nat}
    (captures : task.Captures store.operations)
    (wellRun : task.WellRun topology minted)
    (isNext : task.remaining = step :: rest)
    (required : step.Requires task.operationId store) :
    Captures { task with remaining := rest }
      (LogUpdate.applyAll task.operationId store.operations step.updates) := by
  intro after found pending
  obtain ⟨row, before, rfl⟩ :=
    (LogUpdate.get?_applyAll_eq_some _).mp found
  have own : row.operationId = task.operationId := SqlTable.key_of_get? before
  have rowPending := LogUpdate.pending_of_rowAfterAll pending
  obtain ⟨kind, captured⟩ := captures row before rowPending
  rw [LogUpdate.rowAfterAll_kind]
  refine ⟨kind, fun reversible => ?_⟩
  have shows := step.undoData_rowAfterAll own rowPending
    (fun preState plan activates => by
      subst activates
      obtain ⟨found, isRow, -, irreversible⟩ := required
      cases before.symm.trans isRow
      exact irreversible)
  rw [wellRun.done_next isNext, List.foldl_append, List.foldl_cons,
    List.foldl_nil, shows]
  rcases step.after_cases with keeps | activates
  · have flag := (congrArg UndoData.reversible shows).trans
      (keeps row.undoData)
    rw [captured (flag.symm.trans reversible)]
  · exact activates _ _

end Tables

/-- Every offered row is accounted for, and every task captures in its row
what it will be accounted for by. -/
structure MutationSystem.OffersAccounted (topology : ProviderTopology)
    (system : MutationSystem) : Prop where
  linked : system.Linked topology
  accounted : system.store.operations.Accounted
  captures : ∀ task ∈ system.tasks, task.Captures system.store.operations

namespace MutationTask

variable {topology : ProviderTopology} {minted : Nat} {task : MutationTask}
  {operations : OperationTable}

theorem WellRun.accounts (wellRun : task.WellRun topology minted) :
    task.recorded.Accounts := by
  obtain ⟨store, reads, request, records⟩ := wellRun.recorded
  exact records.accounts

/-- A finished task whose operation succeeds went through, or retained what
it created. -/
theorem operationStatus_eq_succeeded (finished : task.isFinished = true)
    (succeeded : task.operationStatus = .succeeded) :
    (task.recovery = none ∧ task.remaining = []) ∨
      ((∃ recovery, task.recovery = some recovery) ∧
        recordedKind task.recorded.request = .playlistCreate) := by
  unfold operationStatus at succeeded
  split at succeeded
  · rename_i through
    left
    refine ⟨by rw [recovery, through]; rfl, ?_⟩
    simpa [isFinished, through] using finished
  · split at succeeded
    · rename_i retains
      exact Or.inr ⟨Option.isSome_iff_exists.mp retains.1, retains.2⟩
    · cases succeeded

/-- A task ends its operation with what it captured. -/
theorem accounted_ending (wellRun : task.WellRun topology minted)
    (captures : task.Captures operations) (finished : task.isFinished = true)
    (accounted : operations.Accounted) (nowMs : Int) (error : Option String)
    (guard : Option PostWriteOperationGuard) :
    (LogUpdate.applyAll task.operationId operations
      (LogUpdate.ending task.recovery task.operationStatus nowMs error
        guard)).Accounted := by
  intro target after found offered
  obtain ⟨row, before, rfl⟩ :=
    (LogUpdate.get?_applyAll_eq_some _).mp found
  by_cases own : row.operationId = task.operationId
  · by_cases pending : row.status = .pending
    · obtain ⟨succeeded, shows⟩ :=
        LogUpdate.undoData_ending_of_offered own pending offered
      have isRow : operations.get? task.operationId = some row := by
        rw [← own, SqlTable.key_of_get? before]
        exact before
      obtain ⟨kind, captured⟩ := captures row isRow pending
      have reversible : (LogUpdate.retained task.recovery
          row).undoData.reversible = true := by
        rw [← shows]
        exact (Operation.isOffered_eq_true.mp offered).1
      rw [LogUpdate.rowAfterAll_kind, shows, kind]
      rcases operationStatus_eq_succeeded finished succeeded with
        ⟨nothing, all⟩ | ⟨⟨recovery, retains⟩, creates⟩
      · rw [nothing] at reversible ⊢
        have ran := wellRun.ran
        rw [all, List.append_nil] at ran
        have isBody := captured reversible
        rw [← ran] at isBody
        change row.undoData.Accounted _
        rw [isBody]
        apply wellRun.accounts.body
        · rw [ran]
          exact wellRun.maySucceed
        · rw [← isBody]
          exact reversible
      · rw [retains, creates]
        exact wellRun.accounts.retained recovery
          (wellRun.retains recovery retains)
    · have same := LogUpdate.rowAfterAll_ending_of_ended pending offered
      rw [same] at offered ⊢
      exact accounted target row before offered
  · have kept : row.Withholds (LogUpdate.rowAfterAll task.operationId row
        (LogUpdate.ending task.recovery task.operationStatus nowMs error
          guard)) :=
      LogUpdate.rowAfterAll_withholds fun update _ later same =>
        LogUpdate.withholds_of_ne update (same ▸ own)
    have same := kept.offered offered
    rw [same] at offered ⊢
    exact accounted target row before offered

end MutationTask

namespace MutationSystem.OffersAccounted

variable {topology : ProviderTopology} {system next : MutationSystem}

theorem initial : OffersAccounted topology initial where
  linked := Linked.initial
  accounted := by
    intro target row found
    rw [MutationSystem.initial] at found
    cases found
  captures := fun _ live => absurd live List.not_mem_nil

/-- A new row is pending and holds what its task was recorded with. -/
theorem accounted_starts (accounted : system.store.operations.Accounted)
    {operation : Operation} {operations : OperationTable}
    (inserted : system.store.operations.insert? operation = some operations)
    (pending : operation.status = .pending) : operations.Accounted := by
  intro target row found offered
  rw [SqlTable.get?_insert inserted] at found
  split at found
  · cases found
    simp [Operation.isOffered, pending] at offered
  · exact accounted target row found offered

theorem accounted_step (holds : OffersAccounted topology system)
    (steps : Steps topology system next) :
    next.store.operations.Accounted := by
  cases steps with
  | starts lane free records pending =>
    obtain ⟨receipts, operations, mutationDedup, rfl, -, inserted, -⟩ :=
      Store.recordPending_eq_ok free pending
    exact accounted_starts holds.accounted inserted rfl
  | performs live running isNext maySucceed performs =>
    obtain ⟨rfl, -⟩ := BodyStep.perform_eq_ok performs
    exact holds.accounted.updates _
  | fails live running isNext carries => exact holds.accounted
  | finalizes live finished finalized =>
    rcases finalizedStore_ends holds.linked live finalized with
      withholds | ⟨error, guard, ends⟩
    · exact holds.accounted.of_withholds withholds
    · rw [ends]
      exact MutationTask.accounted_ending (holds.linked.apart.wellRun _ live)
        (holds.captures _ live) finished holds.accounted _ error guard
  | drops operationId => exact holds.accounted
  | crashes => exact holds.accounted
  | recovers found isClaim notLive recovered =>
    exact holds.accounted.of_withholds
      (recoverProcessingMutationClaim_withholds found isClaim recovered)

theorem captures_step (holds : OffersAccounted topology system)
    (steps : Steps topology system next) :
    ∀ task ∈ next.tasks, task.Captures next.store.operations := by
  intro other member
  cases steps with
  | starts lane free records pending =>
    obtain ⟨receipts, operations, mutationDedup, rfl, -, inserted, -⟩ :=
      Store.recordPending_eq_ok free pending
    intro row found rowPending
    have found :=
      (SqlTable.get?_insert inserted other.operationId).symm.trans found
    rcases List.mem_append.mp member with old | isNew
    · rw [if_neg] at found
      · exact holds.captures other old row found rowPending
      · intro same
        have minted := (holds.linked.apart.wellRun other old).minted
        rw [same] at minted
        exact Nat.lt_irrefl _ minted
    · cases List.mem_singleton.mp isNew
      rw [if_pos] at found
      · cases found
        refine ⟨rfl, fun _ => ?_⟩
        simp [MutationTask.done, RecordedMutation.pendingOperation,
          Operation.undoData, RecordedMutation.undoData]
      · rfl
  | performs live running isNext maySucceed performs =>
    obtain ⟨rfl, required⟩ := BodyStep.perform_eq_ok performs
    rcases holds.linked.apart.of_mem_updateTask live member with
      rfl | ⟨old, different⟩
    · exact (holds.captures _ live).performs (holds.linked.apart.wellRun _ live)
        isNext required
    · exact (holds.captures other old).of_ne different _
  | fails live running isNext carries =>
    rcases holds.linked.apart.of_mem_updateTask live member with rfl | ⟨old, -⟩
    · have captures := holds.captures _ live
      exact captures
    · exact holds.captures other old
  | finalizes live finished finalized =>
    obtain ⟨old, different⟩ := mem_otherTasks.mp member
    rcases finalizedStore_ends holds.linked live finalized with
      withholds | ⟨error, guard, ends⟩
    · exact (holds.captures other old).of_withholds withholds
    · rw [ends]
      exact (holds.captures other old).of_ne different _
  | drops operationId =>
    exact holds.captures other (mem_otherTasks.mp member).1
  | crashes => exact absurd member List.not_mem_nil
  | recovers found isClaim notLive recovered =>
    exact (holds.captures other member).of_withholds
      (recoverProcessingMutationClaim_withholds found isClaim recovered)

theorem of_reachable (reachable : Reachable topology system) :
    OffersAccounted topology system := by
  apply reachable.invariant initial
  intro before after holds steps
  exact ⟨holds.linked.step steps, holds.accounted_step steps,
    holds.captures_step steps⟩

end MutationSystem.OffersAccounted

/-- Undo accepts an operation, and its plan has an execution. -/
def Operation.IsUndoable (operation : Operation) : Prop :=
  validateUndoable operation = .ok () ∧
    operation.reversalPlan.any ReversalPlan.isExecutable = true

/-- A mutation without a key that goes through. -/
def uninterrupted (operationId : OperationId) (request : Request)
    (reads : HandlerReads) (steps : Nat) (nowMs : Int) : List SystemAction :=
  .start none "" request reads .cli nowMs ::
    (List.replicate steps (.advance operationId .succeeds) ++
      [.finalize operationId "" true none nowMs])

/-- Two tracks are unsaved. -/
def twoUnsaves : List SystemAction :=
  uninterrupted ⟨0⟩ (.libraryUnsave "fake:track:one") idleReads 1 0 ++
    uninterrupted ⟨1⟩ (.libraryUnsave "fake:track:two") idleReads 1 1

/-- A transfer that found no active device is offered, with a plan that denies
its own reversal. -/
theorem MutationSystem.deviceTransfer_offered_irreversible :
    ∃ system, Reachable fakeTopology system ∧
      ∃ transfer ∈ system.store.operations.rows,
        system.store.operations.IsLastReversibleOperation transfer ∧
          transfer.kind = .transfer ∧
          transfer.reversalPlan.any ReversalPlan.isNotReversible = true := by
  have runs : ((machine fakeTopology).run initial
      (uninterrupted ⟨0⟩ (.deviceTransfer "speaker") idleReads 3 0)).any
      (fun system => decide (∃ transfer ∈ system.store.operations.rows,
        system.store.operations.IsLastReversibleOperation transfer ∧
          transfer.kind = .transfer ∧
          transfer.reversalPlan.any ReversalPlan.isNotReversible =
            true)) = true := by
    decide +kernel
  obtain ⟨system, runs, holds⟩ := (Option.any_eq_true _ _).mp runs
  exact ⟨system, ⟨initial, _, rfl, runs⟩, of_decide_eq_true holds⟩

end Spotuify
