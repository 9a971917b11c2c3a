import Spotuify.ClaimPhases

/-!
# Guarded updates of the operations log

Whatever a transaction does to the operations log is a sequence of guarded
updates of single rows, issued on behalf of one operation: the operation's own
row while it is pending, or the row of the operation it undoes or redoes.  The
updates are data here, so that an invariant of the log is checked once for
each of them and then holds for every transaction that is built from them.
-/

namespace Spotuify

/-- One guarded update of a row of the operations log. -/
inductive LogUpdate where
  | plan (preState : Option PreState) (reversal : Option ReversalPlan)
  | subjectUris (uris : List String)
  | subject (original : OperationId)
  | activate (preState : PreState) (reversal : ReversalPlan)
  | retain (recovery : PartialOperationRecovery)
  | finish (status : OperationStatus) (finishedAtMs : Int)
      (error : Option String)
  | undone (original : OperationId)
  | redone (original : OperationId)
  | disable (original : OperationId)
  deriving DecidableEq

namespace LogUpdate

/-- The row an update selects, when it is issued by an operation. -/
def target (issuer : OperationId) : LogUpdate → OperationId
  | .undone original | .redone original | .disable original => original
  | _ => issuer

/-- The guard of an update. -/
def guard : LogUpdate → Operation → Bool
  | .undone _, row => row.status == .succeeded
  | .redone _, row => row.status == .undone
  | .disable _, _ => true
  | .activate .., row => row.isPending && !row.reversible
  | _, row => row.isPending

/-- What an update writes. -/
def change (issuer : OperationId) : LogUpdate → Operation → Operation
  | .plan preState reversal, row =>
    { row with preState := preState, reversalPlan := reversal }
  | .subjectUris uris, row => { row with subjectUris := uris }
  | .subject original, row => { row with subjectOpId := some original }
  | .activate preState reversal, row =>
    { row with
      preState := some preState, reversalPlan := some reversal,
      reversible := true }
  | .retain recovery, row =>
    { row with
      reversible := true, preState := some recovery.preState,
      reversalPlan := some recovery.reversalPlan,
      subjectUris := recovery.subjectUris }
  | .finish status finishedAtMs error, row =>
    { row with
      status := status, finishedAtMs := some finishedAtMs,
      errorMessage := error }
  | .undone _, row =>
    { row with status := .undone, undoneByOpId := some issuer }
  | .redone _, row =>
    { row with status := .redone, redoneByOpId := some issuer }
  | .disable _, row =>
    { row with
      reversible := false,
      reversalPlan := some (.notReversible Store.partialReversalReason) }

theorem change_operationId (issuer : OperationId) (update : LogUpdate)
    (row : Operation) :
    (update.change issuer row).operationId = row.operationId := by
  cases update <;> rfl

/-- An update of the log. -/
def apply (issuer : OperationId) (update : LogUpdate)
    (operations : OperationTable) : OperationTable :=
  operations.updateKey (update.target issuer) update.guard
    (update.change issuer) (update.change_operationId issuer)

/-- What an update makes of the row of one operation. -/
def rowAfter (issuer : OperationId) (update : LogUpdate) (row : Operation) :
    Operation :=
  if row.operationId = update.target issuer ∧ update.guard row = true then
    update.change issuer row
  else row

/-- Updates issued by one operation in one transaction. -/
def applyAll (issuer : OperationId) (operations : OperationTable) :
    List LogUpdate → OperationTable
  | [] => operations
  | update :: rest => applyAll issuer (update.apply issuer operations) rest

/-- What the updates of one transaction make of a row. -/
def rowAfterAll (issuer : OperationId) (row : Operation) :
    List LogUpdate → Operation
  | [] => row
  | update :: rest => rowAfterAll issuer (update.rowAfter issuer row) rest

variable (issuer : OperationId)

/-- Reading a row after an update. -/
theorem get?_apply (update : LogUpdate) (operations : OperationTable)
    (target : OperationId) :
    (update.apply issuer operations).get? target =
      (operations.get? target).map (update.rowAfter issuer) := by
  rw [apply, SqlTable.get?_updateKey]
  cases found : operations.get? target with
  | none => rfl
  | some row =>
    have rowKey : row.operationId = target := SqlTable.key_of_get? found
    simp only [Option.map_some, rowAfter, rowKey]

/-- Reading a row after a transaction. -/
theorem get?_applyAll (updates : List LogUpdate)
    (operations : OperationTable) (target : OperationId) :
    (applyAll issuer operations updates).get? target =
      (operations.get? target).map fun row =>
        rowAfterAll issuer row updates := by
  induction updates generalizing operations with
  | nil => simp [applyAll, rowAfterAll]
  | cons update rest inductionHypothesis =>
    rw [applyAll, inductionHypothesis, get?_apply, Option.map_map]
    rfl

theorem get?_applyAll_isSome (updates : List LogUpdate)
    (operations : OperationTable) (target : OperationId) :
    ((applyAll issuer operations updates).get? target).isSome =
      (operations.get? target).isSome := by
  rw [get?_applyAll, Option.isSome_map]

/-- A row read after a transaction comes from the row read before. -/
theorem get?_applyAll_eq_some {updates : List LogUpdate}
    {operations : OperationTable} {target : OperationId} {after : Operation} :
    (applyAll issuer operations updates).get? target = some after ↔
      ∃ row, operations.get? target = some row ∧
        rowAfterAll issuer row updates = after := by
  rw [get?_applyAll, Option.map_eq_some_iff]

theorem applyAll_append (operations : OperationTable)
    (first second : List LogUpdate) :
    applyAll issuer operations (first ++ second) =
      applyAll issuer (applyAll issuer operations first) second := by
  induction first generalizing operations with
  | nil => rfl
  | cons update rest inductionHypothesis =>
    exact inductionHypothesis (update.apply issuer operations)

theorem rowAfterAll_append (row : Operation)
    (first second : List LogUpdate) :
    rowAfterAll issuer row (first ++ second) =
      rowAfterAll issuer (rowAfterAll issuer row first) second := by
  induction first generalizing row with
  | nil => rfl
  | cons update rest inductionHypothesis =>
    exact inductionHypothesis (update.rowAfter issuer row)

/-- What a predicate of rows keeps through every single update, it keeps
through a transaction. -/
theorem rowAfterAll_induction {issuer : OperationId}
    {invariant : Operation → Prop} {updates : List LogUpdate}
    (preserved : ∀ update ∈ updates, ∀ row, invariant row →
      invariant (update.rowAfter issuer row))
    {row : Operation} (holds : invariant row) :
    invariant (rowAfterAll issuer row updates) := by
  induction updates generalizing row with
  | nil => exact holds
  | cons update rest inductionHypothesis =>
    apply inductionHypothesis
    · intro other member
      exact preserved other (List.mem_cons_of_mem _ member)
    · exact preserved update List.mem_cons_self row holds

@[simp]
theorem rowAfter_operationId (update : LogUpdate) (row : Operation) :
    (update.rowAfter issuer row).operationId = row.operationId := by
  unfold rowAfter
  split
  · exact update.change_operationId issuer row
  · rfl

@[simp]
theorem rowAfter_kind (update : LogUpdate) (row : Operation) :
    (update.rowAfter issuer row).kind = row.kind := by
  unfold rowAfter
  split
  · cases update <;> rfl
  · rfl

@[simp]
theorem rowAfter_receiptId (update : LogUpdate) (row : Operation) :
    (update.rowAfter issuer row).receiptId = row.receiptId := by
  unfold rowAfter
  split
  · cases update <;> rfl
  · rfl

@[simp]
theorem rowAfter_occurredAtMs (update : LogUpdate) (row : Operation) :
    (update.rowAfter issuer row).occurredAtMs = row.occurredAtMs := by
  unfold rowAfter
  split
  · cases update <;> rfl
  · rfl

@[simp]
theorem rowAfterAll_occurredAtMs (updates : List LogUpdate)
    (row : Operation) :
    (rowAfterAll issuer row updates).occurredAtMs = row.occurredAtMs := by
  induction updates generalizing row with
  | nil => rfl
  | cons update rest inductionHypothesis =>
    exact (inductionHypothesis (update.rowAfter issuer row)).trans
      (rowAfter_occurredAtMs issuer update row)

@[simp]
theorem rowAfterAll_operationId (updates : List LogUpdate)
    (row : Operation) :
    (rowAfterAll issuer row updates).operationId = row.operationId := by
  induction updates generalizing row with
  | nil => rfl
  | cons update rest inductionHypothesis =>
    exact (inductionHypothesis (update.rowAfter issuer row)).trans
      (rowAfter_operationId issuer update row)

@[simp]
theorem rowAfterAll_kind (updates : List LogUpdate) (row : Operation) :
    (rowAfterAll issuer row updates).kind = row.kind := by
  induction updates generalizing row with
  | nil => rfl
  | cons update rest inductionHypothesis =>
    exact (inductionHypothesis (update.rowAfter issuer row)).trans
      (rowAfter_kind issuer update row)

@[simp]
theorem rowAfterAll_receiptId (updates : List LogUpdate)
    (row : Operation) :
    (rowAfterAll issuer row updates).receiptId = row.receiptId := by
  induction updates generalizing row with
  | nil => rfl
  | cons update rest inductionHypothesis =>
    exact (inductionHypothesis (update.rowAfter issuer row)).trans
      (rowAfter_receiptId issuer update row)

/-- An update that selects another row leaves a row alone. -/
theorem rowAfter_of_ne {update : LogUpdate} {row : Operation}
    (different : row.operationId ≠ update.target issuer) :
    update.rowAfter issuer row = row :=
  if_neg fun selected => different selected.1

/-- An update whose guard refuses a row leaves it alone. -/
theorem rowAfter_of_refused {update : LogUpdate} {row : Operation}
    (refused : update.guard row = false) :
    update.rowAfter issuer row = row :=
  if_neg fun selected => by simp [refused] at selected

/-- The update a post-write guard stands for. -/
def ofGuard : PostWriteOperationGuard → LogUpdate
  | .disableUndo original => .disable original
  | .markRedone original => .redone original

/-- The updates that end an operation: what was retained of a partial
creation, the terminal status, and the guard. -/
def ending (recovery : Option PartialOperationRecovery)
    (status : OperationStatus) (finishedAtMs : Int) (error : Option String)
    (guard : Option PostWriteOperationGuard) : List LogUpdate :=
  (recovery.map LogUpdate.retain).toList ++
    .finish status finishedAtMs error :: (guard.map ofGuard).toList

theorem guardedOperations_eq (operations : OperationTable)
    (guard : Option PostWriteOperationGuard) :
    Store.guardedOperations operations issuer guard =
      applyAll issuer operations (guard.map ofGuard).toList := by
  cases guard with
  | none => rfl
  | some guard => cases guard <;> rfl

theorem retainPartialOperationRecoveryTx_eq (store : Store)
    (recovery : Option PartialOperationRecovery) :
    store.retainPartialOperationRecoveryTx issuer recovery =
      applyAll issuer store.operations
        (recovery.map LogUpdate.retain).toList := by
  cases recovery <;> rfl

/-- The operations table a finalization and its guard leave. -/
theorem guardedOperations_finalize_eq (store : Store)
    (recovery : Option PartialOperationRecovery) (status : OperationStatus)
    (finishedAtMs : Int) (error : Option String)
    (guard : Option PostWriteOperationGuard) :
    Store.guardedOperations
        (OperationTable.finalizeOperation
          (store.retainPartialOperationRecoveryTx issuer recovery) issuer
          status finishedAtMs error) issuer guard =
      applyAll issuer store.operations
        (ending recovery status finishedAtMs error guard) := by
  rw [guardedOperations_eq, retainPartialOperationRecoveryTx_eq, ending,
    applyAll_append]
  rfl

end LogUpdate

end Spotuify
