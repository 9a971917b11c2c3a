import Spotuify.StoreTables

/-!
# Shared row updates of the mutation transactions

The steps that several transactions are built from: inserting a receipt or an
operation under the schema's foreign keys, applying a post-write guard,
retaining the cleanup plan of a partial creation, merging a provider
reconciliation, and recording the members of a bulk undo.  Each is followed by
the lemma that says which rows it can touch.
-/

namespace Spotuify

/-- `ReceiptRow` is still pending. -/
def ReceiptRow.isPending (row : ReceiptRow) : Bool :=
  row.receipt.status == .pending

@[simp]
theorem ReceiptRow.isPending_eq_true {row : ReceiptRow} :
    row.isPending = true ↔ row.receipt.status = .pending := by
  simp [isPending]

namespace Store

variable (store : Store)

/-- A foreign key into the operations table. -/
def requireOperation (table : String) (target : OperationId) :
    Except StoreError Unit :=
  if (store.operations.get? target).isSome then .ok ()
  else .error (.foreignKeyConstraint table)

/-- Insert the pending receipt of an accepted request. -/
def insertReceipt (receipt : Receipt) (request : Request) :
    Except StoreError Store :=
  match store.receipts.insert?
      { receipt :=
          { receipt with
            status := .pending, finishedAtMs := none, error := none },
        request := request } with
  | none => .error (.uniqueConstraint "receipts")
  | some receipts => .ok { store with receipts := receipts }

/-- The foreign keys of an operations row. -/
def referencesHold (operation : Operation) : Bool :=
  operation.receiptId.all (fun id => (store.receipts.get? id).isSome) &&
    (operation.subjectOpId.toList ++ operation.undoneByOpId.toList ++
      operation.redoneByOpId.toList).all
        fun id => (store.operations.get? id).isSome

/-- Insert an operations row. -/
def insertOperation (operation : Operation) : Except StoreError Store :=
  match store.operations.insert? operation with
  | none => .error (.uniqueConstraint "operations")
  | some operations =>
    if { store with operations := operations }.referencesHold operation then
      .ok { store with operations := operations }
    else
      .error (.foreignKeyConstraint "operations")

/-- `mark_operation_undone`. -/
def markOperationUndone (original undoOperation : OperationId) :
    Except StoreError Store := do
  store.requireOperation "operations" undoOperation
  return { store with
    operations :=
      OperationTable.markOperationUndone store.operations original
        undoOperation }

/-- `mark_operation_redone`. -/
def markOperationRedone (original redoOperation : OperationId) :
    Except StoreError Store := do
  store.requireOperation "operations" redoOperation
  return { store with
    operations :=
      OperationTable.markOperationRedone store.operations original
        redoOperation }

/-- The reason stored for an operation whose reversal was only partly
acknowledged. -/
def partialReversalReason : String :=
  "a partial reversal was acknowledged; reconcile remote state before a new mutation"

/-- `disable_partial_undo_tx`: never offer the operation again. -/
def disablePartialUndoTx (original : OperationId) :
    Except StoreError Store :=
  if store.operations.rowsAffected original (fun _ => true) = 1 then
    .ok { store with
      operations := store.operations.updateKey original (fun _ => true)
        (fun operation =>
          { operation with
            reversible := false,
            reversalPlan := some (.notReversible partialReversalReason) })
        fun _ => rfl }
  else
    .error (.partialUndoOriginalNotFound original)

/-- `apply_post_write_operation_guard_tx`. -/
def applyPostWriteOperationGuardTx
    (guard : Option PostWriteOperationGuard) (outer : OperationId) :
    Except StoreError Store :=
  match guard with
  | none => .ok store
  | some (.disableUndo original) => store.disablePartialUndoTx original
  | some (.markRedone original) =>
    if store.operations.rowsAffected original
        (fun operation => operation.status == .undone) = 1 then
      store.markOperationRedone original outer
    else
      match store.operations.get? original with
      | some operation =>
        if operation.status = .redone ∧
            operation.redoneByOpId = some outer then
          .ok store
        else
          .error (.redoOriginalNotUndone original)
      | none => .error (.redoOriginalNotUndone original)

/-- `retain_partial_operation_recovery_tx`. -/
def retainPartialOperationRecoveryTx (target : OperationId)
    (recovery : Option PartialOperationRecovery) : OperationTable :=
  match recovery with
  | none => store.operations
  | some recovery =>
    OperationTable.updatePending store.operations target
      (fun operation =>
        { operation with
          reversible := true, preState := some recovery.preState,
          reversalPlan := some recovery.reversalPlan,
          subjectUris := recovery.subjectUris })
      fun _ => rfl

end Store

/-- `normalized_resources`: a full-domain reconciliation names no resource. -/
def normalizedResources (scope : ReconciliationScope)
    (resources : List String) : List String :=
  match scope with
  | .fullDomain => []
  | .targeted => (resources.insertionSort (· ≤ ·)).dedup

/-- The wider of two reconciliation scopes. -/
def mergeScopes : ReconciliationScope → ReconciliationScope →
    ReconciliationScope
  | .targeted, .targeted => .targeted
  | _, _ => .fullDomain

/-- `upsert_reconciliation_stability_tx`. -/
def upsertReconciliationStabilityTx (stability : StabilityTable)
    (target : ReconciliationId) (minimumSuccessfulPasses : Nat) :
    StabilityTable :=
  if minimumSuccessfulPasses ≤ 1 then
    stability
  else
    match stability.get? target with
    | some _ =>
      stability.updateKey target (fun _ => true)
        (fun row =>
          { row with
            requiredPasses :=
              max row.requiredPasses minimumSuccessfulPasses })
        fun _ => rfl
    | none =>
      (stability.insert?
        { reconciliationId := target,
          requiredPasses := minimumSuccessfulPasses,
          successfulPasses := 0,
          nextPassAfterMs := none }).getD stability

namespace Store

variable (store : Store)

/-- The reconciliation a receipt already has for one provider domain. -/
def reconciliationFor (receiptId : ReceiptId) (provider : ProviderId)
    (target : SyncTarget) : Option ReconciliationRow :=
  store.reconciliations.rows.find? fun row =>
    decide (row.receiptId = receiptId ∧ row.provider = provider ∧
      row.target = target)

/-- `insert_provider_reconciliation_tx`: merge into the receipt's existing
reconciliation of the provider domain, or create it. -/
def insertProviderReconciliationTx (reconciliation : ProviderReconciliation)
    (createdAtMs : Int) : Except StoreError Store :=
  match store.reconciliationFor reconciliation.receiptId
      reconciliation.provider reconciliation.target with
  | some existing =>
    if existing.operationId ≠ reconciliation.operationId then
      .error (.reconciliationKeyBound existing.operationId)
    else
      let mergedScope := mergeScopes existing.scope reconciliation.scope
      .ok { store with
        reconciliations :=
          store.reconciliations.updateKey existing.reconciliationId
            (fun _ => true)
            (fun row =>
              { row with
                scope := mergedScope,
                resourceUris := normalizedResources mergedScope
                  (existing.resourceUris ++ reconciliation.resourceUris) })
            fun _ => rfl,
        stability := upsertReconciliationStabilityTx store.stability
          existing.reconciliationId reconciliation.minimumSuccessfulPasses }
  | none =>
    match store.reconciliations.insert?
        { reconciliationId := reconciliation.reconciliationId,
          receiptId := reconciliation.receiptId,
          operationId := reconciliation.operationId,
          provider := reconciliation.provider,
          target := reconciliation.target,
          scope := reconciliation.scope,
          resourceUris := normalizedResources reconciliation.scope
            reconciliation.resourceUris,
          status := .pending,
          attempts := 0,
          claimToken := none,
          lastClaimToken := none,
          lastError := none,
          createdAtMs := createdAtMs,
          finishedAtMs := none } with
    | none => .error (.uniqueConstraint "provider_reconciliations")
    | some reconciliations =>
      if (store.receipts.get? reconciliation.receiptId).isSome ∧
          (store.operations.get? reconciliation.operationId).isSome then
        .ok { store with
          reconciliations := reconciliations,
          stability := upsertReconciliationStabilityTx store.stability
            reconciliation.reconciliationId
            reconciliation.minimumSuccessfulPasses }
      else
        .error (.foreignKeyConstraint "provider_reconciliations")

/-- Insert the reconciliations of one transaction in order. -/
def insertProviderReconciliations (createdAtMs : Int) (store : Store) :
    List ProviderReconciliation → Except StoreError Store
  | [] => .ok store
  | reconciliation :: rest => do
    let merged ←
      store.insertProviderReconciliationTx reconciliation createdAtMs
    insertProviderReconciliations createdAtMs merged rest

/-- The candidate rows of a bulk undo, from a position on. -/
def bulkUndoCandidatesFrom (outer : OperationId) (position : Nat) :
    List Operation → List BulkUndoCandidate
  | [] => []
  | operation :: rest =>
    { outerOperationId := outer,
      memberOperationId := operation.operationId,
      position := position } ::
        bulkUndoCandidatesFrom outer (position + 1) rest

/-- `record_bulk_undo_candidates`: replace the members of one bulk undo. -/
def recordBulkUndoCandidates (outer : OperationId)
    (operations : List Operation) : Except StoreError Store := do
  store.requireOperation "bulk_undo_candidates" outer
  if !(operations.all fun operation =>
      (store.operations.get? operation.operationId).isSome) then
    .error (.foreignKeyConstraint "bulk_undo_candidates")
  else if ¬(operations.map Operation.operationId).Nodup then
    .error (.uniqueConstraint "bulk_undo_candidates")
  else
    .ok { store with
      bulkUndoCandidates :=
        (store.bulkUndoCandidates.filter fun candidate =>
          candidate.outerOperationId ≠ outer) ++
            bulkUndoCandidatesFrom outer 0 operations }

/-- `operations_for_bulk_undo_recovery`: the recorded members in position
order, whatever their status is now. -/
def operationsForBulkUndoRecovery (outer : OperationId) : List Operation :=
  ((store.bulkUndoCandidates.filter fun candidate =>
      candidate.outerOperationId = outer).insertionSort
    fun first second => first.position ≤ second.position).filterMap
      fun candidate => store.operations.get? candidate.memberOperationId

end Store

namespace Store

variable {store next : Store}

theorem requireOperation_eq_ok {table : String} {target : OperationId} :
    store.requireOperation table target = .ok () ↔
      (store.operations.get? target).isSome = true := by
  simp only [requireOperation]
  split <;> simp_all

theorem insertReceipt_eq_ok {receipt : Receipt} {request : Request}
    (inserted : store.insertReceipt receipt request = .ok next) :
    ∃ receipts, store.receipts.insert?
        { receipt :=
            { receipt with
              status := .pending, finishedAtMs := none, error := none },
          request := request } = some receipts ∧
      next = { store with receipts := receipts } := by
  simp only [insertReceipt] at inserted
  split at inserted
  · cases inserted
  · rename_i receipts insertedRow
    cases inserted
    exact ⟨receipts, insertedRow, rfl⟩

theorem insertOperation_eq_ok {operation : Operation}
    (inserted : store.insertOperation operation = .ok next) :
    ∃ operations, store.operations.insert? operation = some operations ∧
      next = { store with operations := operations } ∧
      next.referencesHold operation = true := by
  simp only [insertOperation] at inserted
  split at inserted
  · cases inserted
  · rename_i operations insertedRow
    split at inserted
    · rename_i holds
      cases inserted
      exact ⟨operations, insertedRow, rfl, holds⟩
    · cases inserted

theorem markOperationUndone_eq_ok {original undoOperation : OperationId} :
    store.markOperationUndone original undoOperation = .ok next ↔
      (store.operations.get? undoOperation).isSome = true ∧
        next = { store with
          operations :=
            OperationTable.markOperationUndone store.operations original
              undoOperation } := by
  simp only [markOperationUndone, Except.bind_eq_ok]
  constructor
  · rintro ⟨⟨⟩, required, result⟩
    cases result
    exact ⟨requireOperation_eq_ok.mp required, rfl⟩
  · rintro ⟨present, rfl⟩
    exact ⟨(), requireOperation_eq_ok.mpr present, rfl⟩

theorem markOperationRedone_eq_ok {original redoOperation : OperationId} :
    store.markOperationRedone original redoOperation = .ok next ↔
      (store.operations.get? redoOperation).isSome = true ∧
        next = { store with
          operations :=
            OperationTable.markOperationRedone store.operations original
              redoOperation } := by
  simp only [markOperationRedone, Except.bind_eq_ok]
  constructor
  · rintro ⟨⟨⟩, required, result⟩
    cases result
    exact ⟨requireOperation_eq_ok.mp required, rfl⟩
  · rintro ⟨present, rfl⟩
    exact ⟨(), requireOperation_eq_ok.mpr present, rfl⟩

/-- The operations table a guard leaves behind. -/
def guardedOperations (operations : OperationTable) (outer : OperationId) :
    Option PostWriteOperationGuard → OperationTable
  | none => operations
  | some (.disableUndo original) =>
    operations.updateKey original (fun _ => true)
      (fun operation =>
        { operation with
          reversible := false,
          reversalPlan := some (.notReversible partialReversalReason) })
      fun _ => rfl
  | some (.markRedone original) =>
    OperationTable.markOperationRedone operations original outer

/-- When a guard can be applied: an undo is disabled on any existing row, a
redo is recorded on an undone row or was recorded by the same redo already. -/
def GuardApplies (store : Store) (outer : OperationId) :
    Option PostWriteOperationGuard → Prop
  | none => True
  | some (.disableUndo original) =>
    (store.operations.get? original).isSome = true
  | some (.markRedone original) =>
    ∃ operation, store.operations.get? original = some operation ∧
      ((operation.status = .undone ∧
          (store.operations.get? outer).isSome = true) ∨
        (operation.status = .redone ∧
          operation.redoneByOpId = some outer))

private theorem disablePartialUndoTx_eq_ok {original : OperationId} :
    store.disablePartialUndoTx original = .ok next ↔
      (store.operations.get? original).isSome = true ∧
        next = { store with
          operations := guardedOperations store.operations original
            (some (.disableUndo original)) } := by
  simp only [disablePartialUndoTx, SqlTable.rowsAffected_eq]
  cases found : store.operations.get? original with
  | none => simp
  | some operation => simp [guardedOperations, eq_comm]

/-- A guard succeeds exactly when it applies, and changes the operations table
only. -/
theorem applyPostWriteOperationGuardTx_eq_ok
    {guard : Option PostWriteOperationGuard} {outer : OperationId} :
    store.applyPostWriteOperationGuardTx guard outer = .ok next ↔
      store.GuardApplies outer guard ∧
        next = { store with
          operations := guardedOperations store.operations outer guard } := by
  cases guard with
  | none =>
    simp only [applyPostWriteOperationGuardTx, GuardApplies,
      guardedOperations, Except.ok.injEq, true_and]
    exact eq_comm
  | some guard =>
    cases guard with
    | disableUndo original =>
      exact disablePartialUndoTx_eq_ok
    | markRedone original =>
      simp only [applyPostWriteOperationGuardTx, GuardApplies,
        guardedOperations, SqlTable.rowsAffected_eq]
      cases found : store.operations.get? original with
      | none => simp
      | some operation =>
        by_cases undone : operation.status = .undone
        · simp [undone, markOperationRedone_eq_ok]
        · have unchanged : OperationTable.markOperationRedone
              store.operations original outer = store.operations :=
            SqlTable.updateKey_of_unselected _ _ _ _ _ (by
              simp [found, undone])
          rw [unchanged]
          by_cases applied : operation.status = .redone ∧
              operation.redoneByOpId = some outer
          · simpa [applied] using
              (eq_comm : store = next ↔ next = store)
          · simp [undone, applied]

/-- Merging a reconciliation leaves every other table alone. -/
theorem insertProviderReconciliationTx_frame
    {reconciliation : ProviderReconciliation} {createdAtMs : Int}
    (merged : store.insertProviderReconciliationTx reconciliation
      createdAtMs = .ok next) :
    ∃ reconciliations stability, next = { store with
      reconciliations := reconciliations, stability := stability } := by
  simp only [insertProviderReconciliationTx] at merged
  split at merged
  · split at merged
    · cases merged
    · cases merged
      exact ⟨_, _, rfl⟩
  · split at merged
    · cases merged
    · split at merged
      · cases merged
        exact ⟨_, _, rfl⟩
      · cases merged

theorem insertProviderReconciliations_frame
    {reconciliations : List ProviderReconciliation} {createdAtMs : Int}
    (merged : insertProviderReconciliations createdAtMs store
      reconciliations = .ok next) :
    ∃ rows stability, next = { store with
      reconciliations := rows, stability := stability } := by
  induction reconciliations generalizing store with
  | nil =>
    cases merged
    exact ⟨_, _, rfl⟩
  | cons reconciliation rest inductionHypothesis =>
    obtain ⟨middle, mergedFirst, mergedRest⟩ :=
      Except.bind_eq_ok.mp merged
    obtain ⟨_, _, rfl⟩ := insertProviderReconciliationTx_frame mergedFirst
    obtain ⟨rows, stability, rfl⟩ := inductionHypothesis mergedRest
    exact ⟨rows, stability, rfl⟩

end Store

end Spotuify
