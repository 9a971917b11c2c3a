import Spotuify.StoreTransactions

/-!
# Durable mutation claims

A keyed mutation is bound to its idempotency key in one transaction that also
creates its pending receipt and its pending operation.  Four transactions can
later end the claim: the ordinary finalization, its replay after an ambiguous
commit, the indeterminate finalization, and the recovery of claims left behind
by a crash.  This file translates them and states what each one does to a
claim row.
-/

namespace Spotuify

/-- What a claim call answers. -/
inductive MutationClaim where
  | claimed
  | existing (receipt : Option Receipt) (response : Option Response)
  | fingerprintMismatch
  deriving DecidableEq, Repr

def mutationDedupTtlMs : Int := 24 * 60 * 60 * 1000

def indeterminateMessage : String :=
  "remote outcome indeterminate; inspect state before retrying with a new mutation id"

def indeterminateResponse : Response :=
  .error indeterminateMessage .internal false none none

/-- The durable outcome of a claimed mutation's body. -/
structure ClaimedMutationFinalization where
  mutationId : MutationId
  receiptId : ReceiptId
  receiptStatus : ReceiptStatus
  receiptMessage : String
  receiptError : Option ApiErrorSummary
  operationId : OperationId
  operationStatus : OperationStatus
  operationError : Option String
  response : Response
  succeeded : Bool
  reconciliations : List ProviderReconciliation
  postWriteGuard : Option PostWriteOperationGuard
  operationRecovery : Option PartialOperationRecovery
  finishedAtMs : Int

def terminalClaimState (succeeded : Bool) : ClaimState :=
  if succeeded then .completed else .failed

namespace MutationDedupRow

def isProcessing (row : MutationDedupRow) : Bool :=
  row.state == .processing

/-- A claim that is processing and owns this receipt and operation. -/
def isOwnedBy (receiptId : ReceiptId) (operationId : OperationId)
    (row : MutationDedupRow) : Bool :=
  row.isProcessing && row.receiptId == some receiptId &&
    row.operationId == some operationId

@[simp]
theorem isProcessing_eq_true {row : MutationDedupRow} :
    row.isProcessing = true ↔ row.state = .processing := by
  simp [isProcessing]

@[simp]
theorem isOwnedBy_eq_true {row : MutationDedupRow} {receiptId : ReceiptId}
    {operationId : OperationId} :
    row.isOwnedBy receiptId operationId = true ↔
      row.state = .processing ∧ row.receiptId = some receiptId ∧
        row.operationId = some operationId := by
  simp [isOwnedBy, and_assoc]

end MutationDedupRow

namespace Store

variable (store : Store)

/-- The answer an existing claim row gives to a call. -/
def existingClaim (row : MutationDedupRow) (fingerprint : String) :
    MutationClaim :=
  if row.fingerprint ≠ fingerprint then
    .fingerprintMismatch
  else
    .existing
      (row.receiptId.bind fun receiptId =>
        (store.receipts.get? receiptId).map ReceiptRow.receipt)
      row.response

/-- `claim_mutation`: bind the key and create the pending receipt and
operation, or report the claim that holds the key. -/
def claimMutation (mutationId : MutationId) (fingerprint : String)
    (request : Request) (receipt : Receipt) (operation : Operation)
    (nowMs : Int) : Except StoreError (Store × MutationClaim) :=
  match store.mutationDedup.get? mutationId with
  | some row => .ok (store, store.existingClaim row fingerprint)
  | none =>
    match store.mutationDedup.insert?
        { mutationId := mutationId,
          fingerprint := fingerprint,
          request := request,
          state := .processing,
          response := none,
          receiptId := some receipt.receiptId,
          operationId := some operation.operationId,
          createdAtMs := nowMs,
          updatedAtMs := nowMs,
          expiresAtMs := nowMs + mutationDedupTtlMs } with
    | none => .error (.uniqueConstraint "mutation_dedup")
    | some mutationDedup => do
      let withReceipt ←
        { store with mutationDedup := mutationDedup }.insertReceipt receipt
          request
      let withOperation ← withReceipt.insertOperation operation
      return (withOperation, .claimed)

/-- The terminal receipt a finalization writes. -/
def finalizeReceipt (receipts : ReceiptTable) (target : ReceiptId)
    (status : ReceiptStatus) (message : String) (finishedAtMs : Int)
    (error : Option ApiErrorSummary) : ReceiptTable :=
  receipts.updateKey target ReceiptRow.isPending
    (fun row =>
      { row with
        receipt :=
          { row.receipt with
            status := status, message := message,
            finishedAtMs := some finishedAtMs, error := error } })
    fun _ => rfl

/-- Whether the joined rows of a claim already are exactly what a finalization
would write. -/
def isExactReplay (intent : ClaimedMutationFinalization) : Bool :=
  match store.mutationDedup.get? intent.mutationId with
  | none => false
  | some row =>
    match row.receiptId.bind store.receipts.get?,
        row.operationId.bind store.operations.get? with
    | some receipt, some operation =>
      row.state == terminalClaimState intent.succeeded &&
        row.response == some intent.response &&
        row.receiptId == some intent.receiptId &&
        row.operationId == some intent.operationId &&
        receipt.receipt.status == intent.receiptStatus &&
        operation.status == intent.operationStatus
    | _, _ => false

/-- The three row updates of `finalize_claimed_mutation`. -/
def finalizeClaimRows (intent : ClaimedMutationFinalization) : Store :=
  { store with
    receipts := finalizeReceipt store.receipts intent.receiptId
      intent.receiptStatus intent.receiptMessage intent.finishedAtMs
      intent.receiptError,
    operations := OperationTable.finalizeOperation
      (store.retainPartialOperationRecoveryTx intent.operationId
        intent.operationRecovery)
      intent.operationId intent.operationStatus intent.finishedAtMs
      intent.operationError,
    mutationDedup := store.mutationDedup.updateKey intent.mutationId
      (MutationDedupRow.isOwnedBy intent.receiptId intent.operationId)
      (fun row =>
        { row with
          state := terminalClaimState intent.succeeded,
          response := some intent.response,
          updatedAtMs := intent.finishedAtMs,
          expiresAtMs := intent.finishedAtMs + mutationDedupTtlMs })
      fun _ => rfl }

/-- `finalize_claimed_mutation`. -/
def finalizeClaimedMutation (intent : ClaimedMutationFinalization) :
    Except StoreError Store :=
  let receiptRows :=
    store.receipts.rowsAffected intent.receiptId ReceiptRow.isPending
  let operationRows :=
    (store.retainPartialOperationRecoveryTx intent.operationId
      intent.operationRecovery).rowsAffected intent.operationId
        Operation.isPending
  let claimRows := store.mutationDedup.rowsAffected intent.mutationId
    (MutationDedupRow.isOwnedBy intent.receiptId intent.operationId)
  let updated := store.finalizeClaimRows intent
  if receiptRows ≠ 1 ∨ operationRows ≠ 1 ∨ claimRows ≠ 1 then
    if updated.isExactReplay intent then
      .ok updated
    else
      .error
        (.claimFinalizationLostOwnership receiptRows operationRows claimRows)
  else do
    let guarded ← updated.applyPostWriteOperationGuardTx
      intent.postWriteGuard intent.operationId
    insertProviderReconciliations intent.finishedAtMs guarded
      intent.reconciliations

/-- The receipt and operation updates of `finalize_processing_claim`. -/
def failClaimRows (row : MutationDedupRow) (message : String)
    (nowMs : Int) : Store :=
  { store with
    receipts :=
      match row.receiptId with
      | none => store.receipts
      | some receiptId =>
        finalizeReceipt store.receipts receiptId .failed message nowMs
          (some
            { kind := .internal,
              message := message,
              retryAfterSecs := none,
              provider := none,
              detail := none }),
    operations :=
      match row.operationId with
      | none => store.operations
      | some operationId =>
        OperationTable.finalizeOperation store.operations operationId .failed
          nowMs (some message) }

/-- `finalize_processing_claim`.  The last update of the claim row is not
guarded by its state. -/
def finalizeProcessingClaim (mutationId : MutationId) (message : String)
    (response : Response) (reconciliations : List ProviderReconciliation)
    (guard : Option PostWriteOperationGuard) (nowMs : Int) :
    Except StoreError Store :=
  match store.mutationDedup.get? mutationId with
  | none => .ok store
  | some row =>
    if !row.isProcessing then
      .ok store
    else do
      let failed := store.failClaimRows row message nowMs
      let guarded ←
        match row.operationId with
        | some outer => failed.applyPostWriteOperationGuardTx guard outer
        | none =>
          if guard.isSome then .error .noOperationForGuard else .ok failed
      let closed : Store :=
        { guarded with
          mutationDedup := guarded.mutationDedup.updateKey mutationId
            (fun _ => true)
            (fun row =>
              { row with
                state := .failed,
                response := some response,
                updatedAtMs := nowMs,
                expiresAtMs := nowMs + mutationDedupTtlMs })
            fun _ => rfl }
      insertProviderReconciliations nowMs closed reconciliations

/-- `mark_mutation_indeterminate`. -/
def markMutationIndeterminate (mutationId : MutationId)
    (reconciliations : List ProviderReconciliation)
    (guard : Option PostWriteOperationGuard) (nowMs : Int) :
    Except StoreError (Store × Response) :=
  let terminalResponse := do
    let row ← store.mutationDedup.get? mutationId
    if row.isProcessing then none else row.response
  match terminalResponse with
  | some response => .ok (store, response)
  | none => do
    let next ← store.finalizeProcessingClaim mutationId indeterminateMessage
      indeterminateResponse reconciliations guard nowMs
    return (next,
      ((next.mutationDedup.get? mutationId).bind
        MutationDedupRow.response).getD indeterminateResponse)

/-- The ids of the claims that are still processing. -/
def processingMutationIds : List MutationId :=
  (store.mutationDedup.rows.filter MutationDedupRow.isProcessing).map
    MutationDedupRow.mutationId

/-- End the listed claims as indeterminate, one after the other. -/
def markAllIndeterminate (nowMs : Int) (store : Store) :
    List MutationId → Except StoreError Store
  | [] => .ok store
  | mutationId :: rest => do
    let (next, _) ← store.markMutationIndeterminate mutationId [] none nowMs
    markAllIndeterminate nowMs next rest

/-- `recover_processing_mutations` of the store. -/
def recoverProcessingMutations (nowMs : Int) : Except StoreError Store :=
  markAllIndeterminate nowMs store store.processingMutationIds

/-- `prune_expired_mutations`. -/
def pruneExpiredMutations (nowMs : Int) : Store :=
  { store with
    mutationDedup := store.mutationDedup.deleteWhere fun row =>
      !row.isProcessing && decide (row.expiresAtMs ≤ nowMs) }

end Store

end Spotuify
