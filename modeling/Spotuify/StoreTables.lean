import Spotuify.GuardedMachine
import Spotuify.MutationRequest

/-!
# The durable mutation tables

The rows a mutation leaves in the daemon's database: its idempotency claim,
its receipt, its row of the operations log, the provider reconciliations it
requires, and the members of a bulk undo.  The row updates that several
transactions share live here as well.  A transaction that fails leaves the
database as it was, so it is a function into `Except`.
-/

namespace Spotuify

structure MutationId where
  value : Nat
  deriving DecidableEq, Repr

structure ReconciliationId where
  value : Nat
  deriving DecidableEq, Repr

/-- One worker's ownership of a reconciliation attempt. -/
structure ClaimToken where
  value : Nat
  deriving DecidableEq, Repr

inductive IpcErrorKind where
  | auth
  | authRevoked
  | invalidRequest
  | network
  | provider
  | rateLimited
  | unsupported
  | timeout
  | internal
  deriving DecidableEq, Repr

structure ApiErrorSummary where
  kind : IpcErrorKind
  message : String
  retryAfterSecs : Option Nat
  provider : Option ProviderId
  detail : Option String
  deriving DecidableEq, Repr

/-- The answer stored for a claim.  The payload of a successful answer is the
text it is serialized to. -/
inductive Response where
  | ok (data : String)
  | error (message : String) (kind : IpcErrorKind) (retryable : Bool)
      (provider : Option ProviderId) (detail : Option String)
  deriving DecidableEq, Repr

inductive ReceiptStatus where
  | pending
  | confirmed
  | failed
  deriving DecidableEq, Repr

structure Receipt where
  receiptId : ReceiptId
  action : String
  status : ReceiptStatus
  message : String
  startedAtMs : Int
  finishedAtMs : Option Int
  error : Option ApiErrorSummary
  deriving DecidableEq, Repr

/-- A receipt row also keeps the request it was issued for. -/
structure ReceiptRow where
  receipt : Receipt
  request : Request
  deriving DecidableEq

abbrev ReceiptRow.receiptId (row : ReceiptRow) : ReceiptId :=
  row.receipt.receiptId

inductive ClaimState where
  | processing
  | completed
  | failed
  deriving DecidableEq, Repr

structure MutationDedupRow where
  mutationId : MutationId
  fingerprint : String
  request : Request
  state : ClaimState
  response : Option Response
  receiptId : Option ReceiptId
  operationId : Option OperationId
  createdAtMs : Int
  updatedAtMs : Int
  expiresAtMs : Int
  deriving DecidableEq

inductive SyncTarget where
  | library
  | playlists
  deriving DecidableEq, Repr

inductive ReconciliationScope where
  | targeted
  | fullDomain
  deriving DecidableEq, Repr

inductive ReconciliationStatus where
  | pending
  | running
  | completed
  deriving DecidableEq, Repr

/-- A reconciliation a transaction asks for. -/
structure ProviderReconciliation where
  reconciliationId : ReconciliationId
  receiptId : ReceiptId
  operationId : OperationId
  provider : ProviderId
  target : SyncTarget
  scope : ReconciliationScope
  resourceUris : List String
  minimumSuccessfulPasses : Nat
  deriving DecidableEq, Repr

structure ReconciliationRow where
  reconciliationId : ReconciliationId
  receiptId : ReceiptId
  operationId : OperationId
  provider : ProviderId
  target : SyncTarget
  scope : ReconciliationScope
  resourceUris : List String
  status : ReconciliationStatus
  attempts : Nat
  claimToken : Option ClaimToken
  lastClaimToken : Option ClaimToken
  lastError : Option String
  createdAtMs : Int
  finishedAtMs : Option Int
  deriving DecidableEq, Repr

/-- How many clean passes a reconciliation still has to show. -/
structure StabilityRow where
  reconciliationId : ReconciliationId
  requiredPasses : Nat
  successfulPasses : Nat
  nextPassAfterMs : Option Int
  deriving DecidableEq, Repr

structure BulkUndoCandidate where
  outerOperationId : OperationId
  memberOperationId : OperationId
  position : Nat
  deriving DecidableEq, Repr

/-- A plan retained for the remote artifact of a failed creation. -/
structure PartialOperationRecovery where
  preState : PreState
  reversalPlan : ReversalPlan
  subjectUris : List String
  deriving DecidableEq, Repr

/-- What a failed undo or redo does to the operation it acted on. -/
inductive PostWriteOperationGuard where
  | disableUndo (original : OperationId)
  | markRedone (original : OperationId)
  deriving DecidableEq, Repr

abbrev ReceiptTable := SqlTable ReceiptRow.receiptId
abbrev MutationDedupTable := SqlTable MutationDedupRow.mutationId
abbrev ReconciliationTable := SqlTable ReconciliationRow.reconciliationId
abbrev StabilityTable := SqlTable StabilityRow.reconciliationId

structure Store where
  receipts : ReceiptTable
  operations : OperationTable
  mutationDedup : MutationDedupTable
  reconciliations : ReconciliationTable
  stability : StabilityTable
  bulkUndoCandidates : List BulkUndoCandidate

/-- The database before any mutation was recorded. -/
def Store.empty : Store where
  receipts := .empty
  operations := .empty
  mutationDedup := .empty
  reconciliations := .empty
  stability := .empty
  bulkUndoCandidates := []

/-- Why a store method rolled its transaction back. -/
inductive StoreError where
  | uniqueConstraint (table : String)
  | foreignKeyConstraint (table : String)
  | operationNotFound (operationId : OperationId)
  | notPendingNonReversible (operationId : OperationId)
  | partialUndoOriginalNotFound (original : OperationId)
  | redoOriginalNotUndone (original : OperationId)
  | reconciliationKeyBound (existing : OperationId)
  | claimFinalizationLostOwnership (receiptRows operationRows claimRows : Nat)
  | partialFinalizationLostOwnership (receiptRows operationRows : Nat)
  | noOperationForGuard
  deriving DecidableEq, Repr

end Spotuify
