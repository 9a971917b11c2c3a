import Spotuify.SqlTable
import Mathlib.Data.List.Sort

/-!
# The operations log

Every mutating request becomes one row of the operations log: what kind of
mutation it was, the state captured before it, the plan that reverses it, and
the status of its lifecycle.  This file holds the row, the selectors that
`ops undo` reads the log through, and the row updates the store issues.  Each
update is guarded by the row's current status.
-/

namespace Spotuify

/-- Identity of one row of the operations log. -/
structure OperationId where
  value : Nat
  deriving DecidableEq, Repr

/-- Identity of one mutation receipt. -/
structure ReceiptId where
  value : Nat
  deriving DecidableEq, Repr

/-- Identity of one registered provider. -/
structure ProviderId where
  value : String
  deriving DecidableEq, Repr

/-- Where an operation originated. -/
inductive OperationSource where
  | cli
  | tui
  | mcp
  | agent
  | daemonInternal
  deriving DecidableEq, Repr

/-- The lifecycle status of an operation row. -/
inductive OperationStatus where
  | pending
  | succeeded
  | failed
  | undone
  | redone
  deriving DecidableEq, Repr

/-- One kind for each mutation surface, and the two kinds that act on other
operations. -/
inductive OperationKind where
  | queueAdd
  | playlistAdd
  | playlistRemove
  | playlistCreate
  | playlistUnfollow
  | playlistSetImage
  | playlistReorder
  | librarySave
  | libraryUnsave
  | artistFollow
  | artistUnfollow
  | transfer
  | like
  | unlike
  | play
  | pause
  | resume
  | toggle
  | next
  | previous
  | seek
  | volume
  | shuffle
  | «repeat»
  | undo
  | redo
  deriving DecidableEq, Repr

/-- Whether a kind has a meaningful inverse. -/
def OperationKind.isReversible : OperationKind → Bool
  | .playlistAdd | .playlistRemove | .playlistCreate | .playlistReorder
  | .librarySave | .libraryUnsave | .transfer | .like | .unlike
  | .undo | .redo => true
  | _ => false

/-- State captured before a mutation was sent. -/
inductive PreState where
  | playlistAdd (playlistId : String) (versionToken : Option String)
      (addedUris : List String)
  | playlistRemove (playlistId : String) (versionToken : Option String)
      (removedItems : List (String × Nat))
  | playlistCreate (playlistId : String)
  | playlistReorder (playlistId : String) (versionToken : Option String)
      (rangeStart insertBefore rangeLength : Nat)
  | librarySave (uri : String) (priorWasSaved : Bool)
  | transfer (priorDeviceId : Option String)
  | queueAdd (uri : String)
  | like (uri : String) (priorWasLiked : Bool)
  | transport
  deriving DecidableEq, Repr

/-- How to undo one operation. -/
inductive ReversalPlan where
  | queueRemove (uri : String)
  | playlistRemoveTracks (playlistId : String) (uris : List String)
      (versionToken : Option String)
  | playlistAddAtPositions (playlistId : String) (items : List (String × Nat))
      (versionToken : Option String)
  | playlistDelete (playlistId : String)
  | playlistReorder (playlistId : String)
      (rangeStart insertBefore rangeLength : Nat)
      (versionToken : Option String)
  | libraryUnsave (uri : String)
  | librarySave (uri : String) (priorAddedAtMs : Option Int)
  | transferToPriorDevice (deviceId : String) (provider : Option ProviderId)
  | like (uri : String)
  | unlike (uri : String)
  | redo (targetOpId : OperationId)
  | notReversible (reason : String)
  deriving DecidableEq, Repr

/-- One row of the operations log. -/
structure Operation where
  operationId : OperationId
  kind : OperationKind
  occurredAtMs : Int
  finishedAtMs : Option Int
  source : OperationSource
  requester : Option String
  subjectUris : List String
  reversible : Bool
  reversalPlan : Option ReversalPlan
  preState : Option PreState
  status : OperationStatus
  receiptId : Option ReceiptId
  subjectOpId : Option OperationId
  undoneByOpId : Option OperationId
  redoneByOpId : Option OperationId
  errorMessage : Option String
  deriving DecidableEq, Repr

/-- The operations table, keyed by operation id. -/
abbrev OperationTable := SqlTable Operation.operationId

namespace Operation

/-- Whether a row is still pending. -/
def isPending (operation : Operation) : Bool :=
  operation.status == .pending

/-- Whether the undo selectors may offer a row. -/
def isOffered (operation : Operation) : Bool :=
  operation.reversible && operation.status == .succeeded

@[simp]
theorem isPending_eq_true {operation : Operation} :
    operation.isPending = true ↔ operation.status = .pending := by
  simp [isPending]

@[simp]
theorem isOffered_eq_true {operation : Operation} :
    operation.isOffered = true ↔
      operation.reversible = true ∧ operation.status = .succeeded := by
  simp [isOffered]

end Operation

namespace OperationTable

/-- `find_last_reversible_operation`: the log may return any offered row that
no offered row is newer than, since equal times are not ordered further. -/
def IsLastReversibleOperation (operations : OperationTable)
    (operation : Operation) : Prop :=
  operation ∈ operations.rows ∧ operation.isOffered = true ∧
    ∀ other ∈ operations.rows, other.isOffered = true →
      other.occurredAtMs ≤ operation.occurredAtMs

instance (operations : OperationTable) (operation : Operation) :
    Decidable (operations.IsLastReversibleOperation operation) :=
  inferInstanceAs (Decidable (_ ∧ _ ∧ _))

/-- `find_reversible_operations_since`: the offered rows of a time window,
optionally of one source. -/
def IsReversibleSince (operations : OperationTable) (sinceMs : Int)
    (source : Option OperationSource) (operation : Operation) : Prop :=
  operation ∈ operations.rows ∧ operation.isOffered = true ∧
    sinceMs ≤ operation.occurredAtMs ∧
      ∀ wanted ∈ source, operation.source = wanted

/-- The list such a window is returned as: every offered row of the window
once, newest first. -/
def IsReversibleListSince (operations : OperationTable) (sinceMs : Int)
    (source : Option OperationSource) (selected : List Operation) : Prop :=
  selected.Nodup ∧
    (∀ operation, operation ∈ selected ↔
      operations.IsReversibleSince sinceMs source operation) ∧
    selected.Pairwise fun newer older =>
      older.occurredAtMs ≤ newer.occurredAtMs

/-- Update the pending row of an operation. -/
def updatePending (operations : OperationTable) (target : OperationId)
    (change : Operation → Operation)
    (keepsId : ∀ operation,
      (change operation).operationId = operation.operationId) :
    OperationTable :=
  operations.updateKey target Operation.isPending change keepsId

/-- `finalize_operation`: the first terminal status wins. -/
def finalizeOperation (operations : OperationTable) (target : OperationId)
    (status : OperationStatus) (finishedAtMs : Int)
    (error : Option String) : OperationTable :=
  operations.updatePending target
    (fun operation =>
      { operation with
        status := status, finishedAtMs := some finishedAtMs,
        errorMessage := error })
    fun _ => rfl

/-- `update_operation_plan`: fill in the captured state and the plan. -/
def updateOperationPlan (operations : OperationTable) (target : OperationId)
    (preState : Option PreState) (plan : Option ReversalPlan) :
    OperationTable :=
  operations.updatePending target
    (fun operation =>
      { operation with preState := preState, reversalPlan := plan })
    fun _ => rfl

/-- `update_operation_subject_uris`. -/
def updateOperationSubjectUris (operations : OperationTable)
    (target : OperationId) (subjectUris : List String) : OperationTable :=
  operations.updatePending target
    (fun operation => { operation with subjectUris := subjectUris })
    fun _ => rfl

/-- `update_operation_subject`: link an undo or redo to what it acts on. -/
def updateOperationSubject (operations : OperationTable)
    (target subject : OperationId) : OperationTable :=
  operations.updatePending target
    (fun operation => { operation with subjectOpId := some subject })
    fun _ => rfl

/-- `mark_operation_undone`: only a succeeded row becomes undone. -/
def markOperationUndone (operations : OperationTable)
    (original undoOperation : OperationId) : OperationTable :=
  operations.updateKey original
    (fun operation => operation.status == .succeeded)
    (fun operation =>
      { operation with
        status := .undone, undoneByOpId := some undoOperation })
    fun _ => rfl

/-- `mark_operation_redone`: only an undone row becomes redone. -/
def markOperationRedone (operations : OperationTable)
    (original redoOperation : OperationId) : OperationTable :=
  operations.updateKey original
    (fun operation => operation.status == .undone)
    (fun operation =>
      { operation with
        status := .redone, redoneByOpId := some redoOperation })
    fun _ => rfl

/-- Publish a plan that was only known after the remote write. -/
def activateReversalPlan (operations : OperationTable) (target : OperationId)
    (preState : PreState) (plan : ReversalPlan) : OperationTable :=
  operations.updateKey target
    (fun operation => operation.isPending && !operation.reversible)
    (fun operation =>
      { operation with
        preState := some preState, reversalPlan := some plan,
        reversible := true })
    fun _ => rfl

end OperationTable

end Spotuify
