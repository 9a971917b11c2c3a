import Spotuify.MutationClaims

/-!
# The phases of an idempotency key

Seen from outside, an idempotency key is unclaimed, executing, or answered, and
it moves through these phases once.  The abstract phases are connected to the
store by an invariant that says which three rows move together: a claim row is
processing exactly while its receipt and its operation are pending, and it has
an answer exactly when it is not.
-/

namespace Spotuify

/-- What an idempotency key stands for. -/
inductive ClaimPhase where
  | unclaimed
  | executing (fingerprint : String) (receiptId : ReceiptId)
  | answered (fingerprint : String) (receiptId : ReceiptId)
      (response : Response)

namespace ClaimPhase

/-- What the end of a claim does to a key: it answers an executing key and
leaves every other phase alone. -/
inductive Ends : ClaimPhase → ClaimPhase → Prop
  | stays (phase : ClaimPhase) : Ends phase phase
  | answers (fingerprint : String) (receiptId : ReceiptId)
      (response : Response) :
      Ends (.executing fingerprint receiptId)
        (.answered fingerprint receiptId response)

theorem Ends.trans {first second third : ClaimPhase}
    (firstEnds : Ends first second) (secondEnds : Ends second third) :
    Ends first third := by
  cases firstEnds with
  | stays => exact secondEnds
  | answers =>
    cases secondEnds
    exact .answers _ _ _

/-- An answered key keeps its answer. -/
theorem Ends.of_answered {fingerprint : String} {receiptId : ReceiptId}
    {response : Response} {next : ClaimPhase}
    (ends : Ends (.answered fingerprint receiptId response) next) :
    next = .answered fingerprint receiptId response := by
  cases ends
  rfl

/-- The fingerprint and receipt a claimed key is bound to. -/
def binding : ClaimPhase → Option (String × ReceiptId)
  | .unclaimed => none
  | .executing fingerprint receiptId => some (fingerprint, receiptId)
  | .answered fingerprint receiptId _ => some (fingerprint, receiptId)

/-- A key keeps its binding, or stays unbound. -/
theorem Ends.binding_eq {phase next : ClaimPhase} (ends : Ends phase next) :
    next.binding = phase.binding := by
  cases ends <;> rfl

end ClaimPhase

/-- The phase a claim row stands for. -/
def MutationDedupRow.phase (row : MutationDedupRow) : ClaimPhase :=
  match row.receiptId, row.response with
  | none, _ => .unclaimed
  | some receiptId, none => .executing row.fingerprint receiptId
  | some receiptId, some response =>
    .answered row.fingerprint receiptId response

namespace Store

/-- The phase of a key in the store. -/
def claimPhase (store : Store) (mutationId : MutationId) : ClaimPhase :=
  match store.mutationDedup.get? mutationId with
  | none => .unclaimed
  | some row => row.phase

/-- Whether a receipt exists and is pending. -/
def receiptPending (store : Store) (target : ReceiptId) : Option Bool :=
  (store.receipts.get? target).map ReceiptRow.isPending

/-- Whether an operation exists and is pending. -/
def operationPending (store : Store) (target : OperationId) : Option Bool :=
  (store.operations.get? target).map Operation.isPending

/-- The three rows of a claim agree. -/
structure ClaimMovesTogether (store : Store) (row : MutationDedupRow) :
    Prop where
  receiptLinked : ∃ receiptId, row.receiptId = some receiptId ∧
    store.receiptPending receiptId = some row.isProcessing
  operationLinked : ∃ operationId, row.operationId = some operationId ∧
    store.operationPending operationId = some row.isProcessing
  answered : row.response.isSome = !row.isProcessing

/-- Every claim moves together, and no two claims share a row. -/
structure ClaimsConsistent (store : Store) : Prop where
  movesTogether : ∀ mutationId row,
    store.mutationDedup.get? mutationId = some row →
      store.ClaimMovesTogether row
  receiptsApart : ∀ first second firstRow secondRow,
    store.mutationDedup.get? first = some firstRow →
      store.mutationDedup.get? second = some secondRow →
        firstRow.receiptId = secondRow.receiptId → first = second
  operationsApart : ∀ first second firstRow secondRow,
    store.mutationDedup.get? first = some firstRow →
      store.mutationDedup.get? second = some secondRow →
        firstRow.operationId = secondRow.operationId → first = second

/-- A store without claims is consistent. -/
theorem ClaimsConsistent.of_empty {store : Store}
    (noClaims : store.mutationDedup.rows = []) : store.ClaimsConsistent := by
  have absent : ∀ mutationId, store.mutationDedup.get? mutationId = none := by
    intro mutationId
    simp [SqlTable.get?_eq_none, noClaims]
  constructor
  · intro mutationId row found
    simp [absent] at found
  · intro first second firstRow secondRow found
    simp [absent] at found
  · intro first second firstRow secondRow found
    simp [absent] at found

variable {store next : Store}

/-- A finished receipt is no longer pending; no other receipt is touched. -/
theorem get?_finalizeReceipt_pending (receipts : ReceiptTable)
    (target other : ReceiptId) {status : ReceiptStatus} (message : String)
    (finishedAtMs : Int) (error : Option ApiErrorSummary)
    (terminal : status ≠ .pending) :
    ((finalizeReceipt receipts target status message finishedAtMs
        error).get? other).map ReceiptRow.isPending =
      if other = target then
        ((receipts.get? other).map ReceiptRow.isPending).map fun _ => false
      else
        (receipts.get? other).map ReceiptRow.isPending := by
  rw [finalizeReceipt, SqlTable.get?_updateKey]
  cases receipts.get? other with
  | none => simp
  | some row =>
    by_cases same : other = target
    · by_cases pending : row.receipt.status = .pending
      · simp [same, pending, ReceiptRow.isPending, terminal]
      · simp [same, pending, ReceiptRow.isPending]
    · simp [same]

/-- A finished operation is no longer pending; no other operation is
touched. -/
theorem get?_finalizeOperation_pending (operations : OperationTable)
    (target other : OperationId) {status : OperationStatus}
    (finishedAtMs : Int) (error : Option String)
    (terminal : status ≠ .pending) :
    ((OperationTable.finalizeOperation operations target status finishedAtMs
        error).get? other).map Operation.isPending =
      if other = target then
        ((operations.get? other).map Operation.isPending).map fun _ => false
      else
        (operations.get? other).map Operation.isPending := by
  rw [OperationTable.finalizeOperation, OperationTable.updatePending,
    SqlTable.get?_updateKey]
  cases operations.get? other with
  | none => simp
  | some row =>
    by_cases same : other = target
    · by_cases pending : row.status = .pending
      · simp [same, pending, Operation.isPending, terminal]
      · simp [same, pending, Operation.isPending]
    · simp [same]

/-- An update that keeps a row's status keeps which operations are pending. -/
theorem get?_updateKey_pending (operations : OperationTable)
    (target other : OperationId) (guard : Operation → Bool)
    (change : Operation → Operation)
    (keepsId : ∀ operation,
      (change operation).operationId = operation.operationId)
    (keepsPending : ∀ operation, guard operation = true →
      (change operation).isPending = operation.isPending) :
    ((operations.updateKey target guard change keepsId).get? other).map
        Operation.isPending =
      (operations.get? other).map Operation.isPending := by
  rw [SqlTable.get?_updateKey]
  cases operations.get? other with
  | none => simp
  | some row =>
    by_cases selected : other = target ∧ guard row = true
    · simp [selected, keepsPending row selected.2]
    · simp [selected]

theorem markOperationUndone_pending (operations : OperationTable)
    (original outer other : OperationId) :
    ((OperationTable.markOperationUndone operations original outer).get?
        other).map Operation.isPending =
      (operations.get? other).map Operation.isPending := by
  apply get?_updateKey_pending
  intro operation succeeded
  simp_all [Operation.isPending]

theorem markOperationRedone_pending (operations : OperationTable)
    (original outer other : OperationId) :
    ((OperationTable.markOperationRedone operations original outer).get?
        other).map Operation.isPending =
      (operations.get? other).map Operation.isPending := by
  apply get?_updateKey_pending
  intro operation undone
  simp_all [Operation.isPending]

theorem guardedOperations_pending (operations : OperationTable)
    (outer other : OperationId) (guard : Option PostWriteOperationGuard) :
    ((guardedOperations operations outer guard).get? other).map
        Operation.isPending =
      (operations.get? other).map Operation.isPending := by
  cases guard with
  | none => rfl
  | some guard =>
    cases guard with
    | disableUndo original =>
      apply get?_updateKey_pending
      · intro operation
        rfl
      · intro operation _
        rfl
    | markRedone original =>
      exact markOperationRedone_pending _ _ _ _

theorem retainPartialOperationRecoveryTx_pending
    (target other : OperationId)
    (recovery : Option PartialOperationRecovery) :
    ((store.retainPartialOperationRecoveryTx target recovery).get?
        other).map Operation.isPending =
      (store.operations.get? other).map Operation.isPending := by
  cases recovery with
  | none => rfl
  | some recovery =>
    apply get?_updateKey_pending
    · intro operation
      rfl
    · intro operation _
      rfl

/-- A transaction that touches no claim row and no pending flag of a claimed
row keeps consistency. -/
theorem ClaimsConsistent.of_claimed_rows
    (consistent : store.ClaimsConsistent)
    (sameClaims : next.mutationDedup = store.mutationDedup)
    (sameReceipts : ∀ mutationId row target,
      store.mutationDedup.get? mutationId = some row →
        row.receiptId = some target →
          next.receiptPending target = store.receiptPending target)
    (sameOperations : ∀ mutationId row target,
      store.mutationDedup.get? mutationId = some row →
        row.operationId = some target →
          next.operationPending target = store.operationPending target) :
    next.ClaimsConsistent := by
  constructor
  · intro mutationId row found
    rw [sameClaims] at found
    obtain ⟨⟨receiptId, receiptEq, receiptPending⟩,
      ⟨operationId, operationEq, operationPending⟩, answered⟩ :=
        consistent.movesTogether mutationId row found
    refine ⟨⟨receiptId, receiptEq, ?_⟩, ⟨operationId, operationEq, ?_⟩,
      answered⟩
    · rw [sameReceipts mutationId row receiptId found receiptEq,
        receiptPending]
    · rw [sameOperations mutationId row operationId found operationEq,
        operationPending]
  · intro first second firstRow secondRow foundFirst foundSecond
    rw [sameClaims] at foundFirst foundSecond
    exact consistent.receiptsApart _ _ _ _ foundFirst foundSecond
  · intro first second firstRow secondRow foundFirst foundSecond
    rw [sameClaims] at foundFirst foundSecond
    exact consistent.operationsApart _ _ _ _ foundFirst foundSecond

/-- A transaction that touches no claim row and no pending flag keeps
consistency. -/
theorem ClaimsConsistent.of_same_rows (consistent : store.ClaimsConsistent)
    (sameClaims : next.mutationDedup = store.mutationDedup)
    (sameReceipts : ∀ target,
      next.receiptPending target = store.receiptPending target)
    (sameOperations : ∀ target,
      next.operationPending target = store.operationPending target) :
    next.ClaimsConsistent :=
  consistent.of_claimed_rows sameClaims
    (fun _ _ target _ _ => sameReceipts target)
    fun _ _ target _ _ => sameOperations target

/-- Removing answered claims keeps consistency. -/
theorem ClaimsConsistent.pruneExpiredMutations
    (consistent : store.ClaimsConsistent) (nowMs : Int) :
    (store.pruneExpiredMutations nowMs).ClaimsConsistent := by
  have kept : ∀ mutationId row,
      (store.pruneExpiredMutations nowMs).mutationDedup.get? mutationId =
        some row → store.mutationDedup.get? mutationId = some row := by
    intro mutationId row found
    rw [Store.pruneExpiredMutations, SqlTable.get?_deleteWhere,
      Option.filter_eq_some_iff] at found
    exact found.1
  constructor
  · intro mutationId row found
    have moves := consistent.movesTogether mutationId row
      (kept mutationId row found)
    exact ⟨moves.receiptLinked, moves.operationLinked, moves.answered⟩
  · intro first second firstRow secondRow foundFirst foundSecond
    exact consistent.receiptsApart _ _ _ _ (kept _ _ foundFirst)
      (kept _ _ foundSecond)
  · intro first second firstRow secondRow foundFirst foundSecond
    exact consistent.operationsApart _ _ _ _ (kept _ _ foundFirst)
      (kept _ _ foundSecond)

/-- How one processing claim ends: its claim row gets an answer and stops
processing, its receipt and operation stop being pending, and nothing else
about any claim changes. -/
structure EndsClaim (store next : Store) (mutationId : MutationId)
    (row : MutationDedupRow) (response : Response) : Prop where
  found : store.mutationDedup.get? mutationId = some row
  processing : row.isProcessing = true
  claims : ∃ ended : MutationDedupRow,
    ended.fingerprint = row.fingerprint ∧
      ended.receiptId = row.receiptId ∧
      ended.operationId = row.operationId ∧
      ended.isProcessing = false ∧ ended.response = some response ∧
      ∀ other, next.mutationDedup.get? other =
        if other = mutationId then some ended
        else store.mutationDedup.get? other
  receipts : ∀ target, next.receiptPending target =
    if row.receiptId = some target then
      (store.receiptPending target).map fun _ => false
    else store.receiptPending target
  operations : ∀ target, next.operationPending target =
    if row.operationId = some target then
      (store.operationPending target).map fun _ => false
    else store.operationPending target

theorem EndsClaim.consistent {mutationId : MutationId}
    {row : MutationDedupRow} {response : Response}
    (ends : EndsClaim store next mutationId row response)
    (consistent : store.ClaimsConsistent) : next.ClaimsConsistent := by
  obtain ⟨ended, _, sameReceipt, sameOperation, notProcessing, answer,
    nextClaims⟩ := ends.claims
  have back : ∀ other otherRow,
      next.mutationDedup.get? other = some otherRow →
        (other = mutationId ∧ otherRow = ended) ∨
          (other ≠ mutationId ∧
            store.mutationDedup.get? other = some otherRow) := by
    intro other otherRow found
    exact SqlTable.written_or_old nextClaims found
  have old : ∀ other otherRow,
      next.mutationDedup.get? other = some otherRow →
        ∃ before, store.mutationDedup.get? other = some before ∧
          otherRow.receiptId = before.receiptId ∧
          otherRow.operationId = before.operationId := by
    intro other otherRow found
    rcases back other otherRow found with ⟨rfl, rfl⟩ | ⟨_, before⟩
    · exact ⟨row, ends.found, sameReceipt, sameOperation⟩
    · exact ⟨otherRow, before, rfl, rfl⟩
  constructor
  · intro other otherRow found
    rcases back other otherRow found with ⟨rfl, rfl⟩ | ⟨different, before⟩
    · obtain ⟨⟨receiptId, receiptEq, receiptPending⟩,
        ⟨operationId, operationEq, operationPending⟩, _⟩ :=
          consistent.movesTogether other row ends.found
      refine ⟨⟨receiptId, sameReceipt.trans receiptEq, ?_⟩,
        ⟨operationId, sameOperation.trans operationEq, ?_⟩, ?_⟩
      · rw [ends.receipts, if_pos receiptEq, receiptPending, notProcessing]
        rfl
      · rw [ends.operations, if_pos operationEq, operationPending,
          notProcessing]
        rfl
      · rw [answer, notProcessing]
        rfl
    · obtain ⟨⟨receiptId, receiptEq, receiptPending⟩,
        ⟨operationId, operationEq, operationPending⟩, answered⟩ :=
          consistent.movesTogether other otherRow before
      refine ⟨⟨receiptId, receiptEq, ?_⟩, ⟨operationId, operationEq, ?_⟩,
        answered⟩
      · rw [ends.receipts, if_neg, receiptPending]
        intro sharedReceipt
        exact different (consistent.receiptsApart _ _ _ _ before ends.found
          (receiptEq.trans sharedReceipt.symm))
      · rw [ends.operations, if_neg, operationPending]
        intro sharedOperation
        exact different (consistent.operationsApart _ _ _ _ before
          ends.found (operationEq.trans sharedOperation.symm))
  · intro first second firstRow secondRow foundFirst foundSecond same
    obtain ⟨firstBefore, beforeFirst, firstReceipt, _⟩ := old _ _ foundFirst
    obtain ⟨secondBefore, beforeSecond, secondReceipt, _⟩ :=
      old _ _ foundSecond
    exact consistent.receiptsApart _ _ _ _ beforeFirst beforeSecond
      (firstReceipt.symm.trans (same.trans secondReceipt))
  · intro first second firstRow secondRow foundFirst foundSecond same
    obtain ⟨firstBefore, beforeFirst, _, firstOperation⟩ := old _ _ foundFirst
    obtain ⟨secondBefore, beforeSecond, _, secondOperation⟩ :=
      old _ _ foundSecond
    exact consistent.operationsApart _ _ _ _ beforeFirst beforeSecond
      (firstOperation.symm.trans (same.trans secondOperation))

/-- Ending one claim moves its own key to its answer and no other key. -/
theorem EndsClaim.phase_ends {mutationId : MutationId}
    {row : MutationDedupRow} {response : Response}
    (ends : EndsClaim store next mutationId row response)
    (consistent : store.ClaimsConsistent) (key : MutationId) :
    ClaimPhase.Ends (store.claimPhase key) (next.claimPhase key) := by
  obtain ⟨ended, sameFingerprint, sameReceipt, _, notProcessing, answer,
    nextClaims⟩ := ends.claims
  by_cases same : key = mutationId
  · subst same
    obtain ⟨⟨receiptId, receiptEq, _⟩, _, answered⟩ :=
      consistent.movesTogether key row ends.found
    have unanswered : row.response = none := by
      rw [ends.processing] at answered
      simpa using answered
    simp only [claimPhase, nextClaims, ends.found, if_true,
      MutationDedupRow.phase, sameReceipt, receiptEq, unanswered, answer,
      sameFingerprint]
    exact .answers _ _ _
  · simp only [claimPhase, nextClaims, if_neg same]
    exact .stays _

end Store

end Spotuify
