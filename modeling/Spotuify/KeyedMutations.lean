import Spotuify.ClaimPhases

/-!
# Keyed mutations execute once and replay one answer

Concurrent clients, finalizers, the startup recovery and the undo bookkeeping
interleave on one database, one transaction at a time.  This file runs that
interleaving, keeps the history of what claim calls were answered, and proves
that one key has one winner, that every later caller is sent to the winner's
receipt, and that a stored answer stays.
-/

namespace Spotuify

namespace Store

variable {store next : Store}

/-- A claim of a free key creates rows of its own. -/
theorem claimMutation_free {mutationId : MutationId} {fingerprint : String}
    {request : Request} {receipt : Receipt} {operation : Operation}
    {nowMs : Int} {answer : MutationClaim}
    (free : store.mutationDedup.get? mutationId = none)
    (claimed : store.claimMutation mutationId fingerprint request receipt
      operation nowMs = .ok (next, answer)) :
    answer = .claimed ∧
      (∃ row : MutationDedupRow,
        row.fingerprint = fingerprint ∧ row.state = .processing ∧
          row.response = none ∧ row.receiptId = some receipt.receiptId ∧
          row.operationId = some operation.operationId ∧
          ∀ other, next.mutationDedup.get? other =
            if other = mutationId then some row
            else store.mutationDedup.get? other) ∧
      store.receiptPending receipt.receiptId = none ∧
      (∀ target, next.receiptPending target =
        if target = receipt.receiptId then some true
        else store.receiptPending target) ∧
      store.operationPending operation.operationId = none ∧
      ∀ target, next.operationPending target =
        if target = operation.operationId then some operation.isPending
        else store.operationPending target := by
  simp only [claimMutation, free] at claimed
  split at claimed
  · cases claimed
  · rename_i mutationDedup insertedClaim
    obtain ⟨withReceipt, receiptInserted, rest⟩ :=
      Except.bind_eq_ok.mp claimed
    obtain ⟨withOperation, operationInserted, result⟩ :=
      Except.bind_eq_ok.mp rest
    obtain ⟨receipts, insertedReceipt, rfl⟩ :=
      insertReceipt_eq_ok receiptInserted
    obtain ⟨operations, insertedOperation, rfl, _⟩ :=
      insertOperation_eq_ok operationInserted
    cases result
    have receiptFree := (SqlTable.insert?_eq_some.mp insertedReceipt).1
    have operationFree := (SqlTable.insert?_eq_some.mp insertedOperation).1
    refine ⟨rfl, ⟨_, rfl, rfl, rfl, rfl, rfl,
      SqlTable.get?_insert insertedClaim⟩, ?_, ?_, ?_, ?_⟩
    · simpa [receiptPending] using receiptFree
    · intro target
      simp only [receiptPending, SqlTable.get?_insert insertedReceipt]
      by_cases same : target = receipt.receiptId
      · simp [same, ReceiptRow.isPending]
      · simp [same]
    · simpa [operationPending] using operationFree
    · intro target
      simp only [operationPending, SqlTable.get?_insert insertedOperation]
      by_cases same : target = operation.operationId
      · simp [same]
      · simp [same]

private theorem any_pending_false_of_receiptPending {target : ReceiptId}
    (notPending : store.receiptPending target = some false) :
    (store.receipts.get? target).any ReceiptRow.isPending = false := by
  rw [receiptPending, Option.map_eq_some_iff] at notPending
  obtain ⟨row, found, rowNotPending⟩ := notPending
  simp [found, rowNotPending]

private theorem any_pending_false_of_operationPending {target : OperationId}
    (notPending : store.operationPending target = some false) :
    (store.operations.get? target).any Operation.isPending = false := by
  rw [operationPending, Option.map_eq_some_iff] at notPending
  obtain ⟨row, found, rowNotPending⟩ := notPending
  simp [found, rowNotPending]

/-- Finalizing rows that are already terminal changes nothing. -/
theorem finalizeClaimRows_of_terminal {intent : ClaimedMutationFinalization}
    (receiptDone : store.receiptPending intent.receiptId = some false)
    (operationDone : store.operationPending intent.operationId = some false)
    (notOwned : (store.mutationDedup.get? intent.mutationId).any
      (MutationDedupRow.isOwnedBy intent.receiptId intent.operationId) =
        false) :
    store.finalizeClaimRows intent = store := by
  have sameReceipts : finalizeReceipt store.receipts intent.receiptId
      intent.receiptStatus intent.receiptMessage intent.finishedAtMs
      intent.receiptError = store.receipts :=
    SqlTable.updateKey_of_unselected _ _ _ _ _
      (any_pending_false_of_receiptPending receiptDone)
  have sameRecovery : store.retainPartialOperationRecoveryTx
      intent.operationId intent.operationRecovery = store.operations := by
    cases intent.operationRecovery with
    | none => rfl
    | some recovery =>
      apply SqlTable.updateKey_of_unselected
      · intro operation
        rfl
      · exact any_pending_false_of_operationPending operationDone
  have sameOperations : OperationTable.finalizeOperation store.operations
      intent.operationId intent.operationStatus intent.finishedAtMs
      intent.operationError = store.operations := by
    apply SqlTable.updateKey_of_unselected
    · intro operation
      rfl
    · exact any_pending_false_of_operationPending operationDone
  have sameClaims := SqlTable.updateKey_of_unselected store.mutationDedup
    intent.mutationId _
    (fun row =>
      { row with
        state := terminalClaimState intent.succeeded,
        response := some intent.response,
        updatedAtMs := intent.finishedAtMs,
        expiresAtMs := intent.finishedAtMs + mutationDedupTtlMs })
    (fun _ => rfl) notOwned
  rw [finalizeClaimRows, sameReceipts, sameRecovery, sameOperations,
    sameClaims]

/-- The rows an exact replay compares are its own claim's. -/
theorem isExactReplay_eq_true {intent : ClaimedMutationFinalization}
    (replay : store.isExactReplay intent = true) :
    ∃ row, store.mutationDedup.get? intent.mutationId = some row ∧
      row.isProcessing = false ∧ row.receiptId = some intent.receiptId ∧
        row.operationId = some intent.operationId := by
  simp only [isExactReplay] at replay
  split at replay
  · cases replay
  · rename_i row found
    split at replay
    · simp only [Bool.and_eq_true, beq_iff_eq] at replay
      obtain ⟨⟨⟨⟨⟨stateEq, _⟩, receiptEq⟩, operationEq⟩, _⟩, _⟩ := replay
      refine ⟨row, found, ?_, receiptEq, operationEq⟩
      rw [MutationDedupRow.isProcessing, stateEq]
      cases intent.succeeded <;> rfl
    · cases replay

/-- The rows of an owned claim are the ones its finalization updates. -/
theorem finalizeClaimRows_endsClaim {intent : ClaimedMutationFinalization}
    {row : MutationDedupRow}
    (receiptTerminal : intent.receiptStatus ≠ .pending)
    (operationTerminal : intent.operationStatus ≠ .pending)
    (found : store.mutationDedup.get? intent.mutationId = some row)
    (owned : row.isOwnedBy intent.receiptId intent.operationId = true) :
    EndsClaim store (store.finalizeClaimRows intent) intent.mutationId row
      intent.response := by
  obtain ⟨processing, receiptEq, operationEq⟩ :=
    MutationDedupRow.isOwnedBy_eq_true.mp owned
  let ended : MutationDedupRow :=
    { row with
      state := terminalClaimState intent.succeeded,
      response := some intent.response,
      updatedAtMs := intent.finishedAtMs,
      expiresAtMs := intent.finishedAtMs + mutationDedupTtlMs }
  have notProcessing : ended.isProcessing = false := by
    cases succeeded : intent.succeeded <;>
      simp [ended, MutationDedupRow.isProcessing, terminalClaimState,
        succeeded]
  refine ⟨found, by simp [processing],
    ⟨ended, rfl, rfl, rfl, notProcessing, rfl, ?_⟩, ?_, ?_⟩
  · intro other
    rw [finalizeClaimRows, SqlTable.get?_updateKey]
    by_cases same : other = intent.mutationId
    · simp [same, found, processing, receiptEq, operationEq, ended]
    · simp [same]
  · intro target
    simp only [receiptPending, finalizeClaimRows]
    rw [get?_finalizeReceipt_pending _ _ _ _ _ _ receiptTerminal, receiptEq]
    simp only [Option.some.injEq, eq_comm]
  · intro target
    simp only [operationPending, finalizeClaimRows]
    rw [get?_finalizeOperation_pending _ _ _ _ _ operationTerminal,
      retainPartialOperationRecoveryTx_pending, operationEq]
    simp only [Option.some.injEq, eq_comm]

/-- Ending a claim is not disturbed by steps that keep claims and pending
flags. -/
theorem EndsClaim.of_same_rows {last : Store} {mutationId : MutationId}
    {row : MutationDedupRow} {response : Response}
    (ends : EndsClaim store next mutationId row response)
    (sameClaims : last.mutationDedup = next.mutationDedup)
    (sameReceipts : ∀ target,
      last.receiptPending target = next.receiptPending target)
    (sameOperations : ∀ target,
      last.operationPending target = next.operationPending target) :
    EndsClaim store last mutationId row response := by
  refine ⟨ends.found, ends.processing, ?_, ?_, ?_⟩
  · rw [sameClaims]
    exact ends.claims
  · intro target
    rw [sameReceipts]
    exact ends.receipts target
  · intro target
    rw [sameOperations]
    exact ends.operations target

/-- The guard and the reconciliations of a finalization keep claims and
pending flags. -/
theorem EndsClaim.of_guard_and_reconciliations {guarded last : Store}
    {mutationId : MutationId} {row : MutationDedupRow} {response : Response}
    {guard : Option PostWriteOperationGuard} {outer : OperationId}
    {reconciliations : List ProviderReconciliation} {createdAtMs : Int}
    (ends : EndsClaim store next mutationId row response)
    (guardApplied :
      next.applyPostWriteOperationGuardTx guard outer = .ok guarded)
    (inserted : insertProviderReconciliations createdAtMs guarded
      reconciliations = .ok last) :
    EndsClaim store last mutationId row response := by
  obtain ⟨_, rfl⟩ := applyPostWriteOperationGuardTx_eq_ok.mp guardApplied
  obtain ⟨_, _, rfl⟩ := insertProviderReconciliations_frame inserted
  refine ends.of_same_rows rfl (fun _ => rfl) ?_
  intro target
  exact guardedOperations_pending _ _ _ _

/-- The finalization of an owned claim finds each of its three rows once: an
owned claim has all three rows pending. -/
private theorem rowsAffected_of_owned {intent : ClaimedMutationFinalization}
    {row : MutationDedupRow} (consistent : store.ClaimsConsistent)
    (found : store.mutationDedup.get? intent.mutationId = some row)
    (owned : row.isOwnedBy intent.receiptId intent.operationId = true) :
    store.receipts.rowsAffected intent.receiptId ReceiptRow.isPending = 1 ∧
    (store.retainPartialOperationRecoveryTx intent.operationId
      intent.operationRecovery).rowsAffected intent.operationId
        Operation.isPending = 1 ∧
    store.mutationDedup.rowsAffected intent.mutationId
      (MutationDedupRow.isOwnedBy intent.receiptId intent.operationId) =
        1 := by
  have moves := consistent.movesTogether _ row found
  obtain ⟨receiptId, rowReceipt, receiptPending⟩ := moves.receiptLinked
  obtain ⟨operationId, rowOperation, operationPending⟩ :=
    moves.operationLinked
  obtain ⟨processing, ownReceipt, ownOperation⟩ :=
    MutationDedupRow.isOwnedBy_eq_true.mp owned
  have isProcessing : row.isProcessing = true := by simp [processing]
  rw [ownReceipt] at rowReceipt
  rw [ownOperation] at rowOperation
  cases rowReceipt
  cases rowOperation
  rw [isProcessing] at receiptPending operationPending
  refine ⟨?_, ?_, SqlTable.rowsAffected_eq_one.mpr ⟨row, found, owned⟩⟩
  · rw [SqlTable.rowsAffected_eq_one]
    simpa [Store.receiptPending] using receiptPending
  · rw [Store.operationPending,
      ← retainPartialOperationRecoveryTx_pending intent.operationId
        intent.operationId intent.operationRecovery] at operationPending
    rw [SqlTable.rowsAffected_eq_one]
    simpa using operationPending

/-- When the ownership counts of a finalization are off but its claim reads
as ended, the claim had ended before. -/
private theorem finalizeClaimRows_of_replay
    {intent : ClaimedMutationFinalization} {ended : MutationDedupRow}
    (consistent : store.ClaimsConsistent)
    (lostOwnership :
      store.receipts.rowsAffected intent.receiptId ReceiptRow.isPending ≠ 1 ∨
      (store.retainPartialOperationRecoveryTx intent.operationId
        intent.operationRecovery).rowsAffected intent.operationId
          Operation.isPending ≠ 1 ∨
      store.mutationDedup.rowsAffected intent.mutationId
        (MutationDedupRow.isOwnedBy intent.receiptId intent.operationId) ≠ 1)
    (foundEnded : (store.finalizeClaimRows intent).mutationDedup.get?
      intent.mutationId = some ended)
    (notProcessing : ended.isProcessing = false)
    (receiptEq : ended.receiptId = some intent.receiptId)
    (operationEq : ended.operationId = some intent.operationId) :
    store.finalizeClaimRows intent = store := by
  rw [finalizeClaimRows, SqlTable.get?_updateKey, Option.map_eq_some_iff]
    at foundEnded
  obtain ⟨row, found, endedEq⟩ := foundEnded
  by_cases owned : row.isOwnedBy intent.receiptId intent.operationId = true
  · exfalso
    obtain ⟨receiptCount, operationCount, claimCount⟩ :=
      rowsAffected_of_owned consistent found owned
    rcases lostOwnership with lost | lost | lost
    · exact lost receiptCount
    · exact lost operationCount
    · exact lost claimCount
  · rw [if_neg (fun selected => owned selected.2)] at endedEq
    cases endedEq
    have moves := consistent.movesTogether _ ended found
    obtain ⟨receiptId, rowReceipt, receiptPending⟩ := moves.receiptLinked
    obtain ⟨operationId, rowOperation, operationPending⟩ :=
      moves.operationLinked
    rw [receiptEq] at rowReceipt
    rw [operationEq] at rowOperation
    cases rowReceipt
    cases rowOperation
    rw [notProcessing] at receiptPending operationPending
    apply finalizeClaimRows_of_terminal receiptPending operationPending
    rw [found]
    exact Bool.eq_false_iff.mpr owned

/-- A finalization either repeats what is stored or ends its own claim. -/
theorem finalizeClaimedMutation_eq_ok {intent : ClaimedMutationFinalization}
    (consistent : store.ClaimsConsistent)
    (receiptTerminal : intent.receiptStatus ≠ .pending)
    (operationTerminal : intent.operationStatus ≠ .pending)
    (finalized : store.finalizeClaimedMutation intent = .ok next) :
    next = store ∨
      ∃ row, EndsClaim store next intent.mutationId row intent.response := by
  simp only [finalizeClaimedMutation] at finalized
  split at finalized
  · rename_i lostOwnership
    split at finalized
    · rename_i replay
      cases finalized
      left
      obtain ⟨ended, foundEnded, notProcessing, receiptEq, operationEq⟩ :=
        isExactReplay_eq_true replay
      exact finalizeClaimRows_of_replay consistent lostOwnership
        foundEnded notProcessing receiptEq operationEq
    · cases finalized
  · rename_i allOwned
    obtain ⟨guarded, guardApplied, inserted⟩ :=
      Except.bind_eq_ok.mp finalized
    right
    simp only [not_or, not_not] at allOwned
    obtain ⟨row, found, owned⟩ :=
      SqlTable.rowsAffected_eq_one.mp allOwned.2.2
    exact ⟨row, (finalizeClaimRows_endsClaim receiptTerminal
      operationTerminal found owned).of_guard_and_reconciliations
        guardApplied inserted⟩

/-- Failing the rows of a claim finishes its receipt and its operation. -/
private theorem failClaimRows_pending {row : MutationDedupRow}
    {receiptId : ReceiptId} {operationId : OperationId}
    (receiptEq : row.receiptId = some receiptId)
    (operationEq : row.operationId = some operationId) (message : String)
    (nowMs : Int) :
    (∀ target, (store.failClaimRows row message nowMs).receiptPending target =
      if row.receiptId = some target then
        (store.receiptPending target).map fun _ => false
      else store.receiptPending target) ∧
    ∀ target, (store.failClaimRows row message nowMs).operationPending
        target =
      if row.operationId = some target then
        (store.operationPending target).map fun _ => false
      else store.operationPending target := by
  constructor
  · intro target
    simp only [failClaimRows, receiptPending, receiptEq]
    rw [get?_finalizeReceipt_pending _ _ _ _ _ _ (by simp)]
    simp only [Option.some.injEq, eq_comm]
  · intro target
    simp only [failClaimRows, operationPending, operationEq]
    rw [get?_finalizeOperation_pending _ _ _ _ _ (by simp)]
    simp only [Option.some.injEq, eq_comm]

/-- The indeterminate finalization ends a claim that is processing. -/
private theorem finalizeProcessingClaim_ends {mutationId : MutationId}
    {row : MutationDedupRow} {message : String} {response : Response}
    {reconciliations : List ProviderReconciliation}
    {guard : Option PostWriteOperationGuard} {nowMs : Int}
    (found : store.mutationDedup.get? mutationId = some row)
    (processing : row.isProcessing = true)
    (consistent : store.ClaimsConsistent)
    (finalized : store.finalizeProcessingClaim mutationId message response
      reconciliations guard nowMs = .ok next) :
    EndsClaim store next mutationId row response := by
  have moves := consistent.movesTogether mutationId row found
  obtain ⟨receiptId, receiptEq, _⟩ := moves.receiptLinked
  obtain ⟨operationId, operationEq, _⟩ := moves.operationLinked
  simp only [finalizeProcessingClaim, found, processing, Bool.not_true,
    Bool.false_eq_true, if_false, operationEq] at finalized
  obtain ⟨guarded, guardApplied, inserted⟩ :=
    Except.bind_eq_ok.mp finalized
  obtain ⟨_, rfl⟩ :=
    applyPostWriteOperationGuardTx_eq_ok.mp guardApplied
  obtain ⟨_, _, rfl⟩ := insertProviderReconciliations_frame inserted
  have failedRows := store.failClaimRows_pending receiptEq operationEq
    message nowMs
  let ended : MutationDedupRow :=
    { row with
      state := .failed,
      response := some response,
      updatedAtMs := nowMs,
      expiresAtMs := nowMs + mutationDedupTtlMs }
  refine ⟨found, processing,
    ⟨ended, rfl, rfl, rfl, rfl, rfl, ?_⟩, failedRows.1, ?_⟩
  · intro other
    simp only [SqlTable.get?_updateKey, failClaimRows]
    by_cases same : other = mutationId
    · simp [same, found, ended]
    · simp [same]
  · intro target
    rw [← failedRows.2 target]
    exact guardedOperations_pending _ _ _ _

/-- The indeterminate finalization leaves a claim that is not processing alone
and ends one that is. -/
theorem finalizeProcessingClaim_eq_ok {mutationId : MutationId}
    {message : String} {response : Response}
    {reconciliations : List ProviderReconciliation}
    {guard : Option PostWriteOperationGuard} {nowMs : Int}
    (consistent : store.ClaimsConsistent)
    (finalized : store.finalizeProcessingClaim mutationId message response
      reconciliations guard nowMs = .ok next) :
    next = store ∨
      ∃ row, EndsClaim store next mutationId row response := by
  cases found : store.mutationDedup.get? mutationId with
  | none =>
    simp only [finalizeProcessingClaim, found] at finalized
    cases finalized
    exact Or.inl rfl
  | some row =>
    cases processing : row.isProcessing with
    | false =>
      simp only [finalizeProcessingClaim, found, processing] at finalized
      cases finalized
      exact Or.inl rfl
    | true =>
      exact Or.inr ⟨row, finalizeProcessingClaim_ends found processing
        consistent finalized⟩

theorem markMutationIndeterminate_eq_ok {mutationId : MutationId}
    {reconciliations : List ProviderReconciliation}
    {guard : Option PostWriteOperationGuard} {nowMs : Int}
    {answer : Response} (consistent : store.ClaimsConsistent)
    (marked : store.markMutationIndeterminate mutationId reconciliations
      guard nowMs = .ok (next, answer)) :
    next = store ∨
      ∃ row, EndsClaim store next mutationId row indeterminateResponse := by
  simp only [markMutationIndeterminate] at marked
  split at marked
  · cases marked
    exact Or.inl rfl
  · obtain ⟨finalized, finalizedOk, result⟩ := Except.bind_eq_ok.mp marked
    cases result
    exact finalizeProcessingClaim_eq_ok consistent finalizedOk

/-- What a method that never claims keeps: consistency, and for every key at
most the end of its claim. -/
structure EndsClaimsOnly (store next : Store) : Prop where
  consistent : next.ClaimsConsistent
  ends : ∀ key, ClaimPhase.Ends (store.claimPhase key) (next.claimPhase key)

theorem EndsClaimsOnly.refl (consistent : store.ClaimsConsistent) :
    EndsClaimsOnly store store :=
  ⟨consistent, fun _ => .stays _⟩

theorem EndsClaimsOnly.trans {last : Store}
    (first : EndsClaimsOnly store next) (second : EndsClaimsOnly next last) :
    EndsClaimsOnly store last :=
  ⟨second.consistent, fun key => (first.ends key).trans (second.ends key)⟩

theorem EndsClaimsOnly.of_endsClaim_or_eq {mutationId : MutationId}
    {response : Response} (consistent : store.ClaimsConsistent)
    (outcome : next = store ∨
      ∃ row, EndsClaim store next mutationId row response) :
    EndsClaimsOnly store next := by
  rcases outcome with rfl | ⟨row, ends⟩
  · exact .refl consistent
  · exact ⟨ends.consistent consistent, ends.phase_ends consistent⟩

/-- A transaction that touches no claim row and no pending flag. -/
theorem EndsClaimsOnly.of_same_rows (consistent : store.ClaimsConsistent)
    (sameClaims : next.mutationDedup = store.mutationDedup)
    (sameReceipts : ∀ target,
      next.receiptPending target = store.receiptPending target)
    (sameOperations : ∀ target,
      next.operationPending target = store.operationPending target) :
    EndsClaimsOnly store next := by
  refine ⟨consistent.of_same_rows sameClaims sameReceipts sameOperations, ?_⟩
  intro key
  rw [claimPhase, claimPhase, sameClaims]
  exact .stays _

theorem markAllIndeterminate_endsClaimsOnly {nowMs : Int}
    {mutationIds : List MutationId} (consistent : store.ClaimsConsistent)
    (marked : markAllIndeterminate nowMs store mutationIds = .ok next) :
    EndsClaimsOnly store next := by
  induction mutationIds generalizing store with
  | nil =>
    cases marked
    exact .refl consistent
  | cons mutationId rest inductionHypothesis =>
    obtain ⟨⟨middle, _⟩, markedFirst, markedRest⟩ :=
      Except.bind_eq_ok.mp marked
    have first : EndsClaimsOnly store middle :=
      .of_endsClaim_or_eq consistent
        (markMutationIndeterminate_eq_ok consistent markedFirst)
    exact first.trans (inductionHypothesis first.consistent markedRest)

end Store

/-- An operation as the recorder issues it. -/
structure IssuedOperation where
  operation : Operation
  pending : operation.status = .pending

/-- A finalization as the recorder issues it: both statuses are terminal. -/
structure TerminalFinalization where
  intent : ClaimedMutationFinalization
  receiptTerminal : intent.receiptStatus ≠ .pending
  operationTerminal : intent.operationStatus ≠ .pending

/-- One call of a store method. -/
inductive StoreCall where
  | claim (mutationId : MutationId) (fingerprint : String)
      (request : Request) (receipt : Receipt) (operation : IssuedOperation)
      (nowMs : Int)
  | finalize (finalization : TerminalFinalization)
  | markIndeterminate (mutationId : MutationId)
      (reconciliations : List ProviderReconciliation)
      (guard : Option PostWriteOperationGuard) (nowMs : Int)
  | recoverProcessing (nowMs : Int)
  | markUndone (original undoOperation : OperationId)
  | markRedone (original redoOperation : OperationId)
  | prune (nowMs : Int)

/-- What a claim call was answered. -/
structure AnsweredClaim where
  mutationId : MutationId
  fingerprint : String
  receiptId : ReceiptId
  answer : MutationClaim

namespace Store

variable {store next : Store}

end Store

/-- Run one call as one transaction. -/
def StoreCall.perform (store : Store) :
    StoreCall → Except StoreError (Store × Option AnsweredClaim)
  | .claim mutationId fingerprint request receipt operation nowMs => do
    let (next, answer) ← store.claimMutation mutationId fingerprint request
      receipt operation.operation nowMs
    return (next, some
      { mutationId := mutationId,
        fingerprint := fingerprint,
        receiptId := receipt.receiptId,
        answer := answer })
  | .finalize finalization => do
    return (← store.finalizeClaimedMutation finalization.intent, none)
  | .markIndeterminate mutationId reconciliations guard nowMs => do
    let (next, _) ← store.markMutationIndeterminate mutationId
      reconciliations guard nowMs
    return (next, none)
  | .recoverProcessing nowMs => do
    return (← store.recoverProcessingMutations nowMs, none)
  | .markUndone original undoOperation => do
    return (← store.markOperationUndone original undoOperation, none)
  | .markRedone original redoOperation => do
    return (← store.markOperationRedone original redoOperation, none)
  | .prune nowMs => .ok (store.pruneExpiredMutations nowMs, none)

/-- A database and the answers its claim calls were given, oldest first. -/
structure ClaimHistory where
  store : Store
  answers : List AnsweredClaim

/-- Interleaved calls on one database.  A call that fails rolls back. -/
def claimMachine : GuardedMachine ClaimHistory StoreCall where
  step history call :=
    match call.perform history.store with
    | .error _ => some history
    | .ok (next, answer) =>
      some { store := next, answers := history.answers ++ answer.toList }

namespace Store

variable {store next : Store}

/-- A claim of a held key changes nothing and reports the holder. -/
theorem claimMutation_held {mutationId : MutationId} {fingerprint : String}
    {request : Request} {receipt : Receipt} {operation : Operation}
    {nowMs : Int} {answer : MutationClaim} {row : MutationDedupRow}
    (held : store.mutationDedup.get? mutationId = some row)
    (claimed : store.claimMutation mutationId fingerprint request receipt
      operation nowMs = .ok (next, answer)) :
    next = store ∧ answer = store.existingClaim row fingerprint := by
  simp only [claimMutation, held, Except.ok.injEq, Prod.mk.injEq] at claimed
  exact ⟨claimed.1.symm, claimed.2.symm⟩

/-- A fresh claim is consistent: its receipt and operation did not exist. -/
theorem claimMutation_free_consistent {mutationId : MutationId}
    {fingerprint : String} {request : Request} {receipt : Receipt}
    {operation : Operation} {nowMs : Int} {answer : MutationClaim}
    (consistent : store.ClaimsConsistent)
    (pending : operation.status = .pending)
    (free : store.mutationDedup.get? mutationId = none)
    (claimed : store.claimMutation mutationId fingerprint request receipt
      operation nowMs = .ok (next, answer)) :
    next.ClaimsConsistent := by
  obtain ⟨_, ⟨fresh, _, state, unanswered, freshReceipt, freshOperation,
    nextClaims⟩, receiptFree, nextReceipts, operationFree,
    nextOperations⟩ := claimMutation_free free claimed
  have back : ∀ other otherRow,
      next.mutationDedup.get? other = some otherRow →
        (other = mutationId ∧ otherRow = fresh) ∨
          (other ≠ mutationId ∧
            store.mutationDedup.get? other = some otherRow) := by
    intro other otherRow found
    exact SqlTable.written_or_old nextClaims found
  have otherReceipt : ∀ other otherRow,
      store.mutationDedup.get? other = some otherRow →
        otherRow.receiptId ≠ some receipt.receiptId := by
    intro other otherRow found shared
    obtain ⟨receiptId, receiptEq, receiptPending⟩ :=
      (consistent.movesTogether other otherRow found).receiptLinked
    rw [shared] at receiptEq
    cases receiptEq
    rw [receiptFree] at receiptPending
    cases receiptPending
  have otherOperation : ∀ other otherRow,
      store.mutationDedup.get? other = some otherRow →
        otherRow.operationId ≠ some operation.operationId := by
    intro other otherRow found shared
    obtain ⟨operationId, operationEq, operationPending⟩ :=
      (consistent.movesTogether other otherRow found).operationLinked
    rw [shared] at operationEq
    cases operationEq
    rw [operationFree] at operationPending
    cases operationPending
  constructor
  · intro other otherRow found
    rcases back other otherRow found with ⟨rfl, rfl⟩ | ⟨_, before⟩
    · refine ⟨⟨_, freshReceipt, ?_⟩, ⟨_, freshOperation, ?_⟩, ?_⟩
      · simp [nextReceipts, MutationDedupRow.isProcessing, state]
      · simp [nextOperations, MutationDedupRow.isProcessing, state,
          Operation.isPending, pending]
      · simp [unanswered, MutationDedupRow.isProcessing, state]
    · obtain ⟨⟨receiptId, receiptEq, receiptPending⟩,
        ⟨operationId, operationEq, operationPending⟩, answered⟩ :=
          consistent.movesTogether other otherRow before
      refine ⟨⟨receiptId, receiptEq, ?_⟩, ⟨operationId, operationEq, ?_⟩,
        answered⟩
      · rw [nextReceipts, if_neg, receiptPending]
        rintro rfl
        exact otherReceipt other otherRow before receiptEq
      · rw [nextOperations, if_neg, operationPending]
        rintro rfl
        exact otherOperation other otherRow before operationEq
  · intro first second firstRow secondRow foundFirst foundSecond same
    rcases back first firstRow foundFirst with ⟨rfl, rfl⟩ | ⟨_, beforeFirst⟩
    · rcases back second secondRow foundSecond with
        ⟨rfl, _⟩ | ⟨_, beforeSecond⟩
      · rfl
      · exact absurd (same.symm.trans freshReceipt)
          (otherReceipt second secondRow beforeSecond)
    · rcases back second secondRow foundSecond with
        ⟨rfl, rfl⟩ | ⟨_, beforeSecond⟩
      · exact absurd (same.trans freshReceipt)
          (otherReceipt first firstRow beforeFirst)
      · exact consistent.receiptsApart _ _ _ _ beforeFirst beforeSecond same
  · intro first second firstRow secondRow foundFirst foundSecond same
    rcases back first firstRow foundFirst with ⟨rfl, rfl⟩ | ⟨_, beforeFirst⟩
    · rcases back second secondRow foundSecond with
        ⟨rfl, _⟩ | ⟨_, beforeSecond⟩
      · rfl
      · exact absurd (same.symm.trans freshOperation)
          (otherOperation second secondRow beforeSecond)
    · rcases back second secondRow foundSecond with
        ⟨rfl, rfl⟩ | ⟨_, beforeSecond⟩
      · exact absurd (same.trans freshOperation)
          (otherOperation first firstRow beforeFirst)
      · exact consistent.operationsApart _ _ _ _ beforeFirst beforeSecond
          same

end Store

namespace StoreCall

/-- A call keeps the claim of a key unless it prunes the key's claim row. -/
def KeepsClaim (key : MutationId) (history : ClaimHistory)
    (call : StoreCall) : Prop :=
  ∀ nowMs, call = .prune nowMs →
    (history.store.pruneExpiredMutations nowMs).mutationDedup.get? key =
      history.store.mutationDedup.get? key

/-- Every call but a claim only ends claims. -/
theorem perform_endsClaimsOnly {store next : Store} {call : StoreCall}
    (consistent : store.ClaimsConsistent)
    (performed : call.perform store = .ok (next, none)) :
    (∃ nowMs, call = .prune nowMs ∧
        next = store.pruneExpiredMutations nowMs) ∨
      Store.EndsClaimsOnly store next := by
  cases call with
  | claim mutationId fingerprint request receipt operation nowMs =>
    obtain ⟨⟨_, _⟩, _, result⟩ := Except.bind_eq_ok.mp performed
    cases result
  | finalize finalization =>
    obtain ⟨_, finalized, result⟩ := Except.bind_eq_ok.mp performed
    cases result
    exact Or.inr (.of_endsClaim_or_eq consistent
      (Store.finalizeClaimedMutation_eq_ok consistent
        finalization.receiptTerminal finalization.operationTerminal
        finalized))
  | markIndeterminate mutationId reconciliations guard nowMs =>
    obtain ⟨⟨_, _⟩, marked, result⟩ := Except.bind_eq_ok.mp performed
    cases result
    exact Or.inr (.of_endsClaim_or_eq consistent
      (Store.markMutationIndeterminate_eq_ok consistent marked))
  | recoverProcessing nowMs =>
    obtain ⟨_, recovered, result⟩ := Except.bind_eq_ok.mp performed
    cases result
    exact Or.inr
      (Store.markAllIndeterminate_endsClaimsOnly consistent recovered)
  | markUndone original undoOperation =>
    obtain ⟨_, marked, result⟩ := Except.bind_eq_ok.mp performed
    cases result
    obtain ⟨_, rfl⟩ := Store.markOperationUndone_eq_ok.mp marked
    refine Or.inr (.of_same_rows consistent rfl (fun _ => rfl) ?_)
    intro target
    exact Store.markOperationUndone_pending _ _ _ _
  | markRedone original redoOperation =>
    obtain ⟨_, marked, result⟩ := Except.bind_eq_ok.mp performed
    cases result
    obtain ⟨_, rfl⟩ := Store.markOperationRedone_eq_ok.mp marked
    refine Or.inr (.of_same_rows consistent rfl (fun _ => rfl) ?_)
    intro target
    exact Store.markOperationRedone_pending _ _ _ _
  | prune nowMs =>
    cases performed
    exact Or.inl ⟨nowMs, rfl, rfl⟩

/-- Only claim calls are answered. -/
theorem perform_some {store next : Store} {call : StoreCall}
    {answered : AnsweredClaim}
    (performed : call.perform store = .ok (next, some answered)) :
    ∃ mutationId fingerprint request receipt operation nowMs answer,
      answered =
        { mutationId := mutationId, fingerprint := fingerprint,
          receiptId := receipt.receiptId, answer := answer } ∧
      store.claimMutation mutationId fingerprint request receipt
        (IssuedOperation.operation operation) nowMs = .ok (next, answer) := by
  cases call with
  | claim mutationId fingerprint request receipt operation nowMs =>
    obtain ⟨⟨_, answer⟩, claimed, result⟩ := Except.bind_eq_ok.mp performed
    cases result
    exact ⟨mutationId, fingerprint, request, receipt, operation, nowMs,
      answer, rfl, claimed⟩
  | finalize finalization =>
    obtain ⟨_, _, result⟩ := Except.bind_eq_ok.mp performed
    cases result
  | markIndeterminate mutationId reconciliations guard nowMs =>
    obtain ⟨⟨_, _⟩, _, result⟩ := Except.bind_eq_ok.mp performed
    cases result
  | recoverProcessing nowMs =>
    obtain ⟨_, _, result⟩ := Except.bind_eq_ok.mp performed
    cases result
  | markUndone original undoOperation =>
    obtain ⟨_, _, result⟩ := Except.bind_eq_ok.mp performed
    cases result
  | markRedone original redoOperation =>
    obtain ⟨_, _, result⟩ := Except.bind_eq_ok.mp performed
    cases result
  | prune nowMs => cases performed

end StoreCall

namespace AnsweredClaim

/-- A later claim call is sent to the winner's receipt, or refused because it
is a different request. -/
def RepeatsWinner (winner call : AnsweredClaim) : Prop :=
  (call.fingerprint = winner.fingerprint →
    ∃ receipt response,
      call.answer = .existing (some receipt) response ∧
        receipt.receiptId = winner.receiptId) ∧
  (call.fingerprint ≠ winner.fingerprint →
    call.answer = .fingerprintMismatch)

/-- A claim call made after the winner's response was stored is answered with
exactly that response, or refused because it is a different request. -/
def ReplaysAnswer (winner : AnsweredClaim) (response : Response)
    (call : AnsweredClaim) : Prop :=
  (call.fingerprint = winner.fingerprint →
    ∃ receipt, call.answer = .existing (some receipt) (some response) ∧
      receipt.receiptId = winner.receiptId) ∧
  (call.fingerprint ≠ winner.fingerprint →
    call.answer = .fingerprintMismatch)

/-- The answers agree with what the key is bound to. -/
def AgreeWith (answers : List AnsweredClaim) :
    Option (String × ReceiptId) → Prop
  | none => answers = []
  | some (fingerprint, receiptId) =>
    ∃ winner rest, answers = winner :: rest ∧ winner.answer = .claimed ∧
      winner.fingerprint = fingerprint ∧ winner.receiptId = receiptId ∧
        ∀ call ∈ rest, RepeatsWinner winner call

end AnsweredClaim

namespace ClaimHistory

/-- The answers the claim calls of one key were given. -/
def answersFor (history : ClaimHistory) (key : MutationId) :
    List AnsweredClaim :=
  history.answers.filter fun call => decide (call.mutationId = key)

/-- The invariant of an interleaving, seen by one key. -/
structure KeyInvariant (key : MutationId) (history : ClaimHistory) :
    Prop where
  consistent : history.store.ClaimsConsistent
  agree : AnsweredClaim.AgreeWith (history.answersFor key)
    (history.store.claimPhase key).binding

/-- A held key is answered with the receipt of its claim and whatever response
the claim has. -/
private theorem existingClaim_eq {store : Store} {row : MutationDedupRow}
    {winner call : AnsweredClaim} (moves : store.ClaimMovesTogether row)
    (sameFingerprint : winner.fingerprint = row.fingerprint)
    (sameReceipt : row.receiptId = some winner.receiptId)
    (answer : call.answer = store.existingClaim row call.fingerprint) :
    (call.fingerprint = winner.fingerprint →
      ∃ receipt, call.answer = .existing (some receipt) row.response ∧
        receipt.receiptId = winner.receiptId) ∧
    (call.fingerprint ≠ winner.fingerprint →
      call.answer = .fingerprintMismatch) := by
  obtain ⟨receiptId, receiptEq, receiptPending⟩ := moves.receiptLinked
  rw [sameReceipt] at receiptEq
  cases receiptEq
  rw [Store.receiptPending, Option.map_eq_some_iff] at receiptPending
  obtain ⟨receiptRow, foundReceipt, _⟩ := receiptPending
  have receiptKey : receiptRow.receiptId = winner.receiptId :=
    SqlTable.key_of_get? foundReceipt
  constructor
  · intro same
    refine ⟨receiptRow.receipt, ?_, receiptKey⟩
    simp [answer, Store.existingClaim, same, sameFingerprint, sameReceipt,
      foundReceipt]
  · intro different
    rw [sameFingerprint] at different
    simp [answer, Store.existingClaim, different.symm]

/-- The answer of a held key repeats its winner. -/
private theorem existingClaim_repeatsWinner {store : Store}
    {row : MutationDedupRow} {winner call : AnsweredClaim}
    (moves : store.ClaimMovesTogether row)
    (sameFingerprint : winner.fingerprint = row.fingerprint)
    (sameReceipt : row.receiptId = some winner.receiptId)
    (answer : call.answer = store.existingClaim row call.fingerprint) :
    AnsweredClaim.RepeatsWinner winner call := by
  obtain ⟨existing, mismatch⟩ :=
    existingClaim_eq moves sameFingerprint sameReceipt answer
  refine ⟨?_, mismatch⟩
  intro same
  obtain ⟨receipt, answerEq, receiptKey⟩ := existing same
  exact ⟨receipt, row.response, answerEq, receiptKey⟩

/-- A claimed row's phase is bound to its fingerprint and receipt. -/
private theorem phase_binding {row : MutationDedupRow}
    {receiptId : ReceiptId} (receiptEq : row.receiptId = some receiptId) :
    row.phase.binding = some (row.fingerprint, receiptId) := by
  rw [MutationDedupRow.phase, receiptEq]
  cases row.response <;> rfl

private theorem answersFor_append {key : MutationId} (store next : Store)
    {answers : List AnsweredClaim} {call : AnsweredClaim} :
    (ClaimHistory.mk next (answers ++ [call])).answersFor key =
      (ClaimHistory.mk store answers).answersFor key ++
        if call.mutationId = key then [call] else [] := by
  simp only [answersFor, List.filter_append]
  by_cases same : call.mutationId = key
  · simp [same]
  · simp [same]

/-- A claim call keeps the invariant of every key. -/
private theorem KeyInvariant.claim {key mutationId : MutationId}
    {store next : Store} {answers : List AnsweredClaim}
    {fingerprint : String} {request : Request} {receipt : Receipt}
    {operation : Operation} {nowMs : Int} {answer : MutationClaim}
    (invariant : KeyInvariant key ⟨store, answers⟩)
    (pending : operation.status = .pending)
    (claimed : store.claimMutation mutationId fingerprint request receipt
      operation nowMs = .ok (next, answer)) :
    KeyInvariant key ⟨next, answers ++
      [{ mutationId := mutationId, fingerprint := fingerprint,
         receiptId := receipt.receiptId, answer := answer }]⟩ := by
  obtain ⟨consistent, agree⟩ := invariant
  simp only at consistent agree
  cases found : store.mutationDedup.get? mutationId with
  | some row =>
    obtain ⟨rfl, answerEq⟩ := Store.claimMutation_held found claimed
    refine ⟨consistent, ?_⟩
    rw [answersFor_append next]
    by_cases same : mutationId = key
    · subst same
      have moves := consistent.movesTogether mutationId row found
      obtain ⟨receiptId, receiptEq, _⟩ := moves.receiptLinked
      have binding : (next.claimPhase mutationId).binding =
          some (row.fingerprint, receiptId) := by
        rw [Store.claimPhase, found]
        exact phase_binding receiptEq
      rw [binding] at agree ⊢
      obtain ⟨winner, rest, answersEq, winnerClaimed, sameFingerprint,
        sameReceipt, repeats⟩ := agree
      refine ⟨winner, rest ++ [_], by rw [answersEq, if_pos rfl]; rfl,
        winnerClaimed, sameFingerprint, sameReceipt, ?_⟩
      intro call member
      rcases List.mem_append.mp member with inRest | isNew
      · exact repeats call inRest
      · rw [List.mem_singleton.mp isNew]
        exact existingClaim_repeatsWinner moves sameFingerprint
          (sameReceipt ▸ receiptEq) answerEq
    · simpa [same] using agree
  | none =>
    obtain ⟨rfl, ⟨fresh, sameFingerprint, _, _, freshReceipt, _,
      nextClaims⟩, _⟩ := Store.claimMutation_free found claimed
    refine ⟨Store.claimMutation_free_consistent consistent pending found
      claimed, ?_⟩
    rw [answersFor_append store]
    by_cases same : mutationId = key
    · subst same
      have unclaimed : (store.claimPhase mutationId).binding = none := by
        rw [Store.claimPhase, found]
        rfl
      have binding : (next.claimPhase mutationId).binding =
          some (fingerprint, receipt.receiptId) := by
        rw [Store.claimPhase, nextClaims, if_pos rfl, ← sameFingerprint]
        exact phase_binding freshReceipt
      rw [unclaimed] at agree
      rw [binding]
      refine ⟨_, [], by rw [agree, if_pos rfl]; rfl, rfl, rfl, rfl, ?_⟩
      simp
    · have samePhase : next.claimPhase key = store.claimPhase key := by
        rw [Store.claimPhase, nextClaims, if_neg (Ne.symm same)]
        rfl
      rw [samePhase, if_neg same, List.append_nil]
      exact agree

/-- One call keeps the invariant of a key it does not prune. -/
theorem KeyInvariant.step {key : MutationId} {history next : ClaimHistory}
    {call : StoreCall} (invariant : KeyInvariant key history)
    (keeps : call.KeepsClaim key history)
    (steps : claimMachine.step history call = some next) :
    KeyInvariant key next := by
  simp only [claimMachine] at steps
  cases performed : call.perform history.store with
  | error failure =>
    rw [performed] at steps
    cases steps
    exact invariant
  | ok result =>
    obtain ⟨nextStore, answer⟩ := result
    rw [performed] at steps
    cases steps
    cases answer with
    | none =>
      have sameAnswers : (ClaimHistory.mk nextStore
          (history.answers ++ Option.toList none)).answersFor key =
            history.answersFor key := by
        simp [answersFor]
      rcases StoreCall.perform_endsClaimsOnly invariant.consistent
          performed with ⟨nowMs, rfl, rfl⟩ | ends
      · refine ⟨invariant.consistent.pruneExpiredMutations nowMs, ?_⟩
        rw [sameAnswers, Store.claimPhase, keeps nowMs rfl]
        exact invariant.agree
      · refine ⟨ends.consistent, ?_⟩
        rw [sameAnswers, (ends.ends key).binding_eq]
        exact invariant.agree
    | some answered =>
      obtain ⟨mutationId, fingerprint, request, receipt, operation, nowMs,
        claimAnswer, rfl, claimed⟩ := StoreCall.perform_some performed
      exact KeyInvariant.claim invariant operation.pending claimed

end ClaimHistory

namespace ClaimHistory

/-- An answered key keeps its answer through a call that does not prune it. -/
private theorem answered_step {key : MutationId}
    {history next : ClaimHistory} {call : StoreCall} {fingerprint : String}
    {receiptId : ReceiptId} {response : Response}
    (invariant : KeyInvariant key history)
    (answered : history.store.claimPhase key =
      .answered fingerprint receiptId response)
    (keeps : call.KeepsClaim key history)
    (steps : claimMachine.step history call = some next) :
    next.store.claimPhase key =
      .answered fingerprint receiptId response := by
  simp only [claimMachine] at steps
  cases performed : call.perform history.store with
  | error failure =>
    rw [performed] at steps
    cases steps
    exact answered
  | ok result =>
    obtain ⟨nextStore, answer⟩ := result
    rw [performed] at steps
    cases steps
    cases answer with
    | none =>
      rcases StoreCall.perform_endsClaimsOnly invariant.consistent
          performed with ⟨nowMs, rfl, rfl⟩ | ends
      · rw [Store.claimPhase, keeps nowMs rfl]
        exact answered
      · have keyEnds := ends.ends key
        rw [answered] at keyEnds
        exact keyEnds.of_answered
    | some answered' =>
      obtain ⟨mutationId, fingerprint', request, receipt, operation, nowMs,
        claimAnswer, rfl, claimed⟩ := StoreCall.perform_some performed
      cases found : history.store.mutationDedup.get? mutationId with
      | some row =>
        rw [(Store.claimMutation_held found claimed).1]
        exact answered
      | none =>
        obtain ⟨_, ⟨_, _, _, _, _, _, nextClaims⟩, _⟩ :=
          Store.claimMutation_free found claimed
        have different : key ≠ mutationId := by
          rintro rfl
          rw [Store.claimPhase, found] at answered
          cases answered
        rw [Store.claimPhase, nextClaims, if_neg different]
        exact answered

/-- An answered phase is read off a claim row. -/
private theorem row_of_claimPhase {store : Store} {key : MutationId}
    {fingerprint : String} {receiptId : ReceiptId} {response : Response}
    (answered : store.claimPhase key =
      .answered fingerprint receiptId response) :
    ∃ row, store.mutationDedup.get? key = some row ∧
      row.fingerprint = fingerprint ∧ row.receiptId = some receiptId ∧
        row.response = some response := by
  simp only [Store.claimPhase] at answered
  split at answered
  · cases answered
  · rename_i row found
    refine ⟨row, found, ?_⟩
    simp only [MutationDedupRow.phase] at answered
    split at answered
    · cases answered
    · cases answered
    · rename_i receiptEq responseEq
      cases answered
      exact ⟨rfl, receiptEq, responseEq⟩

/-- A call made while a key is answered with a stored response adds only replays
of that response to the answers of the key. -/
private theorem replays_step {key : MutationId}
    {history next : ClaimHistory} {call : StoreCall}
    {winner : AnsweredClaim} {response : Response}
    (invariant : KeyInvariant key history)
    (answered : history.store.claimPhase key =
      .answered winner.fingerprint winner.receiptId response)
    (steps : claimMachine.step history call = some next) :
    ∃ added, next.answersFor key = history.answersFor key ++ added ∧
      ∀ answer ∈ added, winner.ReplaysAnswer response answer := by
  simp only [claimMachine] at steps
  cases performed : call.perform history.store with
  | error failure =>
    rw [performed] at steps
    cases steps
    exact ⟨[], by simp, by simp⟩
  | ok result =>
    obtain ⟨nextStore, answer⟩ := result
    rw [performed] at steps
    cases steps
    cases answer with
    | none => exact ⟨[], by simp [answersFor], by simp⟩
    | some answeredCall =>
      obtain ⟨mutationId, fingerprint, request, receipt, operation, nowMs,
        claimAnswer, rfl, claimed⟩ := StoreCall.perform_some performed
      refine ⟨_, answersFor_append history.store nextStore, ?_⟩
      by_cases same : mutationId = key
      · subst same
        obtain ⟨row, found, fingerprintEq, receiptEq, responseEq⟩ :=
          row_of_claimPhase answered
        obtain ⟨rfl, answerEq⟩ := Store.claimMutation_held found claimed
        intro call member
        rw [if_pos rfl, List.mem_singleton] at member
        subst member
        rw [AnsweredClaim.ReplaysAnswer, ← responseEq]
        exact existingClaim_eq
          (invariant.consistent.movesTogether mutationId row found)
          fingerprintEq.symm receiptEq answerEq
      · intro call member
        rw [if_neg same] at member
        cases member

/-- From the moment a response is stored: the key stays answered, and its later
answers replay the response. -/
private structure ReplaysFrom (key : MutationId) (middle : ClaimHistory)
    (winner : AnsweredClaim) (response : Response)
    (history : ClaimHistory) : Prop where
  invariant : KeyInvariant key history
  answered : history.store.claimPhase key =
    .answered winner.fingerprint winner.receiptId response
  answers : ∃ later,
    history.answersFor key = middle.answersFor key ++ later ∧
      ∀ call ∈ later, winner.ReplaysAnswer response call

private theorem ReplaysFrom.start {key : MutationId} {middle : ClaimHistory}
    {winner : AnsweredClaim} {response : Response}
    (invariant : KeyInvariant key middle)
    (answered : middle.store.claimPhase key =
      .answered winner.fingerprint winner.receiptId response) :
    ReplaysFrom key middle winner response middle :=
  ⟨invariant, answered, [], by simp, by simp⟩

private theorem ReplaysFrom.step {key : MutationId}
    {middle history next : ClaimHistory} {call : StoreCall}
    {winner : AnsweredClaim} {response : Response}
    (replays : ReplaysFrom key middle winner response history)
    (keeps : call.KeepsClaim key history)
    (steps : claimMachine.step history call = some next) :
    ReplaysFrom key middle winner response next := by
  obtain ⟨invariant, answered, later, answersEq, laterReplay⟩ := replays
  obtain ⟨added, addedEq, addedReplay⟩ :=
    replays_step invariant answered steps
  refine ⟨invariant.step keeps steps,
    answered_step invariant answered keeps steps, later ++ added, ?_, ?_⟩
  · rw [addedEq, answersEq, List.append_assoc]
  · intro call member
    rcases List.mem_append.mp member with isLater | isAdded
    · exact laterReplay call isLater
    · exact addedReplay call isAdded

end ClaimHistory

end Spotuify
