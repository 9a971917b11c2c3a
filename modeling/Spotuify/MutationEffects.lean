import Spotuify.KeyedMutations
import Spotuify.MutationSystem

/-!
# What a lifecycle step changes

A step of a body and the end of an operation are stated here once: which
updates of the operations log they issue, and what they leave alone.  The
invariants of the following modules only use these statements.
-/

namespace Spotuify

namespace BodyStep

/-- The updates of the log a step issues. -/
def updates : BodyStep → List LogUpdate
  | .updatePlan preState plan => [.plan (some preState) (some plan)]
  | .updateSubjectUris subjectUris => [.subjectUris subjectUris]
  | .activatePlan preState plan => [.activate preState plan]
  | .linkSubject subject => [.subject subject]
  | .markUndone member => [.undone member]
  | .markRedone subject => [.redone subject]
  | _ => []

/-- The candidate rows a step leaves. -/
def candidatesAfter (issuer : OperationId)
    (candidates : List BulkUndoCandidate) :
    BodyStep → List BulkUndoCandidate
  | .recordCandidates members =>
    (candidates.filter fun candidate =>
      candidate.outerOperationId ≠ issuer) ++
        Store.bulkUndoCandidatesFrom issuer 0 members
  | _ => candidates

/-- What the database must hold for a step to succeed. -/
def Requires (issuer : OperationId) (store : Store) : BodyStep → Prop
  | .activatePlan .. => ∃ row, store.operations.get? issuer = some row ∧
      row.status = .pending ∧ row.reversible = false
  | .linkSubject subject => (store.operations.get? subject).isSome = true
  | .markUndone _ | .markRedone _ =>
    (store.operations.get? issuer).isSome = true
  | .recordCandidates members =>
    (∀ member ∈ members,
      (store.operations.get? member.operationId).isSome = true) ∧
      (members.map Operation.operationId).Nodup
  | _ => True

/-- A step changes the log by its updates, and the candidates of its own
operation. -/
theorem perform_eq_ok {issuer : OperationId} {store next : Store}
    {step : BodyStep} (performed : step.perform issuer store = .ok next) :
    next = { store with
        operations :=
          LogUpdate.applyAll issuer store.operations step.updates,
        bulkUndoCandidates :=
          step.candidatesAfter issuer store.bulkUndoCandidates } ∧
      step.Requires issuer store := by
  cases step with
  | updatePlan preState plan =>
    cases performed
    exact ⟨rfl, trivial⟩
  | updateSubjectUris subjectUris =>
    cases performed
    exact ⟨rfl, trivial⟩
  | callProvider =>
    cases performed
    exact ⟨rfl, trivial⟩
  | populatePlaylist =>
    cases performed
    exact ⟨rfl, trivial⟩
  | activatePlan preState plan =>
    simp only [perform, Store.activateOperationReversalPlan] at performed
    split at performed
    · rename_i selected
      cases performed
      obtain ⟨row, found, guarded⟩ := SqlTable.rowsAffected_eq_one.mp selected
      simp only [Bool.and_eq_true, Operation.isPending_eq_true,
        Bool.not_eq_true'] at guarded
      exact ⟨rfl, row, found, guarded⟩
    · cases performed
  | nothingPlaying =>
    cases performed
    exact ⟨rfl, trivial⟩
  | linkSubject subject =>
    obtain ⟨⟨⟩, required, result⟩ := Except.bind_eq_ok.mp performed
    cases result
    exact ⟨rfl, Store.requireOperation_eq_ok.mp required⟩
  | recordCandidates members =>
    obtain ⟨⟨⟩, _, recorded⟩ := Except.bind_eq_ok.mp performed
    split at recorded
    · cases recorded
    · rename_i present
      split at recorded
      · cases recorded
      · rename_i distinct
        cases recorded
        refine ⟨rfl, ?_, not_not.mp distinct⟩
        simpa [Option.isSome_iff_ne_none] using present
  | checkReversal member =>
    cases performed
    exact ⟨rfl, trivial⟩
  | sendReversal member =>
    cases performed
    exact ⟨rfl, trivial⟩
  | awaitReversal member =>
    cases performed
    exact ⟨rfl, trivial⟩
  | markUndone member =>
    obtain ⟨present, rfl⟩ := Store.markOperationUndone_eq_ok.mp performed
    exact ⟨rfl, present⟩
  | requireUndone subject =>
    cases performed
    exact ⟨rfl, trivial⟩
  | replayForward subject =>
    cases performed
    exact ⟨rfl, trivial⟩
  | markRedone subject =>
    obtain ⟨present, rfl⟩ := Store.markOperationRedone_eq_ok.mp performed
    exact ⟨rfl, present⟩

end BodyStep

/-- What a claim row is bound to for good. -/
def MutationDedupRow.claimBinding (row : MutationDedupRow) :
    Request × Option ReceiptId × Option OperationId :=
  (row.request, row.receiptId, row.operationId)

namespace Store

/-- Every reconciliation was there before, under the same receipt and
operation, or belongs to this receipt and operation under an id minted in a
range. -/
def ReconciliationsGrow (store next : Store) (receiptId : ReceiptId)
    (operationId : OperationId) (lower upper : Nat) : Prop :=
  ∀ row ∈ next.reconciliations.rows,
    (∃ old ∈ store.reconciliations.rows,
      row.reconciliationId = old.reconciliationId ∧
        row.receiptId = old.receiptId ∧
        row.operationId = old.operationId) ∨
      (row.receiptId = receiptId ∧ row.operationId = operationId ∧
        lower ≤ row.reconciliationId.value ∧
        row.reconciliationId.value < upper)

/-- What the end of an operation does to the database. -/
structure EndsOperation (store next : Store) (issuer : OperationId)
    (receiptId : ReceiptId) (lower upper : Nat)
    (updates : List LogUpdate) : Prop where
  operations :
    next.operations = LogUpdate.applyAll issuer store.operations updates
  candidates : next.bulkUndoCandidates = store.bulkUndoCandidates
  receipts : ∀ target, (next.receipts.get? target).isSome =
    (store.receipts.get? target).isSome
  claims : ∀ mutationId,
    (next.mutationDedup.get? mutationId).map
        MutationDedupRow.claimBinding =
      (store.mutationDedup.get? mutationId).map
        MutationDedupRow.claimBinding
  reconciliations :
    store.ReconciliationsGrow next receiptId issuer lower upper

variable {store middle next : Store} {issuer : OperationId}
  {receiptId : ReceiptId} {lower upper : Nat}

theorem ReconciliationsGrow.of_eq
    (same : next.reconciliations = store.reconciliations) :
    store.ReconciliationsGrow next receiptId issuer lower upper := by
  intro row member
  rw [same] at member
  exact Or.inl ⟨row, member, rfl, rfl, rfl⟩

theorem ReconciliationsGrow.trans
    (first : store.ReconciliationsGrow middle receiptId issuer lower upper)
    (second : middle.ReconciliationsGrow next receiptId issuer lower upper) :
    store.ReconciliationsGrow next receiptId issuer lower upper := by
  intro row member
  rcases second row member with ⟨between, member', ids⟩ | minted
  · rcases first between member' with ⟨old, oldMember, oldIds⟩ | minted
    · exact Or.inl ⟨old, oldMember, ids.1.trans oldIds.1,
        ids.2.1.trans oldIds.2.1, ids.2.2.trans oldIds.2.2⟩
    · right
      rw [ids.1, ids.2.1, ids.2.2]
      exact minted
  · exact Or.inr minted

/-- Merging one reconciliation adds at most its own row. -/
theorem insertProviderReconciliationTx_grows
    {reconciliation : ProviderReconciliation} {createdAtMs : Int}
    (ownReceipt : reconciliation.receiptId = receiptId)
    (ownOperation : reconciliation.operationId = issuer)
    (range : lower ≤ reconciliation.reconciliationId.value ∧
      reconciliation.reconciliationId.value < upper)
    (merged : store.insertProviderReconciliationTx reconciliation
      createdAtMs = .ok next) :
    store.ReconciliationsGrow next receiptId issuer lower upper := by
  simp only [insertProviderReconciliationTx] at merged
  split at merged
  · split at merged
    · cases merged
    · cases merged
      intro row member
      obtain ⟨old, oldMember, rfl⟩ := List.mem_map.mp member
      refine Or.inl ⟨old, oldMember, ?_⟩
      split <;> exact ⟨rfl, rfl, rfl⟩
  · split at merged
    · cases merged
    · rename_i inserted
      split at merged
      · cases merged
        intro row member
        rw [(SqlTable.insert?_eq_some.mp inserted).2, List.mem_append] at member
        rcases member with old | new
        · exact Or.inl ⟨row, old, rfl, rfl, rfl⟩
        · cases List.mem_singleton.mp new
          exact Or.inr ⟨ownReceipt, ownOperation, range⟩
      · cases merged

/-- Merging the materialized reconciliations of one operation. -/
theorem insertProviderReconciliations_grows
    {reconciliations : List ProviderReconciliation} {createdAtMs : Int}
    (own : ∀ reconciliation ∈ reconciliations,
      reconciliation.receiptId = receiptId ∧
        reconciliation.operationId = issuer ∧
        lower ≤ reconciliation.reconciliationId.value ∧
        reconciliation.reconciliationId.value < upper)
    (merged : insertProviderReconciliations createdAtMs store
      reconciliations = .ok next) :
    store.ReconciliationsGrow next receiptId issuer lower upper := by
  induction reconciliations generalizing store with
  | nil =>
    cases merged
    exact .of_eq rfl
  | cons reconciliation rest inductionHypothesis =>
    obtain ⟨middle, mergedFirst, mergedRest⟩ :=
      Except.bind_eq_ok.mp merged
    obtain ⟨ownReceipt, ownOperation, range⟩ :=
      own reconciliation List.mem_cons_self
    have first := insertProviderReconciliationTx_grows ownReceipt
      ownOperation range mergedFirst
    apply first.trans
    apply inductionHypothesis _ mergedRest
    intro other member
    exact own other (List.mem_cons_of_mem _ member)

/-- Ending an operation and then touching reconciliations only. -/
theorem EndsOperation.of_reconciliations {updates : List LogUpdate}
    {reconciliations : List ProviderReconciliation} {createdAtMs : Int}
    (ends : EndsOperation store middle issuer receiptId lower upper updates)
    (own : ∀ reconciliation ∈ reconciliations,
      reconciliation.receiptId = receiptId ∧
        reconciliation.operationId = issuer ∧
        lower ≤ reconciliation.reconciliationId.value ∧
        reconciliation.reconciliationId.value < upper)
    (merged : insertProviderReconciliations createdAtMs middle
      reconciliations = .ok next) :
    EndsOperation store next issuer receiptId lower upper updates := by
  have grows := insertProviderReconciliations_grows own merged
  obtain ⟨rows, stability, rfl⟩ := insertProviderReconciliations_frame merged
  exact ⟨ends.operations, ends.candidates, ends.receipts, ends.claims,
    ends.reconciliations.trans grows⟩

theorem get?_finalizeReceipt_isSome (receipts : ReceiptTable)
    (target other : ReceiptId) (status : ReceiptStatus) (message : String)
    (finishedAtMs : Int) (error : Option ApiErrorSummary) :
    ((finalizeReceipt receipts target status message finishedAtMs
        error).get? other).isSome = (receipts.get? other).isSome := by
  rw [finalizeReceipt, SqlTable.get?_updateKey, Option.isSome_map]

private theorem get?_updateClaim_binding (claims : MutationDedupTable)
    (target other : MutationId) (guard : MutationDedupRow → Bool)
    (change : MutationDedupRow → MutationDedupRow)
    (keepsKey : ∀ row, (change row).mutationId = row.mutationId)
    (keepsBinding : ∀ row, (change row).claimBinding = row.claimBinding) :
    ((claims.updateKey target guard change keepsKey).get? other).map
        MutationDedupRow.claimBinding =
      (claims.get? other).map MutationDedupRow.claimBinding := by
  rw [SqlTable.get?_updateKey, Option.map_map]
  cases claims.get? other with
  | none => rfl
  | some row =>
    simp only [Option.map_some, Function.comp_apply]
    split
    · rw [keepsBinding]
    · rfl

/-- The updates of the log a finalization issues, and its own guard unless it
only repeats what is stored. -/
theorem finalizeClaimedMutation_endsOperation
    {intent : ClaimedMutationFinalization}
    (own : ∀ reconciliation ∈ intent.reconciliations,
      reconciliation.receiptId = receiptId ∧
        reconciliation.operationId = intent.operationId ∧
        lower ≤ reconciliation.reconciliationId.value ∧
        reconciliation.reconciliationId.value < upper)
    (finalized : store.finalizeClaimedMutation intent = .ok next) :
    ∃ guard, (guard = none ∨ guard = intent.postWriteGuard) ∧
      EndsOperation store next intent.operationId receiptId lower upper
        (LogUpdate.ending intent.operationRecovery intent.operationStatus
          intent.finishedAtMs intent.operationError guard) := by
  have rows : ∀ guard, EndsOperation store
      { store.finalizeClaimRows intent with
        operations := guardedOperations
          (store.finalizeClaimRows intent).operations intent.operationId
          guard }
      intent.operationId receiptId lower upper
      (LogUpdate.ending intent.operationRecovery intent.operationStatus
        intent.finishedAtMs intent.operationError guard) := by
    intro guard
    refine ⟨LogUpdate.guardedOperations_finalize_eq .., rfl, ?_, ?_,
      .of_eq rfl⟩
    · intro target
      exact get?_finalizeReceipt_isSome ..
    · intro mutationId
      apply get?_updateClaim_binding
      · intro row
        rfl
      · intro row
        rfl
  simp only [finalizeClaimedMutation] at finalized
  split at finalized
  · split at finalized
    · cases finalized
      exact ⟨none, Or.inl rfl, rows none⟩
    · cases finalized
  · obtain ⟨guarded, guardApplied, inserted⟩ :=
      Except.bind_eq_ok.mp finalized
    obtain ⟨_, rfl⟩ := applyPostWriteOperationGuardTx_eq_ok.mp guardApplied
    exact ⟨_, Or.inr rfl, (rows _).of_reconciliations own inserted⟩

/-- The partial finalization of an unkeyed task. -/
theorem finalizePartialOperation_endsOperation {error : ApiErrorSummary}
    {status : OperationStatus} {operationError : String}
    {reconciliations : List ProviderReconciliation}
    {guard : Option PostWriteOperationGuard}
    {recovery : Option PartialOperationRecovery} {finishedAtMs : Int}
    (own : ∀ reconciliation ∈ reconciliations,
      reconciliation.receiptId = receiptId ∧
        reconciliation.operationId = issuer ∧
        lower ≤ reconciliation.reconciliationId.value ∧
        reconciliation.reconciliationId.value < upper)
    (finalized : store.finalizePartialOperation receiptId error issuer
      status operationError reconciliations guard recovery finishedAtMs =
        .ok next) :
    EndsOperation store next issuer receiptId lower upper
      (LogUpdate.ending recovery status finishedAtMs (some operationError)
        guard) := by
  simp only [finalizePartialOperation] at finalized
  split at finalized
  · cases finalized
  · obtain ⟨guarded, guardApplied, inserted⟩ :=
      Except.bind_eq_ok.mp finalized
    obtain ⟨_, rfl⟩ := applyPostWriteOperationGuardTx_eq_ok.mp guardApplied
    refine EndsOperation.of_reconciliations ?_ own inserted
    refine ⟨?_, rfl, ?_, fun _ => rfl, .of_eq rfl⟩
    · exact LogUpdate.guardedOperations_finalize_eq ..
    · intro target
      exact get?_finalizeReceipt_isSome ..

/-- The indeterminate end of a claim that is processing. -/
theorem finalizeProcessingClaim_endsOperation {mutationId : MutationId}
    {row : MutationDedupRow} {message : String} {response : Response}
    {reconciliations : List ProviderReconciliation}
    {guard : Option PostWriteOperationGuard} {nowMs : Int}
    (found : store.mutationDedup.get? mutationId = some row)
    (processing : row.isProcessing = true)
    (receiptEq : row.receiptId = some receiptId)
    (operationEq : row.operationId = some issuer)
    (own : ∀ reconciliation ∈ reconciliations,
      reconciliation.receiptId = receiptId ∧
        reconciliation.operationId = issuer ∧
        lower ≤ reconciliation.reconciliationId.value ∧
        reconciliation.reconciliationId.value < upper)
    (finalized : store.finalizeProcessingClaim mutationId message response
      reconciliations guard nowMs = .ok next) :
    EndsOperation store next issuer receiptId lower upper
      (LogUpdate.ending none .failed nowMs (some message) guard) := by
  simp only [finalizeProcessingClaim, found, processing, Bool.not_true,
    Bool.false_eq_true, if_false, operationEq] at finalized
  obtain ⟨guarded, guardApplied, inserted⟩ := Except.bind_eq_ok.mp finalized
  obtain ⟨_, rfl⟩ := applyPostWriteOperationGuardTx_eq_ok.mp guardApplied
  refine EndsOperation.of_reconciliations ?_ own inserted
  refine ⟨?_, rfl, ?_, ?_, .of_eq rfl⟩
  · simp only [failClaimRows, operationEq]
    exact LogUpdate.guardedOperations_finalize_eq issuer store none ..
  · intro target
    simp only [failClaimRows, receiptEq]
    exact get?_finalizeReceipt_isSome ..
  · intro other
    apply get?_updateClaim_binding
    · intro row
      rfl
    · intro row
      rfl

end Store

end Spotuify
