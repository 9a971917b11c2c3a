import Spotuify.LifecycleSteps

/-!
# Claims, tasks and the rows they own

A claim, its receipt and its operation are minted together, and a live body
acts for the operation of its own claim.  From these links follows what the
end of a body and the recovery of a claim do to the database: they end one
operation and leave the rows of every other one to their guard.
-/

namespace Spotuify

theorem MutationDedupRow.processingClaim?_eq_some {row : MutationDedupRow}
    {claim : ProcessingMutationClaim} :
    row.processingClaim? = some claim ↔
      row.isProcessing = true ∧ row.mutationId = claim.mutationId ∧
        row.request = claim.request ∧
        row.receiptId = some claim.receiptId ∧
        row.operationId = some claim.operationId := by
  obtain ⟨mutationId, request, receiptId, operationId⟩ := claim
  unfold processingClaim?
  split
  · rename_i state receipt operation
    simp only [Option.some.injEq, ProcessingMutationClaim.mk.injEq,
      isProcessing_eq_true, state, receipt, operation, true_and]
  · rename_i other
    simp only [reduceCtorEq, isProcessing_eq_true, false_iff]
    rintro ⟨state, -, -, receipt, operation⟩
    exact other _ _ state receipt operation

namespace Store

variable {store next : Store}

/-- Ending a claim as indeterminate ends its operation, or finds it ended. -/
theorem markMutationIndeterminate_endsOperation {mutationId : MutationId}
    {receiptId : ReceiptId} {issuer : OperationId} {lower upper : Nat}
    {reconciliations : List ProviderReconciliation}
    {guard : Option PostWriteOperationGuard} {nowMs : Int}
    {response : Response}
    (linked : ∀ row, store.mutationDedup.get? mutationId = some row →
      row.receiptId = some receiptId ∧ row.operationId = some issuer)
    (own : ∀ reconciliation ∈ reconciliations,
      reconciliation.receiptId = receiptId ∧
        reconciliation.operationId = issuer ∧
        lower ≤ reconciliation.reconciliationId.value ∧
        reconciliation.reconciliationId.value < upper)
    (marked : store.markMutationIndeterminate mutationId reconciliations guard
      nowMs = .ok (next, response)) :
    ((store.mutationDedup.get? mutationId).any
        MutationDedupRow.isProcessing = false ∧ next = store) ∨
      EndsOperation store next issuer receiptId lower upper
        (LogUpdate.ending none .failed nowMs (some indeterminateMessage)
          guard) := by
  unfold markMutationIndeterminate at marked
  dsimp only at marked
  cases found : store.mutationDedup.get? mutationId with
  | none =>
    simp only [found, Option.bind_eq_bind, Option.bind_none] at marked
    obtain ⟨after, finalized, result⟩ := Except.bind_eq_ok.mp marked
    cases result
    rw [finalizeProcessingClaim, found] at finalized
    cases finalized
    exact Or.inl ⟨rfl, rfl⟩
  | some row =>
    obtain ⟨receiptEq, operationEq⟩ := linked row found
    cases processing : row.isProcessing with
    | true =>
      simp only [found, Option.bind_eq_bind, Option.bind_some, processing,
        if_true] at marked
      obtain ⟨after, finalized, result⟩ := Except.bind_eq_ok.mp marked
      cases result
      exact Or.inr (finalizeProcessingClaim_endsOperation found processing
        receiptEq operationEq own finalized)
    | false =>
      left
      refine ⟨by simp [processing], ?_⟩
      simp only [found, Option.bind_eq_bind, Option.bind_some, processing,
        Bool.false_eq_true, if_false] at marked
      split at marked
      · cases marked
        rfl
      · obtain ⟨after, finalized, result⟩ := Except.bind_eq_ok.mp marked
        cases result
        simp only [finalizeProcessingClaim, found, processing, Bool.not_false,
          if_true] at finalized
        cases finalized
        rfl

/-- Reconciliations are minted below a bound, for a receipt and the operation
that was minted with it. -/
def ReconciliationsPaired (store : Store) (minted : Nat) : Prop :=
  ∀ row ∈ store.reconciliations.rows,
    row.reconciliationId.value < minted ∧
      row.receiptId.value = row.operationId.value

theorem ReconciliationsPaired.grow {receiptId : ReceiptId}
    {issuer : OperationId} {lower upper : Nat}
    (old : store.ReconciliationsPaired lower) (le : lower ≤ upper)
    (paired : receiptId.value = issuer.value)
    (grows : store.ReconciliationsGrow next receiptId issuer lower upper) :
    next.ReconciliationsPaired upper := by
  intro row member
  rcases grows row member with ⟨before, inStore, same⟩ | ⟨receipt, operation,
    -, bound⟩
  · obtain ⟨sameId, sameReceipt, sameOperation⟩ := same
    rw [sameId, sameReceipt, sameOperation]
    exact ⟨Nat.lt_of_lt_of_le (old before inStore).1 le,
      (old before inStore).2⟩
  · rw [receipt, operation]
    exact ⟨bound, paired⟩

end Store

/-- How the end of a task leaves its operation: as the task ended, or, when
that could not be persisted, as indeterminate. -/
inductive MutationTask.EndsAs (task : MutationTask)
    (topology : ProviderTopology) (store : Store) :
    Option PartialOperationRecovery → OperationStatus →
      Option PostWriteOperationGuard → Prop
  | finalized {guard : Option PostWriteOperationGuard}
      (isOwn : guard = none ∨ guard = task.guard) :
      EndsAs task topology store task.recovery task.operationStatus guard
  | indeterminate {currentItem : Option String}
      {seeds : List ReconciliationSeed}
      {fallback : Option PostWriteOperationGuard}
      (intent : store.recoverySeeds topology currentItem task.recorded.request
        task.operationId = .ok (seeds, fallback)) :
      EndsAs task topology store none .failed (task.guard.or fallback)

/-- A finalization is taken, or the claim is marked indeterminate. -/
theorem persistClaimedMutationFinalization_eq_ok {store next : Store}
    {intent : ClaimedMutationFinalization}
    {fallback : List ProviderReconciliation}
    {fallbackGuard : Option PostWriteOperationGuard} {persists : Bool}
    (persisted : persistClaimedMutationFinalization store intent fallback
      fallbackGuard persists = .ok next) :
    store.finalizeClaimedMutation intent = .ok next ∨
      ∃ response, store.markMutationIndeterminate intent.mutationId
        (if intent.reconciliations.isEmpty then fallback
          else intent.reconciliations)
        (intent.postWriteGuard.or fallbackGuard) intent.finishedAtMs =
          .ok (next, response) := by
  unfold persistClaimedMutationFinalization at persisted
  dsimp only at persisted
  split at persisted
  · split at persisted
    · rename_i finalized
      cases persisted
      exact Or.inl finalized
    · obtain ⟨⟨after, response⟩, marked, result⟩ :=
        Except.bind_eq_ok.mp persisted
      cases result
      exact Or.inr ⟨response, marked⟩
  · obtain ⟨⟨after, response⟩, marked, result⟩ :=
      Except.bind_eq_ok.mp persisted
    cases result
    exact Or.inr ⟨response, marked⟩

namespace MutationTask

variable {task : MutationTask} {store next : Store} {lower upper : Nat}

theorem finalizeUnkeyed_endsOperation
    {reconciliations : List ProviderReconciliation} {nowMs : Int}
    (own : ∀ reconciliation ∈ reconciliations,
      reconciliation.receiptId = task.receiptId ∧
        reconciliation.operationId = task.operationId ∧
        lower ≤ reconciliation.reconciliationId.value ∧
        reconciliation.reconciliationId.value < upper)
    (finalized : task.finalizeUnkeyed store reconciliations nowMs =
      .ok next) :
    ∃ error guard, (guard = none ∨ guard = task.guard) ∧
      Store.EndsOperation store next task.operationId task.receiptId lower
        upper (LogUpdate.ending task.recovery task.operationStatus nowMs error
          guard) := by
  have both : task.recovery = none →
      Store.EndsOperation store
        (finalizeUnkeyed.finalizeBoth task nowMs store) task.operationId
        task.receiptId lower upper
        (LogUpdate.ending task.recovery task.operationStatus nowMs
          task.operationError none) := by
    intro nothing
    rw [nothing]
    exact ⟨rfl, rfl, fun target => Store.get?_finalizeReceipt_isSome ..,
      fun _ => rfl, .of_eq rfl⟩
  unfold finalizeUnkeyed at finalized
  split at finalized
  · rename_i failure failed
    split at finalized
    · exact ⟨_, _, Or.inr rfl,
        Store.finalizePartialOperation_endsOperation own finalized⟩
    · rename_i plain
      cases finalized
      simp only [not_or, Bool.not_eq_true, Option.isSome_eq_false_iff,
        Option.isNone_iff_eq_none] at plain
      exact ⟨_, _, Or.inl rfl, both plain.2.1⟩
  · rename_i succeeded
    cases finalized
    refine ⟨_, _, Or.inl rfl, both ?_⟩
    rw [recovery, succeeded]
    rfl

theorem persistClaimedMutationFinalization_endsOperation
    {topology : ProviderTopology} {mutationId : MutationId} {data : String}
    {own fallback : List ProviderReconciliation} {nowMs : Int}
    {fallbackGuard : Option PostWriteOperationGuard} {persists : Bool}
    {currentItem : Option String} {seeds : List ReconciliationSeed}
    (linked : ∀ row, store.mutationDedup.get? mutationId = some row →
      row.receiptId = some task.receiptId ∧
        row.operationId = some task.operationId)
    (intent : store.recoverySeeds topology currentItem task.recorded.request
      task.operationId = .ok (seeds, fallbackGuard))
    (minted : ∀ reconciliation ∈ own ++ fallback,
      reconciliation.receiptId = task.receiptId ∧
        reconciliation.operationId = task.operationId ∧
        lower ≤ reconciliation.reconciliationId.value ∧
        reconciliation.reconciliationId.value < upper)
    (persisted : persistClaimedMutationFinalization store
      (task.finalization mutationId data own nowMs) fallback fallbackGuard
      persists = .ok next) :
    next = store ∨
      ∃ recovery status error guard,
        task.EndsAs topology store recovery status guard ∧
          Store.EndsOperation store next task.operationId task.receiptId lower
            upper (LogUpdate.ending recovery status nowMs error guard) := by
  rcases persistClaimedMutationFinalization_eq_ok persisted with
    finalized | ⟨response, marked⟩
  · obtain ⟨guard, isOwn, ends⟩ :=
      Store.finalizeClaimedMutation_endsOperation
        (fun reconciliation member => minted reconciliation
          (List.mem_append_left _ member)) finalized
    exact Or.inr ⟨_, _, _, guard, .finalized isOwn, ends⟩
  · have chosen : ∀ reconciliation ∈ (if own.isEmpty then fallback else own),
        reconciliation ∈ own ++ fallback := by
      intro reconciliation member
      split at member
      · exact List.mem_append_right _ member
      · exact List.mem_append_left _ member
    rcases Store.markMutationIndeterminate_endsOperation linked
        (fun reconciliation member =>
          minted reconciliation (chosen reconciliation member))
        marked with ⟨-, same⟩ | ends
    · exact Or.inl same
    · exact Or.inr ⟨_, _, _, _, .indeterminate intent, ends⟩

end MutationTask

namespace MutationSystem

/-- Every claim was minted with its receipt and its operation, and the tasks
with a key act for the operation of their claim. -/
structure Linked (topology : ProviderTopology) (system : MutationSystem) :
    Prop where
  apart : system.TasksApart topology
  consistent : system.store.ClaimsConsistent
  claims : ∀ mutationId row,
    system.store.mutationDedup.get? mutationId = some row →
      ∃ number, number < system.minted ∧ row.receiptId = some ⟨number⟩ ∧
        row.operationId = some ⟨number⟩
  keyed : ∀ task ∈ system.tasks, ∀ mutationId,
    task.mutationId = some mutationId →
      ∃ row, system.store.mutationDedup.get? mutationId = some row ∧
        row.request = task.recorded.request ∧
        row.operationId = some task.operationId
  unkeyed : ∀ task ∈ system.tasks, task.mutationId = none →
    ∀ mutationId row, system.store.mutationDedup.get? mutationId = some row →
      row.operationId ≠ some task.operationId
  reconciliations : system.store.ReconciliationsPaired system.minted

variable {topology : ProviderTopology} {system next : MutationSystem}

/-- The claim of a keyed task names its receipt and its operation. -/
theorem Linked.claim_of_task (linked : system.Linked topology)
    {task : MutationTask} (live : task ∈ system.tasks)
    {mutationId : MutationId} (key : task.mutationId = some mutationId)
    {row : MutationDedupRow}
    (found : system.store.mutationDedup.get? mutationId = some row) :
    row.receiptId = some task.receiptId ∧
      row.operationId = some task.operationId := by
  obtain ⟨claim, isClaim, -, operationEq⟩ := linked.keyed task live _ key
  cases found.symm.trans isClaim
  obtain ⟨number, -, receiptEq, numberEq⟩ := linked.claims _ _ found
  rw [operationEq, Option.some.injEq] at numberEq
  have paired := (linked.apart.wellRun task live).paired
  rw [numberEq] at paired
  refine ⟨?_, operationEq⟩
  rw [receiptEq]
  exact congrArg some (congrArg ReceiptId.mk paired.symm)

theorem materializeSeeds_own {receiptId : ReceiptId} {issuer : OperationId}
    {lower minted upper : Nat} {seeds : List ReconciliationSeed}
    (above : lower ≤ minted)
    (below : minted + (materializeSeeds receiptId issuer minted
      seeds).length ≤ upper) :
    ∀ reconciliation ∈ materializeSeeds receiptId issuer minted seeds,
      reconciliation.receiptId = receiptId ∧
        reconciliation.operationId = issuer ∧
        lower ≤ reconciliation.reconciliationId.value ∧
        reconciliation.reconciliationId.value < upper := by
  intro reconciliation member
  obtain ⟨receiptEq, operationEq, least, bound⟩ := mem_materializeSeeds member
  rw [length_materializeSeeds] at below
  exact ⟨receiptEq, operationEq, by omega, by omega⟩

/-- The seeds and the guard an intent is made of. -/
theorem recoveryReconciliationIntent_eq_ok {store : Store}
    {currentItem : Option String} {request : Request} {receiptId : ReceiptId}
    {issuer : OperationId} {minted : Nat}
    {reconciliations : List ProviderReconciliation}
    {guard : Option PostWriteOperationGuard} :
    store.recoveryReconciliationIntent topology currentItem request receiptId
        issuer minted = .ok (reconciliations, guard) ↔
      ∃ seeds, store.recoverySeeds topology currentItem request issuer =
          .ok (seeds, guard) ∧
        reconciliations = materializeSeeds receiptId issuer minted seeds := by
  unfold Store.recoveryReconciliationIntent
  rw [Except.bind_eq_ok]
  constructor
  · rintro ⟨⟨seeds, found⟩, derived, result⟩
    cases result
    exact ⟨seeds, derived, rfl⟩
  · rintro ⟨seeds, derived, rfl⟩
    exact ⟨(seeds, guard), derived, rfl⟩

/-- The end of a task ends its operation, or leaves everything as it was. -/
theorem finalizedStore_endsOperation (linked : system.Linked topology)
    {task : MutationTask} (live : task ∈ system.tasks) {data : String}
    {persists : Bool} {currentItem : Option String} {nowMs : Int}
    {store : Store} {minted : Nat}
    (finalized : system.finalizedStore topology task data persists currentItem
      nowMs = (store, minted)) :
    store = system.store ∨
      ∃ recovery status error guard,
        task.EndsAs topology system.store recovery status guard ∧
          Store.EndsOperation system.store store task.operationId
            task.receiptId system.minted minted
            (LogUpdate.ending recovery status nowMs error guard) := by
  unfold finalizedStore at finalized
  dsimp only at finalized
  split at finalized
  · split at finalized
    · rename_i ends
      cases finalized
      obtain ⟨error, guard, isOwn, ends⟩ :=
        MutationTask.finalizeUnkeyed_endsOperation
          (materializeSeeds_own (Nat.le_refl _) (Nat.le_refl _)) ends
      exact Or.inr ⟨_, _, error, guard, .finalized isOwn, ends⟩
    · cases finalized
      exact Or.inl rfl
  · rename_i mutationId key
    split at finalized
    · cases finalized
      exact Or.inl rfl
    · rename_i fallback fallbackGuard derived
      obtain ⟨seeds, intent, rfl⟩ :=
        recoveryReconciliationIntent_eq_ok.mp derived
      split at finalized
      · rename_i persisted
        cases finalized
        apply MutationTask.persistClaimedMutationFinalization_endsOperation
          (fun row found => linked.claim_of_task live key found) intent _
          persisted
        intro reconciliation member
        rcases List.mem_append.mp member with isOwn | isFallback
        · exact materializeSeeds_own (Nat.le_refl _) (Nat.le_add_right _ _)
            reconciliation isOwn
        · exact materializeSeeds_own (Nat.le_add_right _ _) (Nat.le_refl _)
            reconciliation isFallback
      · cases finalized
        exact Or.inl rfl

/-- A recovery ends the operation of its claim as indeterminate. -/
theorem recoverProcessingMutationClaim_endsOperation {store next : Store}
    {mutationId : MutationId} {row : MutationDedupRow}
    {claim : ProcessingMutationClaim} {currentItem : Option String}
    {minted : Nat} {nowMs : Int} {response : Response}
    {reconciliations : List ProviderReconciliation}
    (found : store.mutationDedup.get? mutationId = some row)
    (isClaim : row.processingClaim? = some claim)
    (recovered : store.recoverProcessingMutationClaim topology currentItem
      claim minted nowMs = .ok (next, response, reconciliations)) :
    ∃ seeds guard, store.recoverySeeds topology currentItem claim.request
        claim.operationId = .ok (seeds, guard) ∧
      Store.EndsOperation store next claim.operationId claim.receiptId minted
        (minted + reconciliations.length)
        (LogUpdate.ending none .failed nowMs (some indeterminateMessage)
          guard) := by
  obtain ⟨processing, keyEq, -, receiptEq, operationEq⟩ :=
    MutationDedupRow.processingClaim?_eq_some.mp isClaim
  obtain ⟨⟨intent, guard⟩, derived, recovered⟩ := Except.bind_eq_ok.mp recovered
  obtain ⟨seeds, seeded, rfl⟩ := recoveryReconciliationIntent_eq_ok.mp derived
  dsimp only at recovered
  split at recovered
  · cases recovered
  · rename_i after answer marked
    cases recovered
    have isRow : store.mutationDedup.get? claim.mutationId = some row := by
      rw [← keyEq, SqlTable.key_of_get? found]
      exact found
    have below : minted + (materializeSeeds claim.receiptId claim.operationId
        minted seeds).length ≤ minted + ((materializeSeeds claim.receiptId
          claim.operationId minted seeds).map
            ProviderReconciliation.requireStabilityPass).length := by
      rw [List.length_map]
    refine ⟨seeds, guard, seeded, ?_⟩
    have ends := Store.markMutationIndeterminate_endsOperation
      (fun other isOther => by
        cases isRow.symm.trans isOther
        exact ⟨receiptEq, operationEq⟩)
      (fun reconciliation member => by
        obtain ⟨seed, inSeeds, rfl⟩ := List.mem_map.mp member
        exact materializeSeeds_own (Nat.le_refl minted) below seed inSeeds)
      marked
    rcases ends with ⟨idle, -⟩ | ends
    · rw [isRow] at idle
      simp [processing] at idle
    · exact ends

end MutationSystem

theorem LogUpdate.isPending_rowAfter {issuer : OperationId}
    {update : LogUpdate} {row : Operation}
    (unfinished : ∀ status finishedAtMs error,
      update ≠ .finish status finishedAtMs error) :
    (update.rowAfter issuer row).isPending = row.isPending := by
  unfold rowAfter
  split
  · rename_i selected
    obtain ⟨-, guarded⟩ := selected
    cases update with
    | finish status finishedAtMs error =>
      exact absurd rfl (unfinished status finishedAtMs error)
    | undone original =>
      simp_all [guard, change, Operation.isPending]
    | redone original =>
      simp_all [guard, change, Operation.isPending]
    | _ => rfl
  · rfl

theorem LogUpdate.isPending_rowAfterAll {issuer : OperationId}
    {updates : List LogUpdate} {row : Operation}
    (unfinished : ∀ update ∈ updates, ∀ status finishedAtMs error,
      update ≠ .finish status finishedAtMs error) :
    (rowAfterAll issuer row updates).isPending = row.isPending := by
  induction updates generalizing row with
  | nil => rfl
  | cons update rest inductionHypothesis =>
    rw [List.forall_mem_cons] at unfinished
    exact (inductionHypothesis unfinished.2).trans
      (isPending_rowAfter unfinished.1)

/-- The rows of other operations stay pending or stay ended. -/
theorem LogUpdate.isPending_rowAfterAll_of_ne {issuer : OperationId}
    {updates : List LogUpdate} {row : Operation}
    (different : row.operationId ≠ issuer) :
    (rowAfterAll issuer row updates).isPending = row.isPending := by
  induction updates generalizing row with
  | nil => rfl
  | cons update rest inductionHypothesis =>
    have first : (update.rowAfter issuer row).isPending = row.isPending := by
      cases update with
      | finish status finishedAtMs error =>
        rw [rowAfter_of_ne issuer different]
      | _ => exact isPending_rowAfter nofun
    have later := @inductionHypothesis (update.rowAfter issuer row)
    rw [rowAfter_operationId] at later
    exact (later different).trans first

theorem BodyStep.updates_unfinished (step : BodyStep) :
    ∀ update ∈ step.updates, ∀ status finishedAtMs error,
      update ≠ .finish status finishedAtMs error := by
  intro update member
  cases step <;> simp_all [updates]

namespace Store

variable {store next : Store}

/-- A step of a body keeps which operations are pending. -/
theorem operationPending_perform {issuer : OperationId} {step : BodyStep}
    (performed : step.perform issuer store = .ok next)
    (target : OperationId) :
    next.operationPending target = store.operationPending target := by
  obtain ⟨rfl, -⟩ := BodyStep.perform_eq_ok performed
  unfold operationPending
  rw [LogUpdate.get?_applyAll, Option.map_map]
  congr 1
  funext row
  exact LogUpdate.isPending_rowAfterAll step.updates_unfinished

/-- The updates of an operation keep which others are pending. -/
theorem operationPending_applyAll {issuer target : OperationId}
    {updates : List LogUpdate}
    (applied : next.operations =
      LogUpdate.applyAll issuer store.operations updates)
    (different : target ≠ issuer) :
    next.operationPending target = store.operationPending target := by
  unfold Store.operationPending
  rw [applied, LogUpdate.get?_applyAll, Option.map_map]
  cases found : store.operations.get? target with
  | none => rfl
  | some row =>
    have key : row.operationId = target := SqlTable.key_of_get? found
    exact congrArg some
      (LogUpdate.isPending_rowAfterAll_of_ne (key ▸ different))

end Store

namespace MutationTask

variable {task : MutationTask} {store next : Store}

/-- The end of a task without a key touches its own receipt only. -/
theorem finalizeUnkeyed_receipts
    {reconciliations : List ProviderReconciliation} {nowMs : Int}
    (finalized : task.finalizeUnkeyed store reconciliations nowMs = .ok next) :
    next.mutationDedup = store.mutationDedup ∧
      ∀ target, target ≠ task.receiptId →
        next.receiptPending target = store.receiptPending target := by
  have untouched : ∀ {status : ReceiptStatus} {message : String}
      {error : Option ApiErrorSummary} {target : ReceiptId},
      target ≠ task.receiptId →
        (Store.finalizeReceipt store.receipts task.receiptId status message
          nowMs error).get? target = store.receipts.get? target := by
    intro status message error target different
    rw [Store.finalizeReceipt, SqlTable.get?_updateKey]
    simp [different]
  have both : (finalizeUnkeyed.finalizeBoth task nowMs store).mutationDedup =
        store.mutationDedup ∧
      ∀ target, target ≠ task.receiptId →
        (finalizeUnkeyed.finalizeBoth task nowMs store).receiptPending
          target = store.receiptPending target :=
    ⟨rfl, fun target different =>
      congrArg (Option.map ReceiptRow.isPending) (untouched different)⟩
  unfold finalizeUnkeyed at finalized
  split at finalized
  · split at finalized
    · simp only [Store.finalizePartialOperation] at finalized
      split at finalized
      · cases finalized
      · obtain ⟨guarded, guardApplied, inserted⟩ :=
          Except.bind_eq_ok.mp finalized
        obtain ⟨-, rfl⟩ :=
          Store.applyPostWriteOperationGuardTx_eq_ok.mp guardApplied
        obtain ⟨rows, stability, rfl⟩ :=
          Store.insertProviderReconciliations_frame inserted
        exact ⟨rfl, fun target different =>
          congrArg (Option.map ReceiptRow.isPending) (untouched different)⟩
    · cases finalized
      exact both
  · cases finalized
    exact both

theorem operationStatus_ne_pending : task.operationStatus ≠ .pending := by
  unfold operationStatus
  split
  · nofun
  · split
    · nofun
    · nofun

theorem receiptStatus_ne_pending : task.receiptStatus ≠ .pending := by
  unfold receiptStatus
  split
  · nofun
  · nofun

theorem persistClaimedMutationFinalization_consistent
    {mutationId : MutationId} {data : String}
    {own fallback : List ProviderReconciliation} {nowMs : Int}
    {fallbackGuard : Option PostWriteOperationGuard} {persists : Bool}
    (consistent : store.ClaimsConsistent)
    (persisted : persistClaimedMutationFinalization store
      (task.finalization mutationId data own nowMs) fallback fallbackGuard
      persists = .ok next) : next.ClaimsConsistent := by
  rcases persistClaimedMutationFinalization_eq_ok persisted with
    finalized | ⟨response, marked⟩
  · exact (Store.EndsClaimsOnly.of_endsClaim_or_eq consistent
      (Store.finalizeClaimedMutation_eq_ok consistent
        receiptStatus_ne_pending operationStatus_ne_pending
        finalized)).consistent
  · exact (Store.EndsClaimsOnly.of_endsClaim_or_eq consistent
      (Store.markMutationIndeterminate_eq_ok consistent marked)).consistent

end MutationTask

namespace Store

variable {store next : Store}

/-- What is recorded is claimed consistently. -/
theorem recordPending_consistent {mutationId : Option MutationId}
    {fingerprint : String} {request : Request} {receipt : Receipt}
    {operation : Operation} {nowMs : Int} (consistent : store.ClaimsConsistent)
    (pending : operation.status = .pending)
    (free : mutationId.bind store.mutationDedup.get? = none)
    (recorded : store.recordPending mutationId fingerprint request receipt
      operation nowMs = .ok next) : next.ClaimsConsistent := by
  cases mutationId with
  | some mutationId =>
    obtain ⟨⟨claimed, answer⟩, claims, result⟩ :=
      Except.bind_eq_ok.mp recorded
    cases result
    exact claimMutation_free_consistent consistent pending free claims
  | none =>
    obtain ⟨withReceipt, receiptInserted, operationInserted⟩ :=
      Except.bind_eq_ok.mp recorded
    obtain ⟨receipts, insertedReceipt, rfl⟩ :=
      insertReceipt_eq_ok receiptInserted
    obtain ⟨operations, insertedOperation, rfl, -⟩ :=
      insertOperation_eq_ok operationInserted
    have receiptFree := (SqlTable.insert?_eq_some.mp insertedReceipt).1
    have operationFree := (SqlTable.insert?_eq_some.mp insertedOperation).1
    refine consistent.of_claimed_rows ?_ ?_ ?_
    · rfl
    · intro mutationId row target found receiptEq
      obtain ⟨receiptId, same, isPending⟩ :=
        (consistent.movesTogether mutationId row found).receiptLinked
      cases receiptEq.symm.trans same
      unfold receiptPending at isPending ⊢
      rw [SqlTable.get?_insert insertedReceipt, if_neg]
      rintro rfl
      rw [receiptFree] at isPending
      cases isPending
    · intro mutationId row target found operationEq
      obtain ⟨operationId, same, isPending⟩ :=
        (consistent.movesTogether mutationId row found).operationLinked
      cases operationEq.symm.trans same
      unfold operationPending at isPending ⊢
      rw [SqlTable.get?_insert insertedOperation, if_neg]
      rintro rfl
      rw [operationFree] at isPending
      cases isPending

end Store

namespace MutationSystem

variable {topology : ProviderTopology} {system next : MutationSystem}

theorem finalizedStore_consistent (linked : system.Linked topology)
    {task : MutationTask} (live : task ∈ system.tasks) {data : String}
    {persists : Bool} {currentItem : Option String} {nowMs : Int}
    {store : Store} {minted : Nat}
    (finalized : system.finalizedStore topology task data persists currentItem
      nowMs = (store, minted)) : store.ClaimsConsistent := by
  rcases finalizedStore_endsOperation linked live finalized with
    rfl | ⟨recovery, status, error, guard, -, ends⟩
  · exact linked.consistent
  · unfold finalizedStore at finalized
    dsimp only at finalized
    split at finalized
    · rename_i unkeyed
      split at finalized
      · rename_i finalizedTask
        cases finalized
        obtain ⟨sameClaims, sameReceipts⟩ :=
          MutationTask.finalizeUnkeyed_receipts finalizedTask
        have apart := linked.unkeyed task live unkeyed
        apply linked.consistent.of_claimed_rows sameClaims
        · intro mutationId row target found receiptEq
          apply sameReceipts
          rintro rfl
          obtain ⟨number, -, numbered, operationEq⟩ :=
            linked.claims mutationId row found
          rw [receiptEq, Option.some.injEq] at numbered
          have paired := (linked.apart.wellRun task live).paired
          rw [numbered] at paired
          apply apart mutationId row found
          rw [operationEq]
          exact congrArg some (congrArg OperationId.mk paired)
        · intro mutationId row target found operationEq
          apply Store.operationPending_applyAll ends.operations
          rintro rfl
          exact apart mutationId row found operationEq
      · cases finalized
        exact linked.consistent
    · split at finalized
      · cases finalized
        exact linked.consistent
      · split at finalized
        · rename_i persisted
          cases finalized
          exact MutationTask.persistClaimedMutationFinalization_consistent
            linked.consistent persisted
        · cases finalized
          exact linked.consistent

theorem recoverProcessingMutationClaim_consistent {store after : Store}
    {currentItem : Option String} {claim : ProcessingMutationClaim}
    {minted : Nat} {nowMs : Int} {response : Response}
    {reconciliations : List ProviderReconciliation}
    (consistent : store.ClaimsConsistent)
    (recovered : store.recoverProcessingMutationClaim topology currentItem
      claim minted nowMs = .ok (after, response, reconciliations)) :
    after.ClaimsConsistent := by
  obtain ⟨⟨intent, guard⟩, -, recovered⟩ := Except.bind_eq_ok.mp recovered
  dsimp only at recovered
  split at recovered
  · cases recovered
  · rename_i marked
    cases recovered
    exact (Store.EndsClaimsOnly.of_endsClaim_or_eq consistent
      (Store.markMutationIndeterminate_eq_ok consistent marked)).consistent

/-- The links only depend on what the claims are bound to. -/
theorem Linked.of_bindings (linked : system.Linked topology)
    (apart : next.TasksApart topology)
    (consistent : next.store.ClaimsConsistent)
    (bindings : ∀ mutationId,
      (next.store.mutationDedup.get? mutationId).map
          MutationDedupRow.claimBinding =
        (system.store.mutationDedup.get? mutationId).map
          MutationDedupRow.claimBinding)
    (le : system.minted ≤ next.minted)
    (tasks : ∀ task ∈ next.tasks, ∃ before ∈ system.tasks,
      task.mutationId = before.mutationId ∧
        task.operationId = before.operationId ∧
        task.recorded = before.recorded)
    (reconciliations : next.store.ReconciliationsPaired next.minted) :
    next.Linked topology := by
  have claimBefore : ∀ mutationId row,
      next.store.mutationDedup.get? mutationId = some row →
        ∃ before, system.store.mutationDedup.get? mutationId = some before ∧
          before.claimBinding = row.claimBinding := by
    intro mutationId row found
    have same := bindings mutationId
    rw [found, Option.map_some, eq_comm, Option.map_eq_some_iff] at same
    exact same
  refine ⟨apart, consistent, ?_, ?_, ?_, reconciliations⟩
  · intro mutationId row found
    obtain ⟨before, isBefore, same⟩ := claimBefore mutationId row found
    simp only [MutationDedupRow.claimBinding, Prod.mk.injEq] at same
    obtain ⟨number, bound, receiptEq, operationEq⟩ :=
      linked.claims mutationId before isBefore
    exact ⟨number, Nat.lt_of_lt_of_le bound le,
      same.2.1.symm.trans receiptEq, same.2.2.symm.trans operationEq⟩
  · intro task live mutationId key
    obtain ⟨before, wasLive, sameKey, sameOperation, sameRecorded⟩ :=
      tasks task live
    obtain ⟨row, found, requestEq, operationEq⟩ :=
      linked.keyed before wasLive mutationId (sameKey.symm.trans key)
    have same := bindings mutationId
    rw [found, Option.map_some, Option.map_eq_some_iff] at same
    obtain ⟨after, isAfter, same⟩ := same
    simp only [MutationDedupRow.claimBinding, Prod.mk.injEq] at same
    refine ⟨after, isAfter, ?_, ?_⟩
    · rw [same.1, requestEq, sameRecorded]
    · rw [same.2.2, operationEq, sameOperation]
  · intro task live unkeyed mutationId row found
    obtain ⟨before, wasLive, sameKey, sameOperation, -⟩ := tasks task live
    obtain ⟨claim, isClaim, same⟩ := claimBefore mutationId row found
    simp only [MutationDedupRow.claimBinding, Prod.mk.injEq] at same
    rw [← same.2.2, sameOperation]
    exact linked.unkeyed before wasLive (sameKey.symm.trans unkeyed)
      mutationId claim isClaim

theorem Linked.initial : Linked topology MutationSystem.initial where
  apart := ⟨List.nodup_nil, fun _ live => absurd live List.not_mem_nil⟩
  consistent := .of_empty rfl
  claims mutationId row found := by
    rw [MutationSystem.initial] at found
    cases found
  keyed _ live := absurd live List.not_mem_nil
  unkeyed _ live := absurd live List.not_mem_nil
  reconciliations row member := absurd member List.not_mem_nil

theorem Linked.starts (linked : system.Linked topology)
    {mutationId : Option MutationId} {fingerprint : String}
    {recorded : RecordedMutation} {source : OperationSource} {nowMs : Int}
    {store : Store}
    (apart : (system.started mutationId recorded store).TasksApart topology)
    (free : mutationId.bind system.store.mutationDedup.get? = none)
    (pending : system.store.recordPending mutationId fingerprint
      recorded.request (recorded.pendingReceipt ⟨system.minted⟩ nowMs)
      (recorded.pendingOperation ⟨system.minted⟩ ⟨system.minted⟩ source
        nowMs) nowMs = .ok store) :
    (system.started mutationId recorded store).Linked topology := by
  have consistent :=
    Store.recordPending_consistent linked.consistent rfl free pending
  obtain ⟨receipts, operations, mutationDedup, rfl, -, -, reads⟩ :=
    Store.recordPending_eq_ok free pending
  refine ⟨apart, consistent, ?_, ?_, ?_, ?_⟩
  · intro other row found
    have found := (reads other).symm.trans found
    split at found
    · cases found
      exact ⟨system.minted, Nat.lt_succ_self _, rfl, rfl⟩
    · obtain ⟨number, bound, ids⟩ := linked.claims other row found
      exact ⟨number, Nat.lt_succ_of_lt bound, ids⟩
  · intro task live other key
    rcases List.mem_append.mp live with old | isNew
    · obtain ⟨row, found, names⟩ := linked.keyed task old other key
      refine ⟨row, (reads other).trans ?_, names⟩
      rw [if_neg, found]
      rintro rfl
      rw [Option.bind_some, found] at free
      cases free
    · cases List.mem_singleton.mp isNew
      refine ⟨_, (reads other).trans (if_pos key), rfl, rfl⟩
  · intro task live unkeyed other row found
    have found := (reads other).symm.trans found
    rcases List.mem_append.mp live with old | isNew
    · split at found
      · cases found
        intro same
        have bound := (linked.apart.wellRun task old).minted
        rw [← Option.some.inj same] at bound
        exact Nat.lt_irrefl _ bound
      · exact linked.unkeyed task old unkeyed other row found
    · cases List.mem_singleton.mp isNew
      rw [if_neg] at found
      · obtain ⟨number, bound, -, operationEq⟩ := linked.claims other row found
        rw [operationEq]
        intro same
        cases same
        exact Nat.lt_irrefl _ bound
      · intro keyed
        rw [show mutationId = none from unkeyed] at keyed
        cases keyed
  · intro row member
    obtain ⟨bound, paired⟩ := linked.reconciliations row member
    exact ⟨Nat.lt_succ_of_lt bound, paired⟩

theorem Linked.step (linked : system.Linked topology)
    (steps : Steps topology system next) : next.Linked topology := by
  have apart := linked.apart.step steps
  cases steps with
  | starts lane free records pending => exact linked.starts apart free pending
  | performs live running isNext maySucceed performs =>
    have operations := Store.operationPending_perform performs
    obtain ⟨rfl, -⟩ := BodyStep.perform_eq_ok performs
    apply linked.of_bindings apart _ (fun _ => rfl) (Nat.le_refl _) _
      linked.reconciliations
    · exact linked.consistent.of_same_rows rfl (fun _ => rfl) operations
    · intro updated member
      rcases linked.apart.of_mem_updateTask live member with rfl | ⟨old, -⟩
      · exact ⟨_, live, rfl, rfl, rfl⟩
      · exact ⟨_, old, rfl, rfl, rfl⟩
  | fails live running isNext carries =>
    apply linked.of_bindings apart linked.consistent (fun _ => rfl)
      (Nat.le_refl _) _ linked.reconciliations
    intro updated member
    rcases linked.apart.of_mem_updateTask live member with rfl | ⟨old, -⟩
    · exact ⟨_, live, rfl, rfl, rfl⟩
    · exact ⟨_, old, rfl, rfl, rfl⟩
  | finalizes live finished finalized =>
    have le := le_finalizedStore_minted finalized
    have consistent := finalizedStore_consistent linked live finalized
    have closes := finalizedStore_endsOperation linked live finalized
    refine linked.of_bindings apart consistent ?_ le ?_ ?_
    · rcases closes with rfl | ⟨recovery, status, error, guard, -, ends⟩
      · exact fun _ => rfl
      · exact ends.claims
    · intro other member
      exact ⟨other, (mem_otherTasks.mp member).1, rfl, rfl, rfl⟩
    · rcases closes with rfl | ⟨recovery, status, error, guard, -, ends⟩
      · intro row member
        obtain ⟨bound, paired⟩ := linked.reconciliations row member
        exact ⟨Nat.lt_of_lt_of_le bound le, paired⟩
      · exact linked.reconciliations.grow le
          (linked.apart.wellRun _ live).paired ends.reconciliations
  | drops operationId =>
    apply linked.of_bindings apart linked.consistent (fun _ => rfl)
      (Nat.le_refl _) _ linked.reconciliations
    intro other member
    exact ⟨other, (mem_otherTasks.mp member).1, rfl, rfl, rfl⟩
  | crashes =>
    exact linked.of_bindings apart linked.consistent (fun _ => rfl)
      (Nat.le_refl _) (fun _ live => absurd live List.not_mem_nil)
      linked.reconciliations
  | recovers found isClaim notLive recovered =>
    obtain ⟨seeds, guard, -, ends⟩ :=
      recoverProcessingMutationClaim_endsOperation found isClaim recovered
    refine linked.of_bindings apart ?_ ends.claims (Nat.le_add_right _ _)
      (fun task live => ⟨task, live, rfl, rfl, rfl⟩) ?_
    · exact recoverProcessingMutationClaim_consistent linked.consistent
        recovered
    · obtain ⟨-, -, -, receiptEq, operationEq⟩ :=
        MutationDedupRow.processingClaim?_eq_some.mp isClaim
      obtain ⟨number, -, receiptNumber, operationNumber⟩ :=
        linked.claims _ _ found
      apply linked.reconciliations.grow (Nat.le_add_right _ _) _
        ends.reconciliations
      rw [← Option.some.inj (receiptNumber.symm.trans receiptEq),
        ← Option.some.inj (operationNumber.symm.trans operationEq)]

theorem Linked.of_reachable (reachable : Reachable topology system) :
    system.Linked topology :=
  reachable.invariant Linked.initial fun _ _ linked steps => linked.step steps

end MutationSystem

end Spotuify
