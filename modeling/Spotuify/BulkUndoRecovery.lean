import Spotuify.BulkUndoOrder

/-!
# What a crashed bulk undo leaves of its members

The recovery of a bulk undo disables the first member that the undo did not
mark.  As the members are undone in order, this is the only one whose reversal
may have been sent without being marked.
-/

namespace Spotuify

namespace LogUpdate

variable {issuer : OperationId} {row : Operation} {nowMs : Int}
  {error : Option String} {guard : Option PostWriteOperationGuard}

/-- The end of another operation leaves a row alone, but for the one its guard
disables. -/
theorem rowAfterAll_failed_of_ended (ended : row.status ≠ .pending)
    (disables : ∀ derived ∈ guard, ∃ original,
      derived = .disableUndo original) :
    rowAfterAll issuer row (ending none .failed nowMs error guard) =
      if guard = some (.disableUndo row.operationId) then
        { row with
          reversible := false,
          reversalPlan := some (.notReversible Store.partialReversalReason) }
      else row := by
  have refused : row.isPending = false := by
    simp [Operation.isPending, ended]
  have finished :
      (finish .failed nowMs error).rowAfter issuer row = row :=
    rowAfter_of_refused issuer refused
  have split : rowAfterAll issuer row
      (ending none .failed nowMs error guard) =
        rowAfterAll issuer ((finish .failed nowMs error).rowAfter issuer row)
          (guard.map ofGuard).toList := rfl
  rw [split, finished]
  cases guard with
  | none => simp [rowAfterAll]
  | some derived =>
    obtain ⟨original, rfl⟩ := disables derived rfl
    simp [ofGuard, rowAfterAll, rowAfter, target, LogUpdate.guard, change,
      eq_comm]

end LogUpdate

namespace MutationSystem

variable {topology : ProviderTopology} {system : MutationSystem}

/-- A member that was sent but is not marked is the first that is not
marked. -/
theorem UndoesInOrder.find?_of_sent (order : UndoesInOrder topology system)
    {outer member : OperationId} {row : Operation}
    (inMembers : member ∈
      bulkMembers system.store.bulkUndoCandidates outer)
    (inSent : (outer, member) ∈ system.reversalsSent)
    (found : system.store.operations.get? member = some row)
    (unmarked : row.undoneByOpId ≠ some outer) :
    (system.store.operationsForBulkUndoRecovery outer).find? (fun other =>
      other.undoneByOpId ≠ some outer) = some row := by
  obtain ⟨earlier, later, split⟩ := List.append_of_mem inMembers
  have marked := order.order outer earlier member later split inSent
  rw [Store.operationsForBulkUndoRecovery_eq, split, List.filterMap_append,
    List.filterMap_cons, found, List.find?_append]
  have nothing : (earlier.filterMap system.store.operations.get?).find?
      (fun other => other.undoneByOpId ≠ some outer) = none := by
    rw [List.find?_eq_none]
    intro other isOther
    obtain ⟨before, isEarlier, isRow⟩ := List.mem_filterMap.mp isOther
    obtain ⟨markedRow, isMarked, undone⟩ := marked before isEarlier
    rw [isRow, Option.some.injEq] at isMarked
    subst isMarked
    simpa using undone
  rw [nothing, Option.none_or]
  simp [unmarked]

end MutationSystem

/-- The operation of a claim that is processing is pending. -/
theorem MutationSystem.Linked.pending_of_claim {topology : ProviderTopology}
    {system : MutationSystem} (linked : system.Linked topology)
    {mutationId : MutationId} {row : MutationDedupRow}
    {claim : ProcessingMutationClaim}
    (found : system.store.mutationDedup.get? mutationId = some row)
    (isClaim : row.processingClaim? = some claim) :
    ∃ operation, system.store.operations.get? claim.operationId =
      some operation ∧ operation.status = .pending := by
  obtain ⟨processing, -, -, -, operationEq⟩ :=
    MutationDedupRow.processingClaim?_eq_some.mp isClaim
  obtain ⟨-, ⟨operationId, sameOperation, operationPending⟩, -⟩ :=
    linked.consistent.movesTogether mutationId row found
  cases operationEq.symm.trans sameOperation
  rw [processing] at operationPending
  obtain ⟨operation, isOperation, pending⟩ :=
    Option.map_eq_some_iff.mp operationPending
  exact ⟨operation, isOperation, Operation.isPending_eq_true.mp pending⟩

/-- An operation that undo no longer offers, because it was undone, redone after
`outer` had undone it, or disabled. -/
def Operation.IsReversed (operation : Operation) (outer : OperationId) : Prop :=
  operation.status = .undone ∨
    (operation.status = .redone ∧ operation.undoneByOpId = some outer) ∨
    operation.reversible = false

/-- After the recovery of a bulk undo every member that it sent is reversed,
and every other one but the first is still offered, unless another undo that
names it undid or disabled it. -/
theorem MutationSystem.bulkRecovery_reverses_sent {topology : ProviderTopology}
    {system : MutationSystem} (reachable : Reachable topology system)
    {mutationId : MutationId} {row : MutationDedupRow}
    {claim : ProcessingMutationClaim}
    (found : system.store.mutationDedup.get? mutationId = some row)
    (isClaim : row.processingClaim? = some claim)
    {requested : Option OperationId} {dryRun force : Bool} {sinceMs : Int}
    (isBulk : claim.request = .opsUndo requested dryRun force (some sinceMs))
    {currentItem : Option String} {nowMs : Int} {next : Store}
    {response : Response} {reconciliations : List ProviderReconciliation}
    (recovered : system.store.recoverProcessingMutationClaim topology
      currentItem claim system.minted nowMs =
        .ok (next, response, reconciliations)) :
    (∀ member ∈
        bulkMembers system.store.bulkUndoCandidates claim.operationId,
      (claim.operationId, member) ∈ system.reversalsSent →
        ∃ after, next.operations.get? member = some after ∧
          after.IsReversed claim.operationId) ∧
      ∃ inFlight : Option OperationId, ∀ member ∈
          bulkMembers system.store.bulkUndoCandidates claim.operationId,
        (claim.operationId, member) ∉ system.reversalsSent →
          inFlight ≠ some member →
            ∃ after, next.operations.get? member = some after ∧
              (after.isOffered = true ∨
                ∃ other, other ≠ claim.operationId ∧
                  (other, member) ∈ system.undoTargets ∧
                    (after.undoneByOpId = some other ∨
                      (after.reversible = false ∧ next.IsOver other))) := by
  have order := UndoesInOrder.of_reachable reachable
  obtain ⟨seeds, guard, intent, ends⟩ :=
    recoverProcessingMutationClaim_endsOperation found isClaim recovered
  rw [isBulk] at intent
  have isGuard := Store.guard_of_bulkRecovery intent
  have disables : ∀ derived ∈ guard, ∃ original,
      derived = .disableUndo original := by
    intro derived isDerived
    rw [isGuard] at isDerived
    obtain ⟨member, -, rfl⟩ := Option.map_eq_some_iff.mp isDerived
    exact ⟨_, rfl⟩
  have after : ∀ member before,
      system.store.operations.get? member = some before →
        before.status ≠ .pending →
          next.operations.get? member = some
            (if guard = some (.disableUndo member) then
              { before with
                reversible := false,
                reversalPlan :=
                  some (.notReversible Store.partialReversalReason) }
            else before) := by
    intro member before isRow ended
    rw [ends.operations, LogUpdate.get?_applyAll, isRow, Option.map_some,
      LogUpdate.rowAfterAll_failed_of_ended ended disables,
      SqlTable.key_of_get? isRow]
  constructor
  · intro member inMembers inSent
    obtain ⟨before, isRow, ended, -⟩ :=
      order.offered claim.operationId member inMembers
    refine ⟨_, after member before isRow ended, ?_⟩
    by_cases marked : before.undoneByOpId = some claim.operationId
    · obtain ⟨-, status⟩ := order.undone member before _ isRow marked
      split
      · exact Or.inr (Or.inr rfl)
      · rcases status with undone | redone
        · exact Or.inl undone
        · exact Or.inr (Or.inl ⟨redone, marked⟩)
    · rw [if_pos]
      · exact Or.inr (Or.inr rfl)
      · rw [isGuard, order.find?_of_sent inMembers inSent isRow marked,
          Option.map_some, SqlTable.key_of_get? isRow]
  · refine ⟨((system.store.operationsForBulkUndoRecovery
      claim.operationId).find? fun member =>
        member.undoneByOpId ≠ some claim.operationId).map
          Operation.operationId, ?_⟩
    intro member inMembers unsent notInFlight
    obtain ⟨before, isRow, ended, holds⟩ :=
      order.offered claim.operationId member inMembers
    have unguarded : guard ≠ some (.disableUndo member) := by
      intro same
      rw [isGuard, Option.map_eq_some_iff] at same
      obtain ⟨first, isFirst, same⟩ := same
      cases same
      exact notInFlight (by rw [isFirst, Option.map_some])
    have unchanged := after member before isRow ended
    rw [if_neg unguarded] at unchanged
    refine ⟨before, unchanged, holds.imp id ?_⟩
    rintro ⟨other, isTarget, undone | ⟨disabled, hasEnded⟩⟩
    · refine ⟨other, ?_, isTarget, Or.inl undone⟩
      rintro rfl
      exact unsent (order.undone member before _ isRow undone).1
    · refine ⟨other, ?_, isTarget, Or.inr ⟨disabled, ?_⟩⟩
      · rintro rfl
        obtain ⟨operation, isOperation, pending⟩ :=
          order.recoverable.linked.pending_of_claim found isClaim
        exact hasEnded operation isOperation pending
      · intro later isLater
        rw [ends.operations] at isLater
        obtain ⟨earlier, isEarlier, rfl⟩ :=
          (LogUpdate.get?_applyAll_eq_some _).mp isLater
        exact LogUpdate.ended_rowAfterAll (hasEnded earlier isEarlier)

/-- Three tracks are unsaved. -/
def threeUnsaves : List SystemAction :=
  twoUnsaves ++
    uninterrupted ⟨2⟩ (.libraryUnsave "fake:track:three") idleReads 1 2

/-- The daemon crashes after some steps of an undo of the three. -/
def crashedBulkUndo (steps : Nat) : List SystemAction :=
  threeUnsaves ++
    .start (some ⟨0⟩) "" (.opsUndo none false false (some 0))
        { idleReads with selected := [⟨2⟩, ⟨1⟩, ⟨0⟩] } .cli 3 ::
      (List.replicate steps (.advance ⟨3⟩ .succeeds) ++ [.crash])

/-- The daemon crashes while the reversal of the first member is under way. -/
theorem MutationSystem.bulkRecovery_reverses_unsave :
    ∃ system, Reachable fakeTopology system ∧
      ∃ row ∈ system.store.mutationDedup.rows, ∃ claim,
        row.processingClaim? = some claim ∧
          (claim.operationId, ⟨2⟩) ∈ system.reversalsSent ∧
          ∃ next response reconciliations,
            system.store.recoverProcessingMutationClaim fakeTopology none claim
                system.minted 4 = .ok (next, response, reconciliations) ∧
              ∃ after, next.operations.get? ⟨2⟩ = some after ∧
                after.IsReversed claim.operationId := by
  have runs : ((machine fakeTopology).run initial (crashedBulkUndo 3)).any
      (fun system => system.store.mutationDedup.rows.any fun row =>
        row.processingClaim?.any fun claim =>
          claim.request = .opsUndo none false false (some 0) &&
          (claim.operationId, ⟨2⟩) ∈ system.reversalsSent &&
          ⟨2⟩ ∈ bulkMembers system.store.bulkUndoCandidates
            claim.operationId &&
          (system.store.recoverProcessingMutationClaim fakeTopology none claim
            system.minted 4).isOk) = true := by
    decide +kernel
  obtain ⟨system, runs, holds⟩ := (Option.any_eq_true _ _).mp runs
  obtain ⟨row, member, isClaim⟩ := List.any_eq_true.mp holds
  obtain ⟨claim, isClaim, holds⟩ := (Option.any_eq_true _ _).mp isClaim
  simp only [Bool.and_eq_true, decide_eq_true_eq] at holds
  obtain ⟨⟨⟨isBulk, inSent⟩, inMembers⟩, recovers⟩ := holds
  have reachable : Reachable fakeTopology system := ⟨initial, _, rfl, runs⟩
  cases recovered : system.store.recoverProcessingMutationClaim fakeTopology
      none claim system.minted 4 with
  | error failure =>
    rw [recovered] at recovers
    cases recovers
  | ok outcome =>
    obtain ⟨next, response, reconciliations⟩ := outcome
    exact ⟨system, reachable, row, member, claim, isClaim, inSent, next,
      response, reconciliations, recovered,
      (bulkRecovery_reverses_sent reachable
        (SqlTable.get?_eq_some.mpr ⟨member, rfl⟩) isClaim isBulk
        recovered).1 ⟨2⟩ inMembers inSent⟩

/-- The daemon crashes after the first member of an undo.  Before the undo is
recovered, that member is redone, and an undo of the last member is dropped and
recovered.  The recovery leaves the first member reversible, and both of the
members that were never sent disabled. -/
theorem MutationSystem.bulkRecovery_redone_and_disabled :
    ∃ system, Reachable fakeTopology system ∧
      ∃ row ∈ system.store.mutationDedup.rows, ∃ claim,
        row.processingClaim? = some claim ∧
          claim.request = .opsUndo none false false (some 0) ∧
          bulkMembers system.store.bulkUndoCandidates claim.operationId =
            [⟨2⟩, ⟨1⟩, ⟨0⟩] ∧
          (claim.operationId, ⟨2⟩) ∈ system.reversalsSent ∧
          (∀ issuer, (issuer, ⟨1⟩) ∉ system.reversalsSent) ∧
          (∀ issuer, (issuer, ⟨0⟩) ∉ system.reversalsSent) ∧
          ∃ next response reconciliations,
            system.store.recoverProcessingMutationClaim fakeTopology none claim
                system.minted 7 = .ok (next, response, reconciliations) ∧
              (∃ after, next.operations.get? ⟨2⟩ = some after ∧
                after.status = .redone ∧ after.reversible = true) ∧
              (∃ after, next.operations.get? ⟨1⟩ = some after ∧
                after.reversible = false) ∧
              ∃ after, next.operations.get? ⟨0⟩ = some after ∧
                after.reversible = false := by
  have runs : ((machine fakeTopology).run initial (crashedBulkUndo 5 ++
      (uninterrupted ⟨4⟩ (.opsRedo (some ⟨2⟩))
        { idleReads with selected := [⟨2⟩] } 4 4 ++
        [.start (some ⟨1⟩) "" (.opsUndo (some ⟨0⟩) false false none)
          { idleReads with selected := [⟨0⟩] } .cli 5, .drop ⟨5⟩,
          .recover ⟨1⟩ none 6]))).any
      (fun system => system.store.mutationDedup.rows.any fun row =>
        row.processingClaim?.any fun claim =>
          claim.request = .opsUndo none false false (some 0) &&
          bulkMembers system.store.bulkUndoCandidates claim.operationId =
            [⟨2⟩, ⟨1⟩, ⟨0⟩] &&
          system.reversalsSent = [(claim.operationId, ⟨2⟩)] &&
          match system.store.recoverProcessingMutationClaim fakeTopology none
            claim system.minted 7 with
          | .ok (next, _) =>
            (next.operations.get? ⟨2⟩).any (fun after =>
              after.status = .redone && after.reversible) &&
            (next.operations.get? ⟨1⟩).any (fun after => !after.reversible) &&
            (next.operations.get? ⟨0⟩).any (fun after => !after.reversible)
          | .error _ => false) = true := by
    decide +kernel
  obtain ⟨system, runs, holds⟩ := (Option.any_eq_true _ _).mp runs
  obtain ⟨row, member, isClaim⟩ := List.any_eq_true.mp holds
  obtain ⟨claim, isClaim, holds⟩ := (Option.any_eq_true _ _).mp isClaim
  obtain ⟨holds, recovers⟩ := Bool.and_eq_true_iff.mp holds
  simp only [Bool.and_eq_true, decide_eq_true_eq] at holds
  obtain ⟨⟨isBulk, members⟩, sent⟩ := holds
  refine ⟨system, ⟨initial, _, rfl, runs⟩, row, member, claim, isClaim, isBulk,
    members, by simp [sent], by simp [sent], by simp [sent], ?_⟩
  split at recovers
  · rename_i next rest recovered
    obtain ⟨response, reconciliations⟩ := rest
    simp only [Bool.and_eq_true, Option.any_eq_true, decide_eq_true_eq,
      Bool.not_eq_true'] at recovers
    exact ⟨next, response, reconciliations, recovered, recovers.1.1,
      recovers.1.2, recovers.2⟩
  · cases recovers

end Spotuify
