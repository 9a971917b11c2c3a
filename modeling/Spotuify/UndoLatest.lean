import Spotuify.UndoSteps
import Mathlib.Data.List.MinMax

/-!
# Undoing the latest operation again and again

A request to undo the latest operation records an operation of its own, and
that operation is offered to the next such request.  Successive requests are
run here from their start to their end with a provider that confirms every
call: the first undoes what was selected, and none after it does.
-/

namespace Spotuify

/-- A request to undo the latest operation: how it arrives, what its handler
reads, and how its finalization goes. -/
structure UndoCall where
  mutationId : Option MutationId
  fingerprint : String
  force : Bool
  reads : HandlerReads
  source : OperationSource
  nowMs : Int
  data : String
  persists : Bool
  currentItem : Option String
  finishedAtMs : Int

namespace UndoCall

def request (call : UndoCall) : Request :=
  .opsUndo none false call.force none

/-- The request arrives under a new key and not before what is logged. -/
def Arrives (call : UndoCall) (store : Store) : Prop :=
  call.mutationId.bind store.mutationDedup.get? = none ∧
    ∀ operation ∈ store.operations.rows,
      operation.occurredAtMs ≤ call.nowMs

/-- The request runs from its start to its end, and nothing it calls fails. -/
def actions (call : UndoCall) (issuer selected : OperationId) :
    List SystemAction :=
  .start call.mutationId call.fingerprint call.request
      { call.reads with selected := [selected] } call.source call.nowMs ::
    (List.replicate 5 (.advance issuer .succeeds) ++
      [.finalize issuer call.data call.persists call.currentItem
        call.finishedAtMs])

end UndoCall

namespace MutationSystem

end MutationSystem

/-- The stored operations and receipts were minted. -/
structure Store.RowsMinted (store : Store) (minted : Nat) : Prop where
  operations : ∀ target, (store.operations.get? target).isSome = true →
    target.value < minted
  receipts : ∀ target, (store.receipts.get? target).isSome = true →
    target.value < minted

namespace Store

variable {store next : Store} {minted later : Nat}

/-- Nothing is stored under the next id. -/
theorem RowsMinted.free (rows : store.RowsMinted minted) :
    store.operations.get? ⟨minted⟩ = none ∧
      store.receipts.get? ⟨minted⟩ = none := by
  constructor
  · by_contra taken
    exact Nat.lt_irrefl _ (rows.operations ⟨minted⟩
      (Option.isSome_iff_ne_none.mpr taken))
  · by_contra taken
    exact Nat.lt_irrefl _ (rows.receipts ⟨minted⟩
      (Option.isSome_iff_ne_none.mpr taken))

end Store

namespace MutationSystem

variable {topology : ProviderTopology} {system next : MutationSystem}

/-- What a request for the latest operation leaves of the log: the row it
inserted and the updates it issued, and without a key nothing fails to be
persisted. -/
structure LeavesUndone (system next : MutationSystem) (call : UndoCall)
    (selected : Operation) (operations : OperationTable)
    (ending : List LogUpdate) : Prop where
  inserted : system.store.operations.insert?
      ((recordUndo call.request selected).pendingOperation ⟨system.minted⟩
        ⟨system.minted⟩ call.source call.nowMs) = some operations
  updated : next.store.operations = LogUpdate.applyAll ⟨system.minted⟩
    operations ([.subject selected.operationId,
      .undone selected.operationId] ++ ending)
  marksNothing : ∀ original, .undone original ∉ ending
  persisted : call.mutationId = none →
    ∃ error, ending = [.finish .succeeded call.finishedAtMs error]

section

variable {call : UndoCall} {selected : Operation}
  {operations : OperationTable} {ending : List LogUpdate}

theorem older_of_stored (rows : system.store.RowsMinted system.minted)
    {operation : Operation}
    (member : operation ∈ system.store.operations.rows) :
    operation.operationId ≠ ⟨system.minted⟩ := by
  intro same
  have minted := rows.operations operation.operationId (by
    rw [SqlTable.get?_eq_some.mpr ⟨member, rfl⟩]
    rfl)
  rw [same] at minted
  exact Nat.lt_irrefl _ minted

/-- The selected row is marked as undone by the request. -/
theorem LeavesUndone.marks
    (leaves : system.LeavesUndone next call selected operations ending)
    (rows : system.store.RowsMinted system.minted)
    (isLast : system.store.operations.IsLastReversibleOperation selected) :
    ∃ after, next.store.operations.get? selected.operationId = some after ∧
      after.undoneByOpId = some ⟨system.minted⟩ := by
  have older := older_of_stored rows isLast.1
  have stored : operations.get? selected.operationId = some selected := by
    rw [SqlTable.get?_insert leaves.inserted]
    exact (if_neg older).trans (SqlTable.get?_eq_some.mpr ⟨isLast.1, rfl⟩)
  have succeeded := (Operation.isOffered_eq_true.mp isLast.2.1).2
  rw [leaves.updated, LogUpdate.get?_applyAll, stored, Option.map_some,
    LogUpdate.rowAfterAll_append]
  refine ⟨_, rfl, ?_⟩
  apply @LogUpdate.rowAfterAll_induction _
    (fun row => row.undoneByOpId = some ⟨system.minted⟩)
  · intro update member row marked
    unfold LogUpdate.rowAfter
    split
    · cases update with
      | undone original => exact absurd member (leaves.marksNothing original)
      | _ => exact marked
    · exact marked
  · have linked : LogUpdate.rowAfter ⟨system.minted⟩
        (.subject selected.operationId) selected = selected :=
      LogUpdate.rowAfter_of_ne ⟨system.minted⟩ older
    rw [LogUpdate.rowAfterAll, linked]
    simp [LogUpdate.rowAfterAll, LogUpdate.rowAfter, LogUpdate.target,
      LogUpdate.guard, LogUpdate.change, succeeded]

/-- The own row of a request without a key is offered to the next one, and
cannot be undone. -/
theorem LeavesUndone.selectsOwn
    (leaves : system.LeavesUndone next call selected operations ending)
    (rows : system.store.RowsMinted system.minted)
    (isLast : system.store.operations.IsLastReversibleOperation selected)
    (arrives : call.Arrives system.store) (unkeyed : call.mutationId = none) :
    ∃ own, next.store.operations.IsLastReversibleOperation own ∧
      ¬own.IsUndoable := by
  obtain ⟨error, finishes⟩ := leaves.persisted unkeyed
  let pending := (recordUndo call.request selected).pendingOperation
    ⟨system.minted⟩ ⟨system.minted⟩ call.source call.nowMs
  have inserts : ∀ other, operations.get? other =
      if other = ⟨system.minted⟩ then some pending
      else system.store.operations.get? other :=
    SqlTable.get?_insert leaves.inserted
  have older : selected.operationId ≠ ⟨system.minted⟩ :=
    older_of_stored rows isLast.1
  have ownAfter : LogUpdate.rowAfterAll ⟨system.minted⟩ pending
      ([.subject selected.operationId, .undone selected.operationId] ++
        ending) =
      { pending with
        subjectOpId := some selected.operationId, status := .succeeded,
        finishedAtMs := some call.finishedAtMs, errorMessage := error } := by
    rw [finishes]
    simp [pending, LogUpdate.rowAfterAll, LogUpdate.rowAfter,
      LogUpdate.target, LogUpdate.guard, LogUpdate.change,
      RecordedMutation.pendingOperation, Operation.isPending, older.symm]
  have stored : next.store.operations.get? ⟨system.minted⟩ = some
      { pending with
        subjectOpId := some selected.operationId, status := .succeeded,
        finishedAtMs := some call.finishedAtMs, errorMessage := error } := by
    rw [leaves.updated, LogUpdate.get?_applyAll, inserts, if_pos rfl,
      Option.map_some, ownAfter]
  refine ⟨_, ⟨(SqlTable.get?_eq_some.mp stored).1, rfl, ?_⟩, ?_⟩
  swap
  · rintro ⟨accepted, -⟩
    exact Bool.noConfusion (validateUndoable_eq_ok.mp accepted).2.1
  intro other member _
  -- No row of the log occurred after the request.
  have isOther : next.store.operations.get? other.operationId = some other :=
    SqlTable.get?_eq_some.mpr ⟨member, rfl⟩
  rw [leaves.updated, LogUpdate.get?_applyAll_eq_some] at isOther
  obtain ⟨before, found, rfl⟩ := isOther
  rw [LogUpdate.rowAfterAll_occurredAtMs]
  rw [inserts] at found
  split at found
  · cases found
    exact Int.le_refl _
  · exact arrives.2 before (SqlTable.get?_eq_some.mp found).1

end

end MutationSystem

end Spotuify
