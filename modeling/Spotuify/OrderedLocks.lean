import Mathlib.Order.WellFounded
import Mathlib.Data.List.Basic

/-!
# Locks that are taken in one order

A task holds a list of locks and may wait for one more.  Where every task waits
only for a lock above all that it holds, following who holds the awaited lock
climbs the order, and so ends at a task that nothing keeps waiting.
-/

namespace Spotuify

/-- What a task has locked and what it waits for. -/
structure LockDemand (Lock : Type*) where
  holds : List Lock
  wants : Option Lock

namespace LockDemand

variable {Lock Task : Type*}

/-- No lock is waited for below one that is held. -/
def Ascending [LT Lock] (demand : LockDemand Lock) : Prop :=
  ∀ wanted ∈ demand.wants, ∀ held ∈ demand.holds, held < wanted

/-- No task holds what this one waits for. -/
def Unblocked (demands : Task → LockDemand Lock) (task : Task) : Prop :=
  ∀ wanted ∈ (demands task).wants, ∀ other, wanted ∉ (demands other).holds

/-- A task can go on, or else one that holds a lock can. -/
theorem exists_unblocked [LT Lock] [WellFoundedGT Lock]
    {demands : Task → LockDemand Lock}
    (ascending : ∀ task, (demands task).Ascending) (task : Task) :
    ∃ other, Unblocked demands other ∧
      (other = task ∨ (demands other).holds ≠ []) := by
  by_cases free : Unblocked demands task
  · exact ⟨task, free, Or.inl rfl⟩
  suffices holders : ∀ lock holder, lock ∈ (demands holder).holds →
      ∃ other, Unblocked demands other ∧ (demands other).holds ≠ [] by
    simp only [Unblocked, not_forall, not_not] at free
    obtain ⟨wanted, _, holder, isHeld⟩ := free
    obtain ⟨other, unblocked, holdsSome⟩ := holders wanted holder isHeld
    exact ⟨other, unblocked, Or.inr holdsSome⟩
  intro lock
  -- the lock that a blocked holder waits for is a higher one
  induction lock using WellFoundedGT.induction with
  | ind lock inductionHypothesis =>
    intro holder isHeld
    by_cases holderFree : Unblocked demands holder
    · exact ⟨holder, holderFree, List.ne_nil_of_mem isHeld⟩
    · simp only [Unblocked, not_forall, not_not] at holderFree
      obtain ⟨wanted, isWanted, next, nextHolds⟩ := holderFree
      have higher : lock < wanted :=
        ascending holder wanted isWanted lock isHeld
      exact inductionHypothesis wanted higher next nextHolds

end LockDemand

end Spotuify
