import Mathlib.Data.Set.Insert
import Mathlib.Order.Defs.LinearOrder

/-!
# Shared cooldown slots

Several deadlines may be set while only one of them is stored.  The stored one
stands for all of them as long as it covers every deadline that has not passed
yet.  The rules below say which writes to the slot keep that so, and that a
waiter that obeys a covering slot obeys every deadline.
-/

namespace Cooldown

variable {Time : Type*} [LinearOrder Time]

/-- Every deadline has passed or is not after the stored one. -/
def Covers (slot : Option Time) (now : Time) (deadlines : Set Time) : Prop :=
  ∀ deadline ∈ deadlines, deadline ≤ now ∨
    ∃ stored, slot = some stored ∧ deadline ≤ stored

/-- A slot lets a waiter through from a time on. -/
def OpenAt (slot : Option Time) (time : Time) : Prop :=
  ∀ stored, slot = some stored → stored ≤ time

variable {slot : Option Time} {now later new : Time} {deadlines : Set Time}

theorem Covers.of_le (covers : Covers slot now deadlines)
    (ordered : now ≤ later) : Covers slot later deadlines := by
  intro deadline member
  rcases covers deadline member with passed | stored
  · exact Or.inl (passed.trans ordered)
  · exact Or.inr stored

/-- A waiter that a covering slot lets through is late for every deadline. -/
theorem Covers.le_of_openAt (covers : Covers slot now deadlines)
    (ordered : now ≤ later) (opened : OpenAt slot later)
    {deadline : Time} (member : deadline ∈ deadlines) :
    deadline ≤ later := by
  rcases covers deadline member with passed | ⟨stored, storedEq, before⟩
  · exact passed.trans ordered
  · exact before.trans (opened stored storedEq)

/-- Clearing the slot is safe when every deadline has passed. -/
theorem covers_clear (passed : ∀ deadline ∈ deadlines, deadline ≤ now) :
    Covers none now deadlines := by
  intro deadline member
  exact Or.inl (passed deadline member)

end Cooldown
