import Mathlib.Data.List.Basic

/-!
# Receivers of a bounded broadcast

A broadcast keeps the last events published, up to its capacity.  A receiver
reads them in order from the event after which it subscribed.  One that falls
behind by more than the capacity is told how many events it missed and goes on
with the oldest event that is kept.
-/

inductive Received (Event : Type*) where
  | event (event : Event)
  | lagged (skipped : Nat)

namespace Broadcast

variable {Event : Type*}

/-- What a receiver that waits for the event `next` receives, and the event it
waits for afterwards. -/
def recv (capacity : Nat) (published : List Event) (next : Nat) :
    Option (Received Event × Nat) :=
  match published[next]? with
  | none => none
  | some event =>
    let oldest := published.length - capacity
    if next < oldest then some (.lagged (oldest - next), oldest)
    else some (.event event, next + 1)

/-- The receptions are the events in order, except that some stretches of them
are replaced by their lengths. -/
inductive Accounts : List Event → List (Received Event) → Prop where
  | nil : Accounts [] []
  | event {events : List Event} {received : List (Received Event)}
      (accounts : Accounts events received) (event : Event) :
      Accounts (events ++ [event]) (received ++ [.event event])
  | lagged {events : List Event} {received : List (Received Event)}
      (accounts : Accounts events received) {missed : List Event}
      (nonempty : missed ≠ []) :
      Accounts (events ++ missed) (received ++ [.lagged missed.length])

/-- The receptions account for the events from `start` to `next`. -/
def Follows (published : List Event) (start next : Nat)
    (received : List (Received Event)) : Prop :=
  ∃ earlier consumed later, published = earlier ++ consumed ++ later ∧
    earlier.length = start ∧ (earlier ++ consumed).length = next ∧
    Accounts consumed received

namespace Follows

variable {published : List Event} {start next : Nat}
  {received : List (Received Event)}

/-- A fresh receiver waits for the next event to be published. -/
theorem subscribe (published : List Event) :
    Follows published published.length published.length [] :=
  ⟨published, [], [], by simp, rfl, by simp, .nil⟩

theorem publish (follows : Follows published start next received)
    (event : Event) : Follows (published ++ [event]) start next received := by
  obtain ⟨earlier, consumed, later, split, atStart, atNext, accounts⟩ :=
    follows
  refine ⟨earlier, consumed, later ++ [event], ?_, atStart, atNext, accounts⟩
  rw [split, List.append_assoc]

/-- What is received next continues the account. -/
theorem recv {capacity : Nat} {reception : Received Event} {following : Nat}
    (follows : Follows published start next received)
    (receives : Broadcast.recv capacity published next =
      some (reception, following)) :
    Follows published start following (received ++ [reception]) := by
  obtain ⟨earlier, consumed, later, split, atStart, atNext, accounts⟩ :=
    follows
  unfold Broadcast.recv at receives
  split at receives
  · cases receives
  · next event isNext =>
    have inLater : later[0]? = some event := by
      rw [split, List.getElem?_append_right (by omega), atNext,
        Nat.sub_self] at isNext
      exact isNext
    dsimp only at receives
    split at receives
    · next behind =>
      cases receives
      have total : published.length = next + later.length := by
        rw [split, List.length_append, atNext]
      have count : (later.take (published.length - capacity - next)).length =
          published.length - capacity - next := by
        rw [List.length_take]
        omega
      refine ⟨earlier, consumed ++ later.take (published.length - capacity - next),
        later.drop (published.length - capacity - next), ?_, atStart, ?_, ?_⟩
      · simp [split]
      · rw [← List.append_assoc, List.length_append, count, atNext]
        omega
      · have nonempty :
            later.take (published.length - capacity - next) ≠ [] := by
          rw [← List.length_pos_iff, count]
          omega
        have longer := accounts.lagged nonempty
        rwa [count] at longer
    · cases receives
      obtain ⟨rest, rfl⟩ : ∃ rest, later = event :: rest := by
        cases later with
        | nil => cases inLater
        | cons first rest => cases inLater; exact ⟨rest, rfl⟩
      refine ⟨earlier, consumed ++ [event], rest, ?_, atStart, ?_,
        accounts.event event⟩
      · simp [split]
      · simp [← atNext, Nat.add_assoc]

end Follows

end Broadcast
