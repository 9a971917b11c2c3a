import Mathlib.Data.List.Induction

/-!
# Catching up with a log of changes

A log puts values under keys, and drops a value from a key only where that
value is what the key holds.  Replaying a log from what one of its own
prefixes left ends where the whole log ends.  So whoever starts from an older
or a newer state of the log and then reads all of it is up to date.
-/

namespace Spotuify

variable {Key Value : Type*}

inductive KeyedChange (Key Value : Type*) where
  | put (key : Key) (value : Value)
  | drop (key : Key) (value : Value)
  deriving DecidableEq

namespace KeyedChange

variable [DecidableEq Key] [DecidableEq Value]

/-- What a key holds after one change. -/
def valueStep (key : Key) (held : Option Value) :
    KeyedChange Key Value → Option Value
  | .put other value => if other = key then some value else held
  | .drop other value =>
    if other = key ∧ held = some value then none else held

def valueAfter (key : Key) (held : Option Value)
    (changes : List (KeyedChange Key Value)) : Option Value :=
  changes.foldl (valueStep key) held

/-- Each value that is dropped is the value held. -/
def Truthful (key : Key) : Option Value → List (KeyedChange Key Value) → Prop
  | _, [] => True
  | held, change :: rest =>
    (∀ value, change = .drop key value → held = some value) ∧
      Truthful key (valueStep key held change) rest

variable {key : Key} {held : Option Value} {value : Value}
  {changes first second : List (KeyedChange Key Value)}

@[simp]
theorem valueAfter_nil : valueAfter key held [] = held := rfl

@[simp]
theorem valueAfter_cons (change : KeyedChange Key Value) :
    valueAfter key held (change :: changes) =
      valueAfter key (valueStep key held change) changes := rfl

theorem valueAfter_append :
    valueAfter key held (first ++ second) =
      valueAfter key (valueAfter key held first) second :=
  List.foldl_append

@[simp]
theorem valueStep_put_self :
    valueStep key held (.put key value) = some value := by
  simp [valueStep]

theorem valueStep_put_other {other : Key} (different : other ≠ key) :
    valueStep key held (.put other value) = held := by
  simp [valueStep, different]

theorem valueStep_drop_other {other : Key} (different : other ≠ key) :
    valueStep key held (.drop other value) = held := by
  simp [valueStep, different]

theorem truthful_append :
    Truthful key held (first ++ second) ↔
      Truthful key held first ∧
        Truthful key (valueAfter key held first) second := by
  induction first generalizing held with
  | nil => simp [Truthful]
  | cons change rest inductionHypothesis =>
    simp only [List.cons_append, Truthful, valueAfter_cons,
      inductionHypothesis, and_assoc]

/-- A log read from nothing leaves nothing or what it leaves anyway. -/
theorem valueAfter_none :
    valueAfter key none changes = none ∨
      valueAfter key none changes = valueAfter key held changes := by
  suffices below : ∀ low high : Option Value, low = none ∨ low = high →
      valueAfter key low changes = none ∨
        valueAfter key low changes = valueAfter key high changes by
    exact below none held (Or.inl rfl)
  induction changes with
  | nil => intro low high related; exact related
  | cons change rest inductionHypothesis =>
    intro low high related
    apply inductionHypothesis
    rcases related with rfl | rfl
    · cases change with
      | put other value =>
        by_cases same : other = key
        · subst same
          exact Or.inr (by simp)
        · exact Or.inl (valueStep_put_other same)
      | drop other value => exact Or.inl (by simp [valueStep])
    · exact Or.inr rfl

/-- Reading a truthful log twice leaves what reading it once does. -/
theorem valueAfter_twice (truthful : Truthful key held changes) :
    valueAfter key (valueAfter key held changes) changes =
      valueAfter key held changes := by
  induction changes using List.reverseRecOn with
  | nil => rfl
  | append_singleton earlier last inductionHypothesis =>
    obtain ⟨earlierTruthful, lastTruthful⟩ := truthful_append.mp truthful
    have again := inductionHypothesis earlierTruthful
    simp only [valueAfter_append, valueAfter_cons, valueAfter_nil]
    cases last with
    | put other value =>
      by_cases same : other = key
      · subst same
        simp
      · rw [valueStep_put_other same, valueStep_put_other same, again]
    | drop other value =>
      by_cases same : other = key
      · subst same
        have heldValue := lastTruthful.1 value rfl
        have dropped : valueStep other (valueAfter other held earlier)
            (.drop other value) = none := by
          simp [valueStep, heldValue]
        rw [dropped]
        -- From nothing the earlier changes leave nothing or the value dropped.
        have afterNone : valueAfter other none earlier = none ∨
            valueAfter other none earlier =
              valueAfter other (valueAfter other held earlier) earlier :=
          valueAfter_none
        rcases afterNone with empty | same
        · simp [empty, valueStep]
        · rw [same, again]
          exact dropped
      · rw [valueStep_drop_other same, valueStep_drop_other same, again]

/-- A reader with any state of the log since `start` that reads on from
`start` ends with the last state. -/
theorem valueAfter_drop_of_take {start seen : Nat}
    (truthful : Truthful key held changes) (since : start ≤ seen) :
    valueAfter key (valueAfter key held (changes.take seen))
        (changes.drop start) =
      valueAfter key held changes := by
  let between := (changes.drop start).take (seen - start)
  have takeSplit : changes.take seen = changes.take start ++ between := by
    rw [← List.take_append_drop start (changes.take seen), List.take_take,
      Nat.min_eq_left since, List.drop_take]
  have dropSplit : changes.drop start = between ++ changes.drop seen := by
    rw [← List.take_append_drop (seen - start) (changes.drop start),
      List.drop_drop, Nat.add_sub_cancel' since]
  have split : changes = changes.take start ++ (between ++ changes.drop seen) := by
    rw [← dropSplit, List.take_append_drop]
  have betweenTruthful : Truthful key
      (valueAfter key held (changes.take start)) between := by
    rw [split] at truthful
    exact (truthful_append.mp (truthful_append.mp truthful).2).1
  calc
    valueAfter key (valueAfter key held (changes.take seen))
        (changes.drop start) =
      valueAfter key (valueAfter key
          (valueAfter key (valueAfter key held (changes.take start)) between)
          between) (changes.drop seen) := by
        rw [takeSplit, dropSplit, valueAfter_append, valueAfter_append]
    _ = valueAfter key (valueAfter key
          (valueAfter key held (changes.take start)) between)
          (changes.drop seen) := by
        rw [valueAfter_twice betweenTruthful]
    _ = valueAfter key held changes := by
        conv_rhs => rw [split, valueAfter_append, valueAfter_append]

end KeyedChange
end Spotuify
