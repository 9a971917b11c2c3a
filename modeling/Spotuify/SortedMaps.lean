import Mathlib.Data.List.Nodup
import Mathlib.Order.Lattice
import Mathlib.Order.Defs.LinearOrder

/-!
# Maps in key order

A finite map is the list of its entries, one for each key and in the order of
the keys.  Two maps that hold the same value for every key are equal, so what
a run leaves in a map is settled by what it leaves for each key.
-/

namespace Spotuify

variable {Key Value : Type*} [LinearOrder Key]

/-- The entries of a map, by strictly ascending keys. -/
structure SortedMap (Key Value : Type*) [LinearOrder Key] where
  entries : List (Key × Value)
  ascending : entries.Pairwise fun first second => first.1 < second.1
  deriving DecidableEq

namespace SortedMap

def insertEntry (key : Key) (value : Value) :
    List (Key × Value) → List (Key × Value)
  | [] => [(key, value)]
  | (other, held) :: rest =>
    if key < other then (key, value) :: (other, held) :: rest
    else if key = other then (key, value) :: rest
    else (other, held) :: insertEntry key value rest

theorem mem_insertEntry {key : Key} {value : Value}
    {entries : List (Key × Value)} {entry : Key × Value}
    (member : entry ∈ insertEntry key value entries) :
    entry = (key, value) ∨ entry ∈ entries := by
  induction entries with
  | nil =>
    rw [insertEntry, List.mem_singleton] at member
    exact Or.inl member
  | cons head rest inductionHypothesis =>
    unfold insertEntry at member
    split at member
    · simpa using member
    · split at member
      · rcases List.mem_cons.mp member with isNew | inRest
        · exact Or.inl isNew
        · exact Or.inr (List.mem_cons_of_mem _ inRest)
      · rcases List.mem_cons.mp member with rfl | inRest
        · exact Or.inr List.mem_cons_self
        · exact (inductionHypothesis inRest).imp_right
            (List.mem_cons_of_mem _)

theorem insertEntry_ascending {key : Key} {value : Value}
    {entries : List (Key × Value)}
    (ascending : entries.Pairwise fun first second => first.1 < second.1) :
    (insertEntry key value entries).Pairwise
      fun first second => first.1 < second.1 := by
  induction entries with
  | nil => exact List.pairwise_singleton _ _
  | cons head rest inductionHypothesis =>
    obtain ⟨above, tail⟩ := List.pairwise_cons.mp ascending
    unfold insertEntry
    split
    case isTrue before =>
      refine List.pairwise_cons.mpr ⟨?_, ascending⟩
      intro entry member
      rcases List.mem_cons.mp member with rfl | inRest
      · exact before
      · exact before.trans (above entry inRest)
    case isFalse notBefore =>
      split
      case isTrue same =>
        refine List.pairwise_cons.mpr ⟨?_, tail⟩
        intro entry inRest
        rw [same]
        exact above entry inRest
      case isFalse other =>
        refine List.pairwise_cons.mpr ⟨?_, inductionHypothesis tail⟩
        intro entry member
        rcases mem_insertEntry member with rfl | inRest
        · exact lt_of_le_of_ne (not_lt.mp notBefore) (Ne.symm other)
        · exact above entry inRest

def empty : SortedMap Key Value where
  entries := []
  ascending := List.Pairwise.nil

variable (map : SortedMap Key Value)

def get? (key : Key) : Option Value :=
  (map.entries.find? fun entry => entry.1 = key).map Prod.snd

def insert (key : Key) (value : Value) : SortedMap Key Value where
  entries := insertEntry key value map.entries
  ascending := insertEntry_ascending map.ascending

def erase (key : Key) : SortedMap Key Value where
  entries := map.entries.filter fun entry => entry.1 ≠ key
  ascending := map.ascending.sublist List.filter_sublist

/-- Change the value of a key that is there. -/
def adjust (key : Key) (change : Value → Value) : SortedMap Key Value :=
  (map.get? key).elim map fun value => map.insert key (change value)

/-- Entries put one after another, so the last one for a key counts. -/
def ofEntries (entries : List (Key × Value)) : SortedMap Key Value :=
  entries.foldl (fun map entry => map.insert entry.1 entry.2) empty

/-- The values, by ascending keys. -/
def values : List Value := map.entries.map Prod.snd

variable {map}

theorem nodup_keys (map : SortedMap Key Value) :
    (map.entries.map Prod.fst).Nodup :=
  List.pairwise_map.mpr (map.ascending.imp fun before => before.ne)

theorem get?_eq_some {key : Key} {value : Value} :
    map.get? key = some value ↔ (key, value) ∈ map.entries := by
  rw [get?, Option.map_eq_some_iff]
  constructor
  · rintro ⟨⟨other, held⟩, found, rfl⟩
    have same := List.find?_some found
    rw [decide_eq_true_eq] at same
    subst same
    exact List.mem_of_find?_eq_some found
  · intro member
    cases found : map.entries.find? fun entry => entry.1 = key with
    | none =>
      have absent := List.find?_eq_none.mp found _ member
      simp at absent
    | some entry =>
      refine ⟨entry, rfl, ?_⟩
      have same := List.find?_some found
      rw [decide_eq_true_eq] at same
      have isEntry : entry = (key, value) :=
        List.inj_on_of_nodup_map map.nodup_keys
          (List.mem_of_find?_eq_some found) member same
      rw [isEntry]

theorem mem_values {value : Value} :
    value ∈ map.values ↔ ∃ key, map.get? key = some value := by
  simp only [values, List.mem_map, get?_eq_some, Prod.exists]
  constructor
  · rintro ⟨key, held, member, rfl⟩
    exact ⟨key, member⟩
  · rintro ⟨key, member⟩
    exact ⟨key, value, member, rfl⟩

@[simp]
theorem get?_empty (key : Key) :
    (empty : SortedMap Key Value).get? key = none := rfl

theorem find?_insertEntry {key : Key} {value : Value}
    {entries : List (Key × Value)} (other : Key)
    (ascending : entries.Pairwise fun first second => first.1 < second.1) :
    (insertEntry key value entries).find? (fun entry => entry.1 = other) =
      if other = key then some (key, value)
      else entries.find? fun entry => entry.1 = other := by
  induction entries with
  | nil => by_cases same : other = key <;> simp [insertEntry, same, eq_comm]
  | cons head rest inductionHypothesis =>
    obtain ⟨above, tail⟩ := List.pairwise_cons.mp ascending
    unfold insertEntry
    split
    case isTrue before =>
      by_cases same : other = key
      · simp [same]
      · rw [if_neg same, List.find?_cons_of_neg (by simpa using Ne.symm same)]
    case isFalse notBefore =>
      split
      case isTrue same =>
        by_cases isKey : other = key
        · simp [isKey]
        · rw [if_neg isKey, List.find?_cons_of_neg (by simpa using Ne.symm isKey),
            List.find?_cons_of_neg (by simpa [← same] using Ne.symm isKey)]
      case isFalse different =>
        by_cases isHead : head.1 = other
        · have notKey : other ≠ key := isHead ▸ Ne.symm different
          rw [if_neg notKey, List.find?_cons_of_pos (by simpa using isHead),
            List.find?_cons_of_pos (by simpa using isHead)]
        · rw [List.find?_cons_of_neg (by simpa using isHead),
            List.find?_cons_of_neg (by simpa using isHead),
            inductionHypothesis tail]

@[simp]
theorem get?_insert (key other : Key) (value : Value) :
    (map.insert key value).get? other =
      if other = key then some value else map.get? other := by
  rw [get?, insert, find?_insertEntry other map.ascending]
  split
  · rfl
  · rfl

@[simp]
theorem get?_erase (key other : Key) :
    (map.erase key).get? other =
      if other = key then none else map.get? other := by
  ext value
  rw [get?_eq_some]
  by_cases same : other = key
  · simp [erase, same]
  · simp [erase, same, get?_eq_some]

@[simp]
theorem get?_adjust (key other : Key) (change : Value → Value) :
    (map.adjust key change).get? other =
      if other = key then (map.get? other).map change else map.get? other := by
  by_cases same : other = key
  · subst same
    cases held : map.get? other with
    | none => simp [adjust, held]
    | some value => simp [adjust, held]
  · cases held : map.get? key with
    | none => simp [adjust, held, same]
    | some value => simp [adjust, held, same]

/-- A map is settled by the value it holds for each key. -/
theorem ext_get? {first second : SortedMap Key Value}
    (same : ∀ key, first.get? key = second.get? key) : first = second := by
  have permuted : first.entries.Perm second.entries := by
    rw [List.perm_ext_iff_of_nodup
      (first.ascending.imp fun before same => before.ne (congrArg _ same))
      (second.ascending.imp fun before same => before.ne (congrArg _ same))]
    intro entry
    have inFirst : first.get? entry.1 = some entry.2 ↔ entry ∈ first.entries :=
      get?_eq_some
    have inSecond : second.get? entry.1 = some entry.2 ↔
        entry ∈ second.entries :=
      get?_eq_some
    rw [← inFirst, ← inSecond, same entry.1]
  have equal : first.entries = second.entries :=
    permuted.eq_of_pairwise
      (fun one other _ _ before after => absurd after before.asymm)
      first.ascending second.ascending
  cases first
  cases second
  cases equal
  rfl

theorem get?_foldl_insert {entries : List (Key × Value)}
    (keys : (entries.map Prod.fst).Nodup) (start : SortedMap Key Value)
    (key : Key) (value : Value) :
    (entries.foldl (fun map entry => map.insert entry.1 entry.2)
        start).get? key = some value ↔
      (key, value) ∈ entries ∨
        key ∉ entries.map Prod.fst ∧ start.get? key = some value := by
  induction entries generalizing start with
  | nil => simp
  | cons entry rest inductionHypothesis =>
    obtain ⟨isNew, restKeys⟩ := List.nodup_cons.mp keys
    rw [List.foldl_cons, inductionHypothesis restKeys, get?_insert]
    by_cases same : key = entry.1
    · subst same
      have notInRest : (entry.1, value) ∉ rest := fun member =>
        isNew (List.mem_map.mpr ⟨_, member, rfl⟩)
      simp only [notInRest, false_or, isNew, not_false_eq_true, true_and,
        if_true, Option.some_inj, List.mem_cons, Prod.ext_iff, or_false,
        List.map_cons, not_true_eq_false, false_and]
      exact eq_comm
    · have notEntry : (key, value) ≠ entry := fun isEntry =>
        same (congrArg Prod.fst isEntry)
      simp [same, notEntry]

/-- A map put together from its own entries is the map. -/
@[simp]
theorem ofEntries_entries (map : SortedMap Key Value) :
    ofEntries map.entries = map := by
  apply ext_get?
  intro key
  ext value
  rw [ofEntries, get?_foldl_insert map.nodup_keys, get?_empty, ← get?_eq_some]
  simp

end SortedMap
end Spotuify
