import Mathlib.Algebra.BigOperators.Group.List.Basic
import Mathlib.Data.List.Nodup
import Mathlib.Data.List.Perm.Basic
import Mathlib.Logic.Function.Basic

/-!
# Tables filled by upserts

An upsert inserts a row under a key, or updates the row that is there.  What a
sequence of upserts leaves under a key depends on the values put under that
key only, in their order, and a measure that every put adds to is the sum of
what the puts add.  A list of rows that is searched for the first row of a key
is such a table.
-/

/-- How a value becomes a row, and how it changes one. -/
structure Upsert (Value Row : Type*) where
  insert : Value → Row
  update : Row → Value → Row

namespace Upsert

variable {Key Value Row Measure : Type*} (upsert : Upsert Value Row)

def put (stored : Option Row) (value : Value) : Option Row :=
  match stored with
  | none => some (upsert.insert value)
  | some row => some (upsert.update row value)

/-- Values put one after the other into a row. -/
theorem foldl_put_some (row : Row) (values : List Value) :
    values.foldl upsert.put (some row) =
      some (values.foldl upsert.update row) := by
  induction values generalizing row with
  | nil => rfl
  | cons value values inductionHypothesis =>
    exact inductionHypothesis (upsert.update row value)

theorem foldl_put_none (value : Value) (values : List Value) :
    (value :: values).foldl upsert.put none =
      some (values.foldl upsert.update (upsert.insert value)) :=
  upsert.foldl_put_some (upsert.insert value) values

/-- A measure that every put adds to. -/
theorem measure_foldl_put [AddMonoid Measure]
    {measure : Option Row → Measure} {added : Value → Measure}
    (adds : ∀ stored value,
      measure (upsert.put stored value) = measure stored + added value)
    (stored : Option Row) (values : List Value) :
    measure (values.foldl upsert.put stored) =
      measure stored + (values.map added).sum := by
  induction values generalizing stored with
  | nil => simp
  | cons value values inductionHypothesis =>
    rw [List.foldl_cons, inductionHypothesis, adds, List.map_cons,
      List.sum_cons, add_assoc]

section Table

variable [DecidableEq Key] (table : Key → Option Row)

/-- Put a value under a key. -/
def into (entry : Key × Value) : Key → Option Row :=
  Function.update table entry.1 (upsert.put (table entry.1) entry.2)

/-- Put values under their keys, one after the other. -/
def allInto (entries : List (Key × Value)) : Key → Option Row :=
  entries.foldl upsert.into table

/-- The values among some entries that belong to a key. -/
def valuesOf (key : Key) (entries : List (Key × Value)) : List Value :=
  (entries.filter fun entry => entry.1 = key).map Prod.snd

/-- Each key is filled with its own values. -/
theorem allInto_apply (entries : List (Key × Value)) (key : Key) :
    upsert.allInto table entries key =
      (valuesOf key entries).foldl upsert.put (table key) := by
  induction entries generalizing table with
  | nil => rfl
  | cons entry entries inductionHypothesis =>
    have rest := inductionHypothesis (upsert.into table entry)
    rw [allInto, List.foldl_cons, ← allInto, rest]
    unfold valuesOf
    by_cases same : entry.1 = key
    · subst same
      rw [List.filter_cons_of_pos (by simp), List.map_cons, List.foldl_cons,
        into, Function.update_self]
    · rw [List.filter_cons_of_neg (by simpa using same), into,
        Function.update_of_ne (Ne.symm same)]

/-- A value put under distinct keys is put once under each of them. -/
theorem valuesOf_map_key {keys : List Key} (distinct : keys.Nodup) (key : Key)
    (value : Value) :
    valuesOf key (keys.map fun other => (other, value)) =
      if key ∈ keys then [value] else [] := by
  induction keys with
  | nil => rfl
  | cons first keys inductionHypothesis =>
    obtain ⟨notAgain, distinctRest⟩ := List.nodup_cons.mp distinct
    have rest := inductionHypothesis distinctRest
    unfold valuesOf at rest ⊢
    by_cases same : first = key
    · subst same
      rw [if_neg notAgain] at rest
      simp [rest]
    · rw [List.map_cons, List.filter_cons_of_neg (by simpa using same), rest]
      simp [Ne.symm same]

end Table

section Rows

variable (keyOf : Row → Key)

/-- Rows are under the key their values were put under. -/
structure KeepsKeys (entries : List (Key × Value)) : Prop where
  insert : ∀ entry ∈ entries, keyOf (upsert.insert entry.2) = entry.1
  update : ∀ row value, keyOf (upsert.update row value) = keyOf row

theorem KeepsKeys.tail {upsert : Upsert Value Row} {keyOf : Row → Key}
    {entry : Key × Value} {entries : List (Key × Value)}
    (keeps : upsert.KeepsKeys keyOf (entry :: entries)) :
    upsert.KeepsKeys keyOf entries where
  insert other member := keeps.insert other (List.mem_cons_of_mem entry member)
  update := keeps.update

variable [DecidableEq Key]

/-- Put a value into the first row of its key, or behind all rows. -/
def putRow : List Row → Key × Value → List Row
  | [], entry => [upsert.insert entry.2]
  | row :: rows, entry =>
    if keyOf row = entry.1 then upsert.update row entry.2 :: rows
    else row :: putRow rows entry

def putRows (entries : List (Key × Value)) : List Row :=
  entries.foldl (upsert.putRow keyOf) []

def rowOf (rows : List Row) (key : Key) : Option Row :=
  rows.find? fun row => keyOf row = key

variable {upsert keyOf} {rows : List Row} {entry : Key × Value}
  {entries : List (Key × Value)}

theorem rowOf_eq_some {row : Row} (distinct : (rows.map keyOf).Nodup) {key : Key} :
    rowOf keyOf rows key = some row ↔ row ∈ rows ∧ keyOf row = key := by
  induction rows with
  | nil => simp [rowOf]
  | cons first rows inductionHypothesis =>
    obtain ⟨notAgain, distinctRest⟩ := List.nodup_cons.mp distinct
    have rest := inductionHypothesis distinctRest
    unfold rowOf at rest ⊢
    by_cases same : keyOf first = key
    · rw [List.find?_cons_of_pos (by simpa using same), Option.some.injEq,
        List.mem_cons]
      constructor
      · rintro rfl
        exact ⟨Or.inl rfl, same⟩
      · rintro ⟨rfl | member, under⟩
        · rfl
        · exact absurd (List.mem_map.mpr ⟨row, member, under.trans same.symm⟩)
            notAgain
    · rw [List.find?_cons_of_neg (by simpa using same), rest, List.mem_cons]
      constructor
      · rintro ⟨member, under⟩
        exact ⟨Or.inr member, under⟩
      · rintro ⟨rfl | member, under⟩
        · exact absurd under same
        · exact ⟨member, under⟩

theorem map_putRow (inserted : keyOf (upsert.insert entry.2) = entry.1)
    (updated : ∀ row value, keyOf (upsert.update row value) = keyOf row) :
    (upsert.putRow keyOf rows entry).map keyOf =
      if entry.1 ∈ rows.map keyOf then rows.map keyOf
      else rows.map keyOf ++ [entry.1] := by
  induction rows with
  | nil => simp [putRow, inserted]
  | cons row rows inductionHypothesis =>
    rw [putRow]
    by_cases same : keyOf row = entry.1
    · rw [if_pos same, List.map_cons, updated, List.map_cons,
        if_pos (List.mem_cons.mpr (Or.inl same.symm))]
    · rw [if_neg same, List.map_cons, inductionHypothesis]
      by_cases later : entry.1 ∈ rows.map keyOf
      · rw [if_pos later, List.map_cons,
          if_pos (List.mem_cons_of_mem _ later)]
      · rw [if_neg later, List.map_cons, if_neg (by
          rw [List.mem_cons, not_or]
          exact ⟨Ne.symm same, later⟩)]
        rfl

/-- Rows in a list are a table that values are put into. -/
theorem rowOf_putRow (inserted : keyOf (upsert.insert entry.2) = entry.1)
    (updated : ∀ row value, keyOf (upsert.update row value) = keyOf row) :
    rowOf keyOf (upsert.putRow keyOf rows entry) =
      upsert.into (rowOf keyOf rows) entry := by
  induction rows with
  | nil =>
    funext key
    by_cases same : entry.1 = key
    · subst same
      simp [putRow, rowOf, into, put, inserted]
    · simp [putRow, rowOf, into, inserted, same, Ne.symm same]
  | cons row rows inductionHypothesis =>
    funext key
    have rest := congrFun inductionHypothesis key
    unfold rowOf at rest ⊢
    rw [putRow]
    by_cases same : keyOf row = entry.1
    · rw [if_pos same]
      by_cases own : entry.1 = key
      · subst own
        rw [List.find?_cons_of_pos (by simp [updated, same]), into,
          Function.update_self, List.find?_cons_of_pos (by simp [same]), put]
      · rw [List.find?_cons_of_neg (by simp [updated, same, own]), into,
          Function.update_of_ne (Ne.symm own),
          List.find?_cons_of_neg (by simp [same, own])]
    · rw [if_neg same]
      by_cases own : keyOf row = key
      · rw [List.find?_cons_of_pos (by simp [own]), into,
          Function.update_of_ne (fun own' => same (own.trans own')),
          List.find?_cons_of_pos (by simp [own])]
      · rw [List.find?_cons_of_neg (by simp [own]), rest]
        by_cases put : entry.1 = key
        · subst put
          rw [into, into, Function.update_self, Function.update_self,
            List.find?_cons_of_neg (by simp [same])]
        · rw [into, into, Function.update_of_ne (Ne.symm put),
            Function.update_of_ne (Ne.symm put),
            List.find?_cons_of_neg (by simp [own])]

theorem rowOf_foldl_putRow (keeps : upsert.KeepsKeys keyOf entries) :
    rowOf keyOf (entries.foldl (upsert.putRow keyOf) rows) =
      upsert.allInto (rowOf keyOf rows) entries := by
  induction entries generalizing rows with
  | nil => rfl
  | cons entry entries inductionHypothesis =>
    rw [List.foldl_cons, inductionHypothesis keeps.tail,
      rowOf_putRow (keeps.insert entry List.mem_cons_self) keeps.update]
    rfl

theorem nodup_foldl_putRow (keeps : upsert.KeepsKeys keyOf entries)
    (distinct : (rows.map keyOf).Nodup) :
    ((entries.foldl (upsert.putRow keyOf) rows).map keyOf).Nodup := by
  induction entries generalizing rows with
  | nil => exact distinct
  | cons entry entries inductionHypothesis =>
    rw [List.foldl_cons]
    apply inductionHypothesis keeps.tail
    rw [map_putRow (keeps.insert entry List.mem_cons_self) keeps.update]
    by_cases present : entry.1 ∈ rows.map keyOf
    · rw [if_pos present]
      exact distinct
    · rw [if_neg present]
      rw [← List.concat_eq_append]
      exact List.Nodup.concat present distinct

theorem mem_foldl_putRow (keeps : upsert.KeepsKeys keyOf entries) {key : Key} :
    key ∈ (entries.foldl (upsert.putRow keyOf) rows).map keyOf ↔
      key ∈ rows.map keyOf ∨ key ∈ entries.map Prod.fst := by
  induction entries generalizing rows with
  | nil => simp
  | cons entry entries inductionHypothesis =>
    rw [List.foldl_cons, inductionHypothesis keeps.tail,
      map_putRow (keeps.insert entry List.mem_cons_self) keeps.update,
      List.map_cons, List.mem_cons]
    by_cases present : entry.1 ∈ rows.map keyOf
    · rw [if_pos present]
      constructor
      · rintro (member | member)
        · exact Or.inl member
        · exact Or.inr (Or.inr member)
      · rintro (member | rfl | member)
        · exact Or.inl member
        · exact Or.inl present
        · exact Or.inr member
    · rw [if_neg present, List.mem_append, List.mem_singleton, or_assoc]

/-- A sequence of puts leaves one row for each of its keys. -/
theorem nodup_putRows (keeps : upsert.KeepsKeys keyOf entries) :
    ((upsert.putRows keyOf entries).map keyOf).Nodup :=
  nodup_foldl_putRow keeps List.nodup_nil

theorem mem_putRows_keys (keeps : upsert.KeepsKeys keyOf entries) {key : Key} :
    key ∈ (upsert.putRows keyOf entries).map keyOf ↔
      key ∈ entries.map Prod.fst := by
  rw [putRows, mem_foldl_putRow keeps]
  simp

/-- Each row is filled with the values of its key. -/
theorem mem_putRows (keeps : upsert.KeepsKeys keyOf entries) {row : Row} :
    row ∈ upsert.putRows keyOf entries ↔
      (valuesOf (keyOf row) entries).foldl upsert.put none = some row := by
  have found : rowOf keyOf (upsert.putRows keyOf entries) (keyOf row) =
      some row ↔ row ∈ upsert.putRows keyOf entries := by
    rw [rowOf_eq_some (nodup_putRows keeps), and_iff_left rfl]
  rw [← found, putRows, rowOf_foldl_putRow keeps, allInto_apply]
  rfl

/-- Rows do not depend on the order of puts that commute under each key. -/
theorem putRows_perm {permuted : List (Key × Value)}
    (keeps : upsert.KeepsKeys keyOf entries)
    (commute : ∀ first ∈ entries, ∀ second ∈ entries, first.1 = second.1 →
      ∀ stored, upsert.put (upsert.put stored first.2) second.2 =
        upsert.put (upsert.put stored second.2) first.2)
    (same : entries.Perm permuted) :
    (upsert.putRows keyOf entries).Perm (upsert.putRows keyOf permuted) := by
  have keepsPermuted : upsert.KeepsKeys keyOf permuted :=
    { insert := fun entry member =>
        keeps.insert entry (same.mem_iff.mpr member)
      update := keeps.update }
  rw [List.perm_ext_iff_of_nodup (List.Nodup.of_map keyOf (nodup_putRows keeps))
    (List.Nodup.of_map keyOf (nodup_putRows keepsPermuted))]
  intro row
  rw [mem_putRows keeps, mem_putRows keepsPermuted]
  have values : (valuesOf (keyOf row) entries).Perm
      (valuesOf (keyOf row) permuted) := (same.filter _).map _
  rw [values.foldl_eq' _ none]
  intro first isFirst second isSecond stored
  obtain ⟨firstEntry, firstMember, rfl⟩ := List.mem_map.mp isFirst
  obtain ⟨secondEntry, secondMember, rfl⟩ := List.mem_map.mp isSecond
  obtain ⟨firstMember, firstKey⟩ := List.mem_filter.mp firstMember
  obtain ⟨secondMember, secondKey⟩ := List.mem_filter.mp secondMember
  exact commute firstEntry firstMember secondEntry secondMember
    ((of_decide_eq_true firstKey).trans (of_decide_eq_true secondKey).symm)
    stored

end Rows

end Upsert
