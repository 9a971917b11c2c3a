import Mathlib.Data.List.Nodup

/-!
# Tables with a primary key

A table is a list of rows whose keys do not repeat; the uniqueness is carried
by the table, so that no statement can produce a table that violates it.  The
statements are the ones a relational store issues: a keyed and guarded
`UPDATE`, an `INSERT` that refuses a taken key, and a guarded `DELETE`.  Each
has one lemma that says which row a key reads afterwards.
-/

/-- Rows with pairwise different primary keys. -/
structure SqlTable {Row Key : Type*} (key : Row → Key) where
  rows : List Row
  keysNodup : (rows.map key).Nodup

namespace SqlTable

variable {Row Key : Type*} {key : Row → Key}

/-- The table without rows. -/
def empty : SqlTable key := ⟨[], by simp⟩

/-- Two rows of a table with one key are one row. -/
theorem row_eq_of_key_eq (table : SqlTable key) {first second : Row}
    (firstMember : first ∈ table.rows) (secondMember : second ∈ table.rows)
    (sameKey : key first = key second) : first = second :=
  List.inj_on_of_nodup_map table.keysNodup firstMember secondMember sameKey

variable [DecidableEq Key]

/-- The row a primary key selects. -/
def get? (table : SqlTable key) (target : Key) : Option Row :=
  table.rows.find? fun row => decide (key row = target)

/-- `UPDATE … SET change WHERE key = target AND guard`. -/
def updateKey (table : SqlTable key) (target : Key) (guard : Row → Bool)
    (change : Row → Row) (keepsKey : ∀ row, key (change row) = key row) :
    SqlTable key where
  rows := table.rows.map fun row =>
    if key row = target ∧ guard row = true then change row else row
  keysNodup := by
    have sameKeys : (table.rows.map fun row =>
        if key row = target ∧ guard row = true then change row else row).map key =
        table.rows.map key := by
      rw [List.map_map]
      apply List.map_congr_left
      intro row _
      by_cases selected : key row = target ∧ guard row = true
      · simp [selected, keepsKey]
      · simp [selected]
    rw [sameKeys]
    exact table.keysNodup

/-- The number of rows such an update selects. -/
def rowsAffected (table : SqlTable key) (target : Key)
    (guard : Row → Bool) : Nat :=
  table.rows.countP fun row => decide (key row = target) && guard row

/-- `INSERT`, refused when the primary key is taken. -/
def insert? (table : SqlTable key) (row : Row) : Option (SqlTable key) :=
  if fresh : key row ∉ table.rows.map key then
    some
      { rows := table.rows ++ [row]
        keysNodup := by
          rw [List.map_append]
          refine List.Nodup.append table.keysNodup (by simp) ?_
          simpa [List.disjoint_singleton] using fresh }
  else
    none

/-- `DELETE … WHERE guard`. -/
def deleteWhere (table : SqlTable key) (guard : Row → Bool) :
    SqlTable key where
  rows := table.rows.filter fun row => !guard row
  keysNodup :=
    table.keysNodup.sublist (List.Sublist.map key List.filter_sublist)

/-- A key reads exactly the row of the table that carries it. -/
theorem get?_eq_some {table : SqlTable key} {target : Key} {row : Row} :
    table.get? target = some row ↔ row ∈ table.rows ∧ key row = target := by
  constructor
  · intro found
    refine ⟨List.mem_of_find?_eq_some found, ?_⟩
    simpa using List.find?_some found
  · rintro ⟨member, keyEq⟩
    cases found : table.get? target with
    | none =>
      rw [get?, List.find?_eq_none] at found
      exact absurd keyEq (by simpa using found row member)
    | some other =>
      have otherMember : other ∈ table.rows := List.mem_of_find?_eq_some found
      have otherKey : key other = target := by
        simpa using List.find?_some found
      rw [table.row_eq_of_key_eq otherMember member (otherKey.trans keyEq.symm)]

theorem get?_eq_none {table : SqlTable key} {target : Key} :
    table.get? target = none ↔ ∀ row ∈ table.rows, key row ≠ target := by
  simp [get?, List.find?_eq_none]

theorem key_of_get? {table : SqlTable key} {target : Key} {row : Row}
    (found : table.get? target = some row) : key row = target :=
  (get?_eq_some.mp found).2

@[simp]
theorem get?_empty (target : Key) :
    (empty : SqlTable key).get? target = none := rfl

/-- What a key reads after an update. -/
theorem get?_updateKey (table : SqlTable key) (target other : Key)
    (guard : Row → Bool) (change : Row → Row)
    (keepsKey : ∀ row, key (change row) = key row) :
    (table.updateKey target guard change keepsKey).get? other =
      (table.get? other).map fun row =>
        if other = target ∧ guard row = true then change row else row := by
  have keyStep : ∀ row, key
      (if key row = target ∧ guard row = true then change row else row) =
        key row := by
    intro row
    by_cases selected : key row = target ∧ guard row = true
    · simp [selected, keepsKey]
    · simp [selected]
  cases found : table.get? other with
  | none =>
    rw [Option.map_none, get?_eq_none]
    intro row member
    obtain ⟨source, sourceMember, rfl⟩ := List.mem_map.mp member
    rw [keyStep]
    exact get?_eq_none.mp found source sourceMember
  | some row =>
    obtain ⟨member, rowKey⟩ := get?_eq_some.mp found
    rw [Option.map_some, get?_eq_some]
    refine ⟨?_, ?_⟩
    · refine List.mem_map.mpr ⟨row, member, ?_⟩
      rw [rowKey]
    · have := keyStep row
      rw [rowKey] at this
      exact this

/-- An update that selects no row changes nothing. -/
theorem updateKey_of_unselected (table : SqlTable key) (target : Key)
    (guard : Row → Bool) (change : Row → Row)
    (keepsKey : ∀ row, key (change row) = key row)
    (unselected : (table.get? target).any guard = false) :
    table.updateKey target guard change keepsKey = table := by
  obtain ⟨rows, keysNodup⟩ := table
  rw [updateKey, SqlTable.mk.injEq]
  conv_rhs => rw [← List.map_id rows]
  apply List.map_congr_left
  intro row member
  have notSelected : ¬(key row = target ∧ guard row = true) := by
    rintro ⟨rowKey, guarded⟩
    have found : SqlTable.get? ⟨rows, keysNodup⟩ target = some row :=
      get?_eq_some.mpr ⟨member, rowKey⟩
    rw [found] at unselected
    simp [guarded] at unselected
  simp [notSelected]

private theorem countP_key_of_nodup {rows : List Row}
    (nodup : (rows.map key).Nodup) (target : Key) (guard : Row → Bool) :
    (rows.countP fun row => decide (key row = target) && guard row) =
      if (rows.find? fun row => decide (key row = target)).any guard
        then 1 else 0 := by
  induction rows with
  | nil => simp
  | cons row rest inductionHypothesis =>
    obtain ⟨rowAbsent, restNodup⟩ := List.nodup_cons.mp nodup
    by_cases rowKey : key row = target
    · have absent : rest.countP
          (fun other => decide (key other = target) && guard other) = 0 := by
        rw [List.countP_eq_zero]
        intro other member
        have different : key other ≠ target := by
          intro otherKey
          apply rowAbsent
          rw [rowKey, ← otherKey]
          exact List.mem_map_of_mem member
        simp [different]
      by_cases guarded : guard row = true
      · simp [rowKey, guarded, absent]
      · simp [rowKey, guarded, absent]
    · simpa [rowKey] using inductionHypothesis restNodup

/-- A guarded update of one key selects a single row or none. -/
theorem rowsAffected_eq (table : SqlTable key) (target : Key)
    (guard : Row → Bool) :
    table.rowsAffected target guard =
      if (table.get? target).any guard then 1 else 0 :=
  countP_key_of_nodup table.keysNodup target guard

theorem rowsAffected_eq_one {table : SqlTable key} {target : Key}
    {guard : Row → Bool} :
    table.rowsAffected target guard = 1 ↔
      ∃ row, table.get? target = some row ∧ guard row = true := by
  rw [rowsAffected_eq]
  cases table.get? target with
  | none => simp
  | some row => simp

/-- An insertion succeeds exactly when the key is free, and adds the row. -/
theorem insert?_eq_some {table next : SqlTable key} {row : Row} :
    table.insert? row = some next ↔
      table.get? (key row) = none ∧ next.rows = table.rows ++ [row] := by
  have freeIff : table.get? (key row) = none ↔
      key row ∉ table.rows.map key := by
    rw [get?_eq_none]
    constructor
    · intro free member
      obtain ⟨other, otherMember, otherKey⟩ := List.mem_map.mp member
      exact free other otherMember otherKey
    · intro fresh other otherMember otherKey
      exact fresh (otherKey ▸ List.mem_map_of_mem otherMember)
  rw [freeIff]
  by_cases fresh : key row ∉ table.rows.map key
  · obtain ⟨nextRows, nextNodup⟩ := next
    rw [insert?, dif_pos fresh]
    simp only [Option.some.injEq, SqlTable.mk.injEq]
    exact ⟨fun same => ⟨fresh, same.symm⟩, fun same => same.2.symm⟩
  · rw [insert?, dif_neg fresh]
    simp only [reduceCtorEq, false_iff]
    exact fun both => fresh both.1

/-- A row with a free key is not refused. -/
theorem insert?_ne_none {table : SqlTable key} {row : Row}
    (free : table.get? (key row) = none) : table.insert? row ≠ none := by
  unfold insert?
  split
  · nofun
  · rename_i taken
    obtain ⟨other, member, same⟩ := List.mem_map.mp (not_not.mp taken)
    exact absurd same (get?_eq_none.mp free other member)

/-- What a key reads after an insertion. -/
theorem get?_insert {table next : SqlTable key} {row : Row}
    (inserted : table.insert? row = some next) (other : Key) :
    next.get? other =
      if other = key row then some row else table.get? other := by
  obtain ⟨free, nextRows⟩ := insert?_eq_some.mp inserted
  by_cases same : other = key row
  · rw [if_pos same, get?_eq_some, nextRows]
    exact ⟨by simp, same.symm⟩
  · rw [if_neg same, get?, nextRows, List.find?_append, get?]
    simp [Ne.symm same]

/-- What a key reads after a deletion. -/
theorem get?_deleteWhere (table : SqlTable key) (guard : Row → Bool)
    (target : Key) :
    (table.deleteWhere guard).get? target =
      (table.get? target).filter fun row => !guard row := by
  cases found : table.get? target with
  | none =>
    rw [Option.filter_none, get?_eq_none]
    intro row member
    exact get?_eq_none.mp found row (List.mem_of_mem_filter member)
  | some row =>
    obtain ⟨member, rowKey⟩ := get?_eq_some.mp found
    by_cases guarded : guard row = true
    · rw [Option.filter_some_neg (by simp [guarded]), get?_eq_none]
      intro other otherMember otherKey
      have otherInTable := List.mem_of_mem_filter otherMember
      have same := table.row_eq_of_key_eq otherInTable member
        (otherKey.trans rowKey.symm)
      rw [same] at otherMember
      simp [deleteWhere, guarded] at otherMember
    · rw [Option.filter_some_pos (by simp [guarded]), get?_eq_some]
      exact ⟨by simp [deleteWhere, member, guarded], rowKey⟩

/-- Where one key was written, a row is the one written or an old one. -/
theorem written_or_old {before after : SqlTable key} {written : Key}
    {row : Row}
    (reads : ∀ other, after.get? other =
      if other = written then some row else before.get? other)
    {other : Key} {otherRow : Row} (found : after.get? other = some otherRow) :
    (other = written ∧ otherRow = row) ∨
      (other ≠ written ∧ before.get? other = some otherRow) := by
  rw [reads] at found
  by_cases same : other = written
  · rw [if_pos same] at found
    exact Or.inl ⟨same, (Option.some.inj found).symm⟩
  · rw [if_neg same] at found
    exact Or.inr ⟨same, found⟩

end SqlTable
