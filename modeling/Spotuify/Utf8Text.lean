import Mathlib.Algebra.BigOperators.Group.List.Basic
import Mathlib.Algebra.Ring.Nat

/-!
# Text by byte offsets

A text is a list of characters that is addressed by the bytes of its UTF-8
encoding.  Slicing is refused inside a character and when the offsets are out
of order.  A byte of the encoding tells an ASCII character from every other
one.  A pattern is looked for from left to right, without overlaps.
-/

namespace Utf8

/-- The code points of the ASCII letters and digits. -/
theorem isAlphanum_iff {char : Char} : char.isAlphanum = true ↔
    (48 ≤ char.toNat ∧ char.toNat ≤ 57) ∨
      (65 ≤ char.toNat ∧ char.toNat ≤ 90) ∨
      (97 ≤ char.toNat ∧ char.toNat ≤ 122) := by
  change ((decide (char.val ≥ 65 ∧ char.val ≤ 90) ||
    decide (char.val ≥ 97) && decide (char.val ≤ 122)) ||
      decide (char.val ≥ 48) && decide (char.val ≤ 57)) = true ↔ _
  simp only [Bool.or_eq_true, Bool.and_eq_true, decide_eq_true_eq, ge_iff_le,
    UInt32.le_iff_toNat_le]
  change ((65 ≤ char.toNat ∧ char.toNat ≤ 90) ∨
    97 ≤ char.toNat ∧ char.toNat ≤ 122) ∨
      48 ≤ char.toNat ∧ char.toNat ≤ 57 ↔ _
  omega

/-- The bytes of a text. -/
def bytes (text : List Char) : List UInt8 := text.flatMap String.utf8EncodeChar

def size (text : List Char) : Nat := (text.map Char.utf8Size).sum

/-- What follows an offset. -/
def sliceFrom : List Char → Nat → Option (List Char)
  | text, 0 => some text
  | [], _ + 1 => none
  | char :: rest, offset =>
    if char.utf8Size ≤ offset then sliceFrom rest (offset - char.utf8Size)
    else none

/-- What precedes an offset. -/
def sliceTo : List Char → Nat → Option (List Char)
  | _, 0 => some []
  | [], _ + 1 => none
  | char :: rest, offset =>
    if char.utf8Size ≤ offset then
      (sliceTo rest (offset - char.utf8Size)).map (char :: ·)
    else none

def slice (text : List Char) (start stop : Nat) : Option (List Char) :=
  if start ≤ stop then
    (sliceFrom text start).bind fun rest => sliceTo rest (stop - start)
  else none

/-- Where a pattern occurs, without overlaps: `skip` characters still belong to
the last occurrence. -/
def matchIndices (pattern : List Char) : Nat → Nat → List Char → List Nat
  | _, _, [] => []
  | offset, skip + 1, char :: rest =>
    matchIndices pattern (offset + char.utf8Size) skip rest
  | offset, 0, char :: rest =>
    if pattern.isPrefixOf (char :: rest) then
      offset :: matchIndices pattern (offset + char.utf8Size)
        (pattern.length - 1) rest
    else matchIndices pattern (offset + char.utf8Size) 0 rest

variable {first second third : List Char} {char : Char} {byte : UInt8}

@[simp]
theorem size_nil : size [] = 0 := rfl

@[simp]
theorem size_cons : size (char :: first) = char.utf8Size + size first := by
  simp [size]

@[simp]
theorem size_append : size (first ++ second) = size first + size second := by
  simp [size]

theorem size_pos (nonempty : first ≠ []) : 0 < size first := by
  cases first with
  | nil => exact absurd rfl nonempty
  | cons char rest =>
    have positive := char.utf8Size_pos
    rw [size_cons]
    omega

@[simp]
theorem sliceFrom_append : sliceFrom (first ++ second) (size first) =
    some second := by
  induction first with
  | nil => simp [sliceFrom]
  | cons char rest ih =>
    have positive := size_pos (List.cons_ne_nil char rest)
    rw [List.cons_append, sliceFrom, size_cons, if_pos (Nat.le_add_right _ _),
      Nat.add_sub_cancel_left, ih]
    omega

@[simp]
theorem sliceTo_append : sliceTo (first ++ second) (size first) =
    some first := by
  induction first with
  | nil => simp [sliceTo]
  | cons char rest ih =>
    have positive := size_pos (List.cons_ne_nil char rest)
    rw [List.cons_append, sliceTo, size_cons, if_pos (Nat.le_add_right _ _),
      Nat.add_sub_cancel_left, ih]
    · rfl
    · omega

theorem slice_append : slice (first ++ second ++ third) (size first)
    (size (first ++ second)) = some second := by
  rw [slice, if_pos (by simp), List.append_assoc, sliceFrom_append,
    Option.bind_some, size_append, Nat.add_sub_cancel_left, sliceTo_append]

theorem slice_eq_none {start stop : Nat} (reversed : stop < start) :
    slice first start stop = none :=
  if_neg (Nat.not_le_of_lt reversed)

@[simp]
theorem bytes_append : bytes (first ++ second) = bytes first ++ bytes second :=
  List.flatMap_append

@[simp]
theorem length_bytes : (bytes first).length = size first := by
  induction first with
  | nil => rfl
  | cons char rest ih =>
    rw [bytes, List.flatMap_cons, List.length_append, size_cons,
      String.length_utf8EncodeChar]
    exact congrArg (char.utf8Size + ·) ih

/-- A byte of a character's encoding: the character itself if that is in
ASCII, and beyond ASCII otherwise. -/
def Encodes (char : Char) (byte : UInt8) : Prop :=
  if char.toNat < 128 then byte.toNat = char.toNat else 128 ≤ byte.toNat

theorem encodes_of_mem (member : byte ∈ String.utf8EncodeChar char) :
    Encodes char byte := by
  unfold Encodes
  have code : char.val.toNat = char.toNat := rfl
  unfold String.utf8EncodeChar at member
  simp only at member
  rw [code] at member
  split at member
  · rename_i small
    rw [List.mem_singleton] at member
    subst member
    rw [if_pos (by omega), UInt8.toNat_ofNat']
    omega
  · rw [if_neg (by omega)]
    split at member
    · simp only [List.mem_cons, List.not_mem_nil, or_false] at member
      rcases member with rfl | rfl <;> rw [UInt8.toNat_ofNat'] <;> omega
    · split at member
      · simp only [List.mem_cons, List.not_mem_nil, or_false] at member
        rcases member with rfl | rfl | rfl <;> rw [UInt8.toNat_ofNat'] <;>
          omega
      · simp only [List.mem_cons, List.not_mem_nil, or_false] at member
        rcases member with rfl | rfl | rfl | rfl <;>
          rw [UInt8.toNat_ofNat'] <;> omega

/-- The byte at a character's offset is one of its own. -/
theorem getElem?_bytes_cons :
    ∃ byte, (bytes (first ++ char :: second))[size first]? = some byte ∧
      Encodes char byte := by
  obtain ⟨byte, rest, encoded⟩ :=
    List.exists_cons_of_ne_nil (String.utf8EncodeChar_ne_nil (c := char))
  refine ⟨byte, ?_, encodes_of_mem (by simp [encoded])⟩
  rw [bytes_append, List.getElem?_append_right (by simp), length_bytes,
    Nat.sub_self, bytes, List.flatMap_cons, encoded]
  rfl

theorem getElem?_bytes_nil : (bytes first)[size first]? = none := by
  simp

/-- So is the byte before the offset that follows it. -/
theorem getElem?_bytes_concat :
    ∃ byte, (bytes (first ++ [char] ++ second))[size (first ++ [char]) - 1]? =
        some byte ∧ Encodes char byte := by
  have nonempty := String.utf8EncodeChar_ne_nil (c := char)
  have positive := char.utf8Size_pos
  refine ⟨(String.utf8EncodeChar char).getLast nonempty, ?_,
    encodes_of_mem (List.getLast_mem nonempty)⟩
  have last : (bytes [char]) = String.utf8EncodeChar char := by simp [bytes]
  rw [bytes_append, List.getElem?_append_left (by simp; omega), bytes_append,
    List.getElem?_append_right (by simp; omega), last, size_append,
    length_bytes]
  simp only [size_cons, size_nil, Nat.add_zero]
  rw [show size first + char.utf8Size - 1 - size first =
      (String.utf8EncodeChar char).length - 1 by simp; omega,
    ← List.getLast?_eq_getElem?, List.getLast?_eq_getLast_of_ne_nil nonempty]

/-- No occurrence of the pattern begins inside another one. -/
def Unbordered (pattern : List Char) : Prop :=
  ∀ shift < pattern.length, 0 < shift → ¬pattern.drop shift <+: pattern

variable {pattern text : List Char}

theorem Unbordered.apart (unbordered : Unbordered pattern) {shift : Nat}
    (positive : 0 < shift) (inside : shift < pattern.length)
    (occurs : pattern <+: text) : ¬pattern <+: text.drop shift := by
  intro again
  apply unbordered shift inside positive
  obtain ⟨rest, rfl⟩ := occurs
  rw [List.drop_append_of_le_length inside.le] at again
  refine List.prefix_of_prefix_length_le (List.prefix_append _ _) again ?_
  rw [List.length_drop]
  omega

/-- Of an unbordered pattern every occurrence is found. -/
theorem mem_matchIndices (unbordered : Unbordered pattern)
    (nonempty : pattern ≠ []) {start skip offset : Nat}
    (skipped : ∀ shift < skip, ¬pattern <+: text.drop shift) :
    offset ∈ matchIndices pattern start skip text ↔
      ∃ before rest, text = before ++ rest ∧ pattern <+: rest ∧
        offset = start + size before := by
  induction text generalizing start skip with
  | nil =>
    simp only [matchIndices, List.not_mem_nil, false_iff]
    rintro ⟨before, rest, split, occurs, -⟩
    obtain ⟨-, rfl⟩ := List.append_eq_nil_iff.mp split.symm
    exact nonempty (List.prefix_nil.mp occurs)
  | cons char rest ih =>
    -- an occurrence is at the head or in the tail
    have shifted : (∃ before after, char :: rest = before ++ after ∧
        pattern <+: after ∧ offset = start + size before) ↔
          (pattern <+: char :: rest ∧ offset = start) ∨
            ∃ before after, rest = before ++ after ∧ pattern <+: after ∧
              offset = start + char.utf8Size + size before := by
      constructor
      · rintro ⟨before, after, split, occurs, rfl⟩
        cases before with
        | nil =>
          left
          rw [List.nil_append] at split
          exact ⟨split ▸ occurs, rfl⟩
        | cons first others =>
          right
          cases split
          exact ⟨others, after, rfl, occurs, by rw [size_cons, Nat.add_assoc]⟩
      · rintro (⟨occurs, rfl⟩ | ⟨before, after, split, occurs, rfl⟩)
        · exact ⟨[], char :: rest, rfl, occurs, rfl⟩
        · exact ⟨char :: before, after, by rw [split]; rfl, occurs,
            by rw [size_cons, Nat.add_assoc]⟩
    rw [shifted]
    cases skip with
    | succ skip =>
      have absent := skipped 0 (Nat.succ_pos _)
      rw [List.drop_zero] at absent
      rw [matchIndices, ih]
      · exact ⟨Or.inr, fun found =>
          found.resolve_left fun atHead => absent atHead.1⟩
      · intro shift small
        exact skipped (shift + 1) (by omega)
    | zero =>
      rw [matchIndices]
      split
      · rename_i isPrefix
        have occurs := List.isPrefixOf_iff_prefix.mp isPrefix
        rw [List.mem_cons, ih]
        · exact or_congr_left ⟨fun same => ⟨occurs, same⟩, And.right⟩
        · intro shift small
          have absent := unbordered.apart (Nat.succ_pos shift)
            (by omega) occurs
          rwa [List.drop_succ_cons] at absent
      · rename_i notPrefix
        have absent : ¬pattern <+: char :: rest := fun occurs =>
          notPrefix (List.isPrefixOf_iff_prefix.mpr occurs)
        rw [ih]
        · exact ⟨Or.inr, fun found =>
            found.resolve_left fun atHead => absent atHead.1⟩
        · intro shift small
          exact absurd small (Nat.not_lt_zero _)

end Utf8
