import Mathlib.Tactic.SplitIfs
import Spotuify.Utf8Text

/-!
# Compact JSON text

Values are written without white space.  A character of a string is written as
it is, or as an escape of at most six bytes.  The bytes of an array and of an
object are those of their parts with the commas between them, and a number
that grows by one grows by at most one digit.
-/

namespace JsonText

open Utf8

def hexDigits : List Char := "0123456789abcdef".toList

def hexDigit (value : Nat) : Char := hexDigits[value]?.getD '0'

/-- A character inside a string. -/
def escape (char : Char) : List Char :=
  if char = '"' then ['\\', '"']
  else if char = '\\' then ['\\', '\\']
  else if char.toNat = 8 then ['\\', 'b']
  else if char.toNat = 9 then ['\\', 't']
  else if char.toNat = 10 then ['\\', 'n']
  else if char.toNat = 12 then ['\\', 'f']
  else if char.toNat = 13 then ['\\', 'r']
  else if char.toNat < 32 then
    ['\\', 'u', '0', '0', hexDigit (char.toNat / 16),
      hexDigit (char.toNat % 16)]
  else [char]

def string (text : List Char) : List Char :=
  '"' :: (text.flatMap escape ++ ['"'])

def number (value : Nat) : List Char := Nat.toDigits 10 value

def option {α : Type*} (write : α → List Char) : Option α → List Char
  | none => "null".toList
  | some value => write value

/-- Texts with commas between them. -/
def commas : List (List Char) → List Char
  | [] => []
  | [text] => text
  | text :: next :: texts => text ++ ',' :: commas (next :: texts)

def array (items : List (List Char)) : List Char :=
  '[' :: (commas items ++ [']'])

def field (entry : String × List Char) : List Char :=
  string entry.1.toList ++ ':' :: entry.2

def object (entries : List (String × List Char)) : List Char :=
  '{' :: (commas (entries.map field) ++ ['}'])

variable {char : Char} {text : List Char} {texts : List (List Char)}

theorem size_of_ascii (ascii : ∀ char ∈ text, char.toNat ≤ 127) :
    size text = text.length := by
  induction text with
  | nil => rfl
  | cons char text inductionHypothesis =>
    have one : char.utf8Size = 1 :=
      Char.utf8Size_eq_one_iff.mpr (ascii char List.mem_cons_self)
    rw [size_cons, one, List.length_cons, inductionHypothesis fun other member =>
      ascii other (List.mem_cons_of_mem _ member), Nat.add_comm]

theorem hexDigit_ascii (value : Nat) : (hexDigit value).toNat ≤ 127 := by
  have table : ('0' :: hexDigits).all (fun digit => digit.toNat ≤ 127) = true := by
    decide +kernel
  have member : hexDigit value ∈ '0' :: hexDigits := by
    unfold hexDigit
    cases digit : hexDigits[value]? with
    | none => exact List.mem_cons_self
    | some digit => exact List.mem_cons_of_mem _ (List.mem_of_getElem? ‹_›)
  exact of_decide_eq_true (List.all_eq_true.mp table _ member)

theorem size_escape_le : size (escape char) ≤ 6 := by
  have first := Char.utf8Size_eq_one_iff.mpr
    (hexDigit_ascii (char.toNat / 16))
  have second := Char.utf8Size_eq_one_iff.mpr
    (hexDigit_ascii (char.toNat % 16))
  have wide := char.utf8Size_le_four
  unfold escape
  split_ifs <;> simp only [size_cons, size_nil, first, second]
  all_goals first | decide | omega

theorem size_string_le : size (string text) ≤ 6 * text.length + 2 := by
  have escaped : size (text.flatMap escape) ≤ 6 * text.length := by
    induction text with
    | nil => exact Nat.le_refl 0
    | cons char text inductionHypothesis =>
      have one := @size_escape_le char
      rw [List.flatMap_cons, size_append, List.length_cons]
      omega
  have quote : Char.utf8Size '"' = 1 := rfl
  rw [string, size_cons, size_append, size_cons, size_nil, quote]
  omega

theorem size_number (value : Nat) :
    size (number value) = (number value).length := by
  apply size_of_ascii
  intro char member
  have digit := Nat.isDigit_of_mem_toDigits (by decide) (by decide) member
  have high := isAlphanum_iff.mp (by
    rw [Char.isAlphanum, digit, Bool.or_true] : char.isAlphanum = true)
  omega

theorem length_number_le {value digits : Nat} (positive : 0 < digits) :
    (number value).length ≤ digits ↔ value < 10 ^ digits :=
  Nat.length_toDigits_le_iff (by decide) positive

/-- A number that grows by one grows by at most one digit. -/
theorem size_number_succ_le (value : Nat) :
    size (number (value + 1)) ≤ size (number value) + 1 := by
  rw [size_number, size_number, length_number_le (Nat.succ_pos _)]
  have fits := (@length_number_le value (number value).length
    Nat.length_toDigits_pos).mp (Nat.le_refl _)
  rw [pow_succ]
  omega

theorem size_commas : size (commas texts) =
    (texts.map size).sum + (texts.length - 1) := by
  induction texts with
  | nil => rfl
  | cons text texts inductionHypothesis =>
    cases texts with
    | nil => simp [commas]
    | cons next texts =>
      have comma : Char.utf8Size ',' = 1 := rfl
      rw [commas, size_append, size_cons, inductionHypothesis, comma,
        List.map_cons (l := next :: texts), List.sum_cons]
      simp only [List.length_cons]
      omega

theorem size_array : size (array texts) =
    (texts.map size).sum + (texts.length - 1) + 2 := by
  have opening : Char.utf8Size '[' = 1 := rfl
  have closing : Char.utf8Size ']' = 1 := rfl
  rw [array, size_cons, size_append, size_commas, size_cons, size_nil, opening,
    closing]
  omega

/-- An array grows by its new last item. -/
theorem size_array_concat :
    size (array texts) + size text ≤ size (array (texts ++ [text])) := by
  rw [size_array, size_array, List.map_append, List.sum_append,
    List.length_append]
  simp only [List.map_cons, List.map_nil, List.sum_cons, List.sum_nil,
    List.length_cons, List.length_nil]
  omega

theorem size_object {entries : List (String × List Char)} :
    size (object entries) =
      (entries.map fun entry => size (string entry.1.toList) + 1 + size entry.2).sum +
        (entries.length - 1) + 2 := by
  have opening : Char.utf8Size '{' = 1 := rfl
  have closing : Char.utf8Size '}' = 1 := rfl
  have colon : Char.utf8Size ':' = 1 := rfl
  have written : (entries.map field).map size =
      entries.map fun entry => size (string entry.1.toList) + 1 + size entry.2 := by
    rw [List.map_map]
    apply List.map_congr_left
    intro entry _
    simp only [Function.comp_apply, field, size_append, size_cons, colon]
    omega
  rw [object, size_cons, size_append, size_commas, size_cons, size_nil, written,
    List.length_map, opening, closing]
  omega

end JsonText
