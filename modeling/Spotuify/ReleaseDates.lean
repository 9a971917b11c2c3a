import Mathlib.Algebra.BigOperators.Group.List.Basic
import Mathlib.Algebra.Ring.Nat

/-!
# Release dates

A release date is known to the year, the month or the day, and is written as a
text of one, two or three parts.  Every valid date is read back from its text.
-/

namespace Spotuify.Wire

def byteLength (chars : List Char) : Nat := (chars.map Char.utf8Size).sum

/-- `str::parse` to an unsigned integer. -/
def parseUnsigned (max : Nat) (chars : List Char) : Option Nat :=
  let digits := if chars.head? = some '+' then chars.tail else chars
  if digits.isEmpty = false ∧ digits.all Char.isDigit = true ∧
      Nat.ofDigitChars 10 digits 0 ≤ max then
    some (Nat.ofDigitChars 10 digits 0)
  else none

/-- A number in decimal, with zeros in front up to a width. -/
def padded (width value : Nat) : List Char :=
  (Nat.toDigits 10 value).leftpad width '0'

def daysInMonth (year month : Nat) : Nat :=
  if month = 2 then
    if year % 4 = 0 ∧ (year % 100 ≠ 0 ∨ year % 400 = 0) then 29 else 28
  else if month ∈ [4, 6, 9, 11] then 30
  else 31

def validateReleaseDate (year : Nat) (month day : Option Nat) : Bool :=
  decide (year ≤ 9999) &&
    match month, day with
    | none, none => true
    | none, some _ => false
    | some month, none => decide (1 ≤ month ∧ month ≤ 12)
    | some month, some day =>
      decide (1 ≤ month ∧ month ≤ 12 ∧ 1 ≤ day ∧ day ≤ daysInMonth year month)

structure ReleaseDate where
  year : Nat
  month : Option Nat
  day : Option Nat
  valid : validateReleaseDate year month day = true

namespace ReleaseDate

def new (year : Nat) (month day : Option Nat) : Option ReleaseDate :=
  if valid : validateReleaseDate year month day = true then
    some ⟨year, month, day, valid⟩
  else none

def fromStr (value : String) : Option ReleaseDate :=
  match value.toList.splitOn '-' with
  | [year] =>
    if byteLength year = 4 then do
      new (← parseUnsigned 65535 year) none none
    else none
  | [year, month] =>
    if byteLength year = 4 ∧ byteLength month = 2 then do
      new (← parseUnsigned 65535 year) (← parseUnsigned 255 month) none
    else none
  | [year, month, day] =>
    if byteLength year = 4 ∧ byteLength month = 2 ∧ byteLength day = 2 then do
      new (← parseUnsigned 65535 year) (← parseUnsigned 255 month)
        (← parseUnsigned 255 day)
    else none
  | _ => none

def display (date : ReleaseDate) : String :=
  String.ofList <|
    match date.month, date.day with
    | none, _ => padded 4 date.year
    | some month, none => padded 4 date.year ++ '-' :: padded 2 month
    | some month, some day =>
      padded 4 date.year ++ '-' :: (padded 2 month ++ '-' :: padded 2 day)

end ReleaseDate

theorem utf8Size_of_isDigit {char : Char} (digit : char.isDigit = true) :
    char.utf8Size = 1 := by
  simp only [Char.isDigit, Bool.and_eq_true, decide_eq_true_eq] at digit
  have small : char.val ≤ 127 := UInt32.le_trans digit.2 (by decide)
  simp [Char.utf8Size, small]

theorem byteLength_of_isDigit {chars : List Char}
    (digits : ∀ char ∈ chars, char.isDigit = true) :
    byteLength chars = chars.length := by
  induction chars with
  | nil => rfl
  | cons char rest ih =>
    have first := utf8Size_of_isDigit (digits char (List.mem_cons_self ..))
    have others := ih fun other member =>
      digits other (List.mem_cons_of_mem _ member)
    simp only [byteLength, List.map_cons, List.sum_cons, List.length_cons,
      first] at others ⊢
    omega

variable {width value max : Nat}

theorem isDigit_of_mem_padded {char : Char} (member : char ∈ padded width value) :
    char.isDigit = true := by
  simp only [padded, List.leftpad, List.mem_append, List.mem_replicate] at member
  rcases member with ⟨-, rfl⟩ | digit
  · rfl
  · exact Nat.isDigit_of_mem_toDigits (by decide) (by decide) digit

theorem not_mem_padded {char : Char} (other : char.isDigit = false) :
    char ∉ padded width value := by
  intro member
  rw [isDigit_of_mem_padded member] at other
  cases other

/-- A padded number has its width, unless it is too large for it. -/
theorem byteLength_padded (positive : 0 < width) (small : value < 10 ^ width) :
    byteLength (padded width value) = width := by
  have short : (Nat.toDigits 10 value).length ≤ width :=
    (Nat.length_toDigits_le_iff (by decide) positive).mpr small
  rw [byteLength_of_isDigit fun char => isDigit_of_mem_padded, padded,
    List.leftpad, List.length_append, List.length_replicate]
  omega

theorem parseUnsigned_padded (small : value ≤ max) :
    parseUnsigned max (padded width value) = some value := by
  have noSign : (padded width value).head? ≠ some '+' := by
    intro sign
    exact not_mem_padded rfl (List.mem_of_head? sign)
  have notEmpty : (padded width value).isEmpty = false := by
    simp [padded, List.leftpad]
  have digits : (padded width value).all Char.isDigit = true :=
    List.all_eq_true.mpr fun char => isDigit_of_mem_padded
  have back : Nat.ofDigitChars 10 (padded width value) 0 = value := by
    rw [padded, List.leftpad, Nat.ofDigitChars_append,
      Nat.ofDigitChars_replicate_zero, Nat.mul_zero,
      Nat.ofDigitChars_ten_toDigits]
  simp only [parseUnsigned, if_neg noSign, notEmpty, digits, back, small,
    and_self, if_true]

namespace ReleaseDate

theorem daysInMonth_le (year month : Nat) : daysInMonth year month ≤ 31 := by
  unfold daysInMonth
  split
  · split <;> decide
  · split <;> decide

theorem new_eq (date : ReleaseDate) :
    new date.year date.month date.day = some date :=
  dif_pos date.valid

/-- What is valid fits the widths it is written with. -/
theorem bounds {year : Nat} {month day : Option Nat}
    (valid : validateReleaseDate year month day = true) :
    year ≤ 9999 ∧ (∀ value ∈ month, value ≤ 12) ∧
      ∀ value ∈ day, value ≤ 31 ∧ month.isSome := by
  simp only [validateReleaseDate, Bool.and_eq_true, decide_eq_true_eq] at valid
  obtain ⟨yearBound, valid⟩ := valid
  refine ⟨yearBound, ?_⟩
  cases month with
  | none =>
    cases day with
    | none => simp
    | some day => cases valid
  | some month =>
    cases day with
    | none => simpa using (of_decide_eq_true valid).2
    | some day =>
      have dayBound := daysInMonth_le year month
      have inRange := of_decide_eq_true valid
      simp only [Option.mem_def, Option.some.injEq, forall_eq', Option.isSome,
        and_true]
      omega

/-- Every date is read back from its text. -/
theorem fromStr_display (date : ReleaseDate) :
    fromStr date.display = some date := by
  have same := date.new_eq
  obtain ⟨yearBound, monthBound, dayBound⟩ := bounds date.valid
  have apart {width value : Nat} : '-' ∉ padded width value :=
    not_mem_padded rfl
  have yearLength : byteLength (padded 4 date.year) = 4 :=
    byteLength_padded (by decide) (by omega)
  have yearRead : parseUnsigned 65535 (padded 4 date.year) = some date.year :=
    parseUnsigned_padded (by omega)
  cases month : date.month with
  | none =>
    cases day : date.day with
    | none =>
      rw [month, day] at same
      simp [fromStr, display, month, List.splitOn_eq_singleton apart,
        yearLength, yearRead, same]
    | some ofMonth =>
      rw [month] at dayBound
      cases (dayBound ofMonth day).2
  | some value =>
    have small := monthBound value month
    have monthLength : byteLength (padded 2 value) = 2 :=
      byteLength_padded (by decide) (by omega)
    have monthRead : parseUnsigned 255 (padded 2 value) = some value :=
      parseUnsigned_padded (by omega)
    cases day : date.day with
    | none =>
      rw [month, day] at same
      simp [fromStr, display, month, day,
        List.splitOn_append_cons_self_of_not_mem apart,
        List.splitOn_eq_singleton apart, yearLength, yearRead, monthLength,
        monthRead, same]
    | some ofMonth =>
      have short := (dayBound ofMonth day).1
      have dayLength : byteLength (padded 2 ofMonth) = 2 :=
        byteLength_padded (by decide) (by omega)
      have dayRead : parseUnsigned 255 (padded 2 ofMonth) = some ofMonth :=
        parseUnsigned_padded (by omega)
      rw [month, day] at same
      simp [fromStr, display, month, day,
        List.splitOn_append_cons_self_of_not_mem apart,
        List.splitOn_eq_singleton apart, yearLength, yearRead, monthLength,
        monthRead, dayLength, dayRead, same]

end ReleaseDate

end Spotuify.Wire
