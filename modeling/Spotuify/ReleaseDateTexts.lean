import Mathlib.Data.String.Basic
import Spotuify.ReleaseDates

/-!
# Texts of release dates

Which texts are read as release dates, and how the order of dates compares
with that of their texts.  The parser of numbers accepts a sign, so a part of
a date may begin with `+` in the place of its first digit.
-/

namespace Spotuify.Wire

/-- A numeral of ASCII digits. -/
structure IsNumeral (width : Nat) (part : List Char) : Prop where
  length : part.length = width
  digits : ∀ char ∈ part, char.isDigit = true

def numeralValue (part : List Char) : Nat := Nat.ofDigitChars 10 part 0

theorem numeralValue_cons (char : Char) (rest : List Char) :
    numeralValue (char :: rest) =
      10 ^ rest.length * (char.toNat - 48) + numeralValue rest := by
  rw [numeralValue, Nat.ofDigitChars_cons, Nat.ofDigitChars_eq_ofDigitChars_zero,
    Nat.mul_zero, Nat.zero_add]
  rfl

theorem toNat_of_isDigit {char : Char} (digit : char.isDigit = true) :
    48 ≤ char.toNat ∧ char.toNat ≤ 57 := by
  simp only [Char.isDigit, Bool.and_eq_true, decide_eq_true_eq] at digit
  exact ⟨UInt32.le_iff_toNat_le.mp digit.1, UInt32.le_iff_toNat_le.mp digit.2⟩

theorem numeralValue_lt {part : List Char}
    (digits : ∀ char ∈ part, char.isDigit = true) :
    numeralValue part < 10 ^ part.length := by
  induction part with
  | nil => decide
  | cons char rest ih =>
    have small := ih fun other member =>
      digits other (List.mem_cons_of_mem char member)
    have digit := toNat_of_isDigit (digits char List.mem_cons_self)
    have scaled : 10 ^ rest.length * (char.toNat - 48) ≤
        10 ^ rest.length * 9 :=
      Nat.mul_le_mul_left _ (by omega)
    rw [numeralValue_cons, List.length_cons, Nat.pow_succ]
    omega

/-- Numerals of one length are ordered as their values are. -/
theorem lt_iff_numeralValue_lt {first second : List Char}
    (sameLength : first.length = second.length)
    (firstDigits : ∀ char ∈ first, char.isDigit = true)
    (secondDigits : ∀ char ∈ second, char.isDigit = true) :
    first < second ↔ numeralValue first < numeralValue second := by
  induction first generalizing second with
  | nil =>
    obtain rfl := List.eq_nil_of_length_eq_zero sameLength.symm
    simp
  | cons char rest ih =>
    cases second with
    | nil => cases sameLength
    | cons other others =>
      have restLength : rest.length = others.length :=
        Nat.succ.inj sameLength
      have restDigits : ∀ char ∈ rest, char.isDigit = true :=
        fun char member => firstDigits char (List.mem_cons_of_mem _ member)
      have otherDigits : ∀ char ∈ others, char.isDigit = true :=
        fun char member => secondDigits char (List.mem_cons_of_mem _ member)
      have firstDigit := toNat_of_isDigit (firstDigits char List.mem_cons_self)
      have secondDigit :=
        toNat_of_isDigit (secondDigits other List.mem_cons_self)
      have firstSmall := numeralValue_lt restDigits
      have secondSmall := numeralValue_lt otherDigits
      rw [List.cons_lt_cons_iff, ih restLength restDigits otherDigits,
        numeralValue_cons, numeralValue_cons, ← restLength]
      rw [← restLength] at secondSmall
      have isLess : char < other ↔ char.toNat < other.toNat :=
        UInt32.lt_iff_toNat_lt
      have isSame : char = other ↔ char.toNat = other.toNat := Char.ext_iff.trans
        UInt32.toNat_inj.symm
      rw [isLess, isSame]
      rcases Nat.lt_trichotomy char.toNat other.toNat with less | same | greater
      · have scaled : 10 ^ rest.length * (char.toNat - 48 + 1) ≤
            10 ^ rest.length * (other.toNat - 48) :=
          Nat.mul_le_mul_left _ (by omega)
        rw [Nat.mul_succ] at scaled
        constructor
        · intro _
          omega
        · intro _
          exact .inl less
      · rw [same]
        omega
      · have scaled : 10 ^ rest.length * (other.toNat - 48 + 1) ≤
            10 ^ rest.length * (char.toNat - 48) :=
          Nat.mul_le_mul_left _ (by omega)
        rw [Nat.mul_succ] at scaled
        omega

theorem numeral_ext {width : Nat} {first second : List Char}
    (isFirst : IsNumeral width first) (isSecond : IsNumeral width second)
    (sameValue : numeralValue first = numeralValue second) :
    first = second := by
  have sameLength := isFirst.length.trans isSecond.length.symm
  rcases lt_trichotomy first second with less | same | greater
  · rw [lt_iff_numeralValue_lt sameLength isFirst.digits isSecond.digits,
      sameValue] at less
    exact absurd less (lt_irrefl _)
  · exact same
  · rw [lt_iff_numeralValue_lt sameLength.symm isSecond.digits isFirst.digits,
      sameValue] at greater
    exact absurd greater (lt_irrefl _)

theorem isNumeral_padded {width value : Nat} (positive : 0 < width)
    (small : value < 10 ^ width) : IsNumeral width (padded width value) where
  length := by
    rw [← byteLength_of_isDigit fun char => isDigit_of_mem_padded]
    exact byteLength_padded positive small
  digits := fun _ => isDigit_of_mem_padded

theorem numeralValue_padded (width value : Nat) :
    numeralValue (padded width value) = value := by
  rw [numeralValue, padded, List.leftpad, Nat.ofDigitChars_append,
    Nat.ofDigitChars_replicate_zero, Nat.mul_zero,
    Nat.ofDigitChars_ten_toDigits]

theorem padded_numeralValue {width : Nat} (positive : 0 < width)
    {part : List Char} (isNumeral : IsNumeral width part) :
    padded width (numeralValue part) = part := by
  have small := numeralValue_lt isNumeral.digits
  rw [isNumeral.length] at small
  exact numeral_ext (isNumeral_padded positive small) isNumeral
    (numeralValue_padded width _)

/-- A leading sign, read as the digit zero. -/
def readSign : List Char → List Char
  | '+' :: rest => '0' :: rest
  | part => part

/-- A text with the leading sign of each part read as zero. -/
def withoutSigns (text : List Char) : List Char :=
  ['-'].intercalate ((text.splitOn '-').map readSign)

/-- A part of a fixed width, in bytes. -/
def readPart (width max : Nat) (part : List Char) : Option Nat :=
  if byteLength part = width then parseUnsigned max part else none

theorem readSign_of_ne {char : Char} (notSign : char ≠ '+')
    (rest : List Char) : readSign (char :: rest) = char :: rest := by
  unfold readSign
  split
  case h_1 same => exact absurd (List.cons.inj same).1 notSign
  case h_2 => rfl

theorem readSign_readSign (part : List Char) :
    readSign (readSign part) = readSign part := by
  cases part with
  | nil => rfl
  | cons char rest =>
    by_cases isSign : char = '+'
    · subst isSign
      rfl
    · rw [readSign_of_ne isSign, readSign_of_ne isSign]

theorem numeralValue_zero_cons (rest : List Char) :
    numeralValue ('0' :: rest) = numeralValue rest := by
  rw [numeralValue_cons]
  exact Nat.zero_add _

/-- A number is read off its digits, and a sign is passed over. -/
theorem parseUnsigned_eq_some {max value : Nat} {part : List Char} :
    parseUnsigned max part = some value ↔
      part ≠ [] ∧ part ≠ ['+'] ∧
        (∀ char ∈ readSign part, char.isDigit = true) ∧
        numeralValue (readSign part) ≤ max ∧
        numeralValue (readSign part) = value := by
  cases part with
  | nil => simp [parseUnsigned]
  | cons char rest =>
    by_cases isSign : char = '+'
    · subst isSign
      rw [readSign, numeralValue_zero_cons]
      cases rest with
      | nil => simp [parseUnsigned]
      | cons digit others =>
        simp [parseUnsigned, numeralValue, and_assoc, and_comm]
    · rw [readSign_of_ne isSign]
      simp [parseUnsigned, isSign, numeralValue, and_assoc]

theorem byteLength_readSign (part : List Char) :
    byteLength (readSign part) = byteLength part := by
  unfold readSign
  split <;> rfl

/-- A part is read as a numeral of its width, apart from a sign. -/
theorem readPart_eq_some {width max value : Nat} (wide : 1 < width)
    (fits : 10 ^ width ≤ max + 1) {part : List Char} :
    readPart width max part = some value ↔
      IsNumeral width (readSign part) ∧
        numeralValue (readSign part) = value := by
  rw [readPart]
  constructor
  · intro read
    obtain ⟨isWide, parsed⟩ := Option.ite_none_right_eq_some.mp read
    obtain ⟨-, -, digits, -, isValue⟩ := parseUnsigned_eq_some.mp parsed
    refine ⟨⟨?_, digits⟩, isValue⟩
    rw [← byteLength_of_isDigit digits, byteLength_readSign, isWide]
  · rintro ⟨isNumeral, rfl⟩
    have isWide : byteLength part = width := by
      rw [← byteLength_readSign, byteLength_of_isDigit isNumeral.digits,
        isNumeral.length]
    have small := numeralValue_lt isNumeral.digits
    rw [isNumeral.length] at small
    rw [if_pos isWide, parseUnsigned_eq_some]
    refine ⟨?_, ?_, isNumeral.digits, by omega, rfl⟩
    · rintro rfl
      change 0 = width at isWide
      omega
    · rintro rfl
      change 1 = width at isWide
      omega

theorem readPart_readSign {width max : Nat} (wide : 1 < width)
    (fits : 10 ^ width ≤ max + 1) (part : List Char) :
    readPart width max (readSign part) = readPart width max part := by
  ext value
  rw [readPart_eq_some wide fits, readPart_eq_some wide fits,
    readSign_readSign]

namespace ReleaseDate

/-- A date from the parts of its text. -/
def ofParts : List (List Char) → Option ReleaseDate
  | [year] => do new (← readPart 4 65535 year) none none
  | [year, month] => do
    new (← readPart 4 65535 year) (← readPart 2 255 month) none
  | [year, month, day] => do
    new (← readPart 4 65535 year) (← readPart 2 255 month)
      (← readPart 2 255 day)
  | _ => none

theorem fromStr_eq_ofParts (text : String) :
    fromStr text = ofParts (text.toList.splitOn '-') := by
  rw [fromStr]
  split
  case h_1 year isParts =>
    rw [isParts, ofParts, readPart]
    split <;> rfl
  case h_2 year month isParts =>
    rw [isParts, ofParts, readPart, readPart]
    by_cases isYear : byteLength year = 4
    · by_cases isMonth : byteLength month = 2
      · simp [isYear, isMonth]
      · simp [isYear, isMonth]
    · simp [isYear]
  case h_3 year month day isParts =>
    rw [isParts, ofParts, readPart, readPart, readPart]
    by_cases isYear : byteLength year = 4
    · by_cases isMonth : byteLength month = 2
      · by_cases isDay : byteLength day = 2
        · simp [isYear, isMonth, isDay]
        · simp [isYear, isMonth, isDay]
      · simp [isYear, isMonth]
    · simp [isYear]
  case h_4 notYear notMonth notDay =>
    unfold ofParts
    split
    case h_1 year isParts => exact absurd isParts (notYear year)
    case h_2 year month isParts => exact absurd isParts (notMonth year month)
    case h_3 year month day isParts =>
      exact absurd isParts (notDay year month day)
    case h_4 => rfl

theorem ofParts_readSign (parts : List (List Char)) :
    ofParts (parts.map readSign) = ofParts parts := by
  have year := @readPart_readSign 4 65535 (by decide) (by decide)
  have other := @readPart_readSign 2 255 (by decide) (by decide)
  match parts with
  | [] => rfl
  | [_] => simp only [List.map_cons, List.map_nil, ofParts, year]
  | [_, _] => simp only [List.map_cons, List.map_nil, ofParts, year, other]
  | [_, _, _] => simp only [List.map_cons, List.map_nil, ofParts, year, other]
  | _ :: _ :: _ :: _ :: _ => rfl

theorem new_eq_some {year : Nat} {month day : Option Nat}
    {date : ReleaseDate} :
    new year month day = some date ↔
      date.year = year ∧ date.month = month ∧ date.day = day := by
  constructor
  · intro isNew
    rw [new] at isNew
    split at isNew
    · cases isNew
      exact ⟨rfl, rfl, rfl⟩
    · cases isNew
  · rintro ⟨rfl, rfl, rfl⟩
    exact date.new_eq

/-- The characters of a date's text, by its precision. -/
theorem display_of_year {date : ReleaseDate} (noMonth : date.month = none) :
    date.display.toList = padded 4 date.year := by
  simp [display, noMonth]

theorem display_of_month {date : ReleaseDate} {month : Nat}
    (isMonth : date.month = some month) (noDay : date.day = none) :
    date.display.toList = padded 4 date.year ++ '-' :: padded 2 month := by
  simp [display, isMonth, noDay]

theorem display_of_day {date : ReleaseDate} {month day : Nat}
    (isMonth : date.month = some month) (isDay : date.day = some day) :
    date.display.toList = padded 4 date.year ++ '-' ::
      (padded 2 month ++ '-' :: padded 2 day) := by
  simp [display, isMonth, isDay]

/-- A date that is read from parts is written with them, without signs. -/
theorem display_ofParts {parts : List (List Char)} {date : ReleaseDate}
    (read : ofParts parts = some date) :
    date.display.toList = ['-'].intercalate (parts.map readSign) := by
  have year {part : List Char} {value : Nat}
      (isRead : readPart 4 65535 part = some value) :
      padded 4 value = readSign part := by
    obtain ⟨isNumeral, rfl⟩ :=
      (readPart_eq_some (by decide) (by decide)).mp isRead
    exact padded_numeralValue (by decide) isNumeral
  have other {part : List Char} {value : Nat}
      (isRead : readPart 2 255 part = some value) :
      padded 2 value = readSign part := by
    obtain ⟨isNumeral, rfl⟩ :=
      (readPart_eq_some (by decide) (by decide)).mp isRead
    exact padded_numeralValue (by decide) isNumeral
  match parts with
  | [] => cases read
  | [yearPart] =>
    obtain ⟨yearValue, yearRead, isNew⟩ := Option.bind_eq_some_iff.mp read
    obtain ⟨isYear, noMonth, -⟩ := new_eq_some.mp isNew
    rw [display_of_year noMonth, isYear, year yearRead]
    simp
  | [yearPart, monthPart] =>
    obtain ⟨yearValue, yearRead, rest⟩ := Option.bind_eq_some_iff.mp read
    obtain ⟨monthValue, monthRead, isNew⟩ := Option.bind_eq_some_iff.mp rest
    obtain ⟨isYear, isMonth, noDay⟩ := new_eq_some.mp isNew
    rw [display_of_month isMonth noDay, isYear, year yearRead,
      other monthRead]
    simp
  | [yearPart, monthPart, dayPart] =>
    obtain ⟨yearValue, yearRead, rest⟩ := Option.bind_eq_some_iff.mp read
    obtain ⟨monthValue, monthRead, rest⟩ := Option.bind_eq_some_iff.mp rest
    obtain ⟨dayValue, dayRead, isNew⟩ := Option.bind_eq_some_iff.mp rest
    obtain ⟨isYear, isMonth, isDay⟩ := new_eq_some.mp isNew
    rw [display_of_day isMonth isDay, isYear, year yearRead, other monthRead,
      other dayRead]
    simp
  | _ :: _ :: _ :: _ :: _ => cases read

theorem not_mem_of_mem_splitOn {separator : Char} {text part : List Char}
    (isPart : part ∈ text.splitOn separator) : separator ∉ part := by
  induction text generalizing part with
  | nil =>
    rw [List.splitOn_nil, List.mem_singleton] at isPart
    rw [isPart]
    exact List.not_mem_nil
  | cons char rest ih =>
    rw [List.splitOn_cons_eq_if_modifyHead] at isPart
    split at isPart
    · rcases List.mem_cons.mp isPart with rfl | inRest
      · exact List.not_mem_nil
      · exact ih inRest
    case isFalse notSeparator =>
      cases parts : rest.splitOn separator with
      | nil => exact absurd parts (List.splitOn_ne_nil _ _)
      | cons first others =>
        rw [parts] at isPart
        rcases List.mem_cons.mp isPart with rfl | inOthers
        · intro member
          rcases List.mem_cons.mp member with rfl | inFirst
          · exact notSeparator (beq_self_eq_true _)
          · exact ih (parts ▸ List.mem_cons_self) inFirst
        · exact ih (parts ▸ List.mem_cons_of_mem first inOthers)

theorem not_mem_readSign {part : List Char} (absent : '-' ∉ part) :
    '-' ∉ readSign part := by
  unfold readSign
  split
  case h_1 rest =>
    intro member
    rcases List.mem_cons.mp member with isZero | inRest
    · cases isZero
    · exact absent (List.mem_cons_of_mem _ inRest)
  case h_2 => exact absent

/-- A text is read as a date exactly if without signs it is the date's own
text. -/
theorem fromStr_eq_some {text : String} {date : ReleaseDate} :
    fromStr text = some date ↔
      date.display.toList = withoutSigns text.toList := by
  constructor
  · intro read
    rw [fromStr_eq_ofParts] at read
    exact display_ofParts read
  · intro isText
    have apart : ∀ part ∈ (text.toList.splitOn '-').map readSign,
        '-' ∉ part := by
      intro part member
      obtain ⟨original, isPart, rfl⟩ := List.mem_map.mp member
      exact not_mem_readSign (not_mem_of_mem_splitOn isPart)
    have nonempty : (text.toList.splitOn '-').map readSign ≠ [] := by
      rw [Ne, List.map_eq_nil_iff]
      exact List.splitOn_ne_nil _ _
    rw [fromStr_eq_ofParts, ← ofParts_readSign,
      ← List.splitOn_intercalate '-' apart nonempty, ← withoutSigns, ← isText,
      ← fromStr_eq_ofParts, fromStr_display]

/-- `YYYY`, `YYYY-MM` or `YYYY-MM-DD`, in digits, with a month of the year and
a day of that month. -/
inductive IsDateText : List Char → Prop where
  | year {year : List Char} (isYear : IsNumeral 4 year) : IsDateText year
  | month {year month : List Char} (isYear : IsNumeral 4 year)
      (isMonth : IsNumeral 2 month)
      (ofYear : 1 ≤ numeralValue month ∧ numeralValue month ≤ 12) :
      IsDateText (year ++ '-' :: month)
  | day {year month day : List Char} (isYear : IsNumeral 4 year)
      (isMonth : IsNumeral 2 month) (isDay : IsNumeral 2 day)
      (ofYear : 1 ≤ numeralValue month ∧ numeralValue month ≤ 12)
      (ofMonth : 1 ≤ numeralValue day ∧
        numeralValue day ≤
          daysInMonth (numeralValue year) (numeralValue month)) :
      IsDateText (year ++ '-' :: (month ++ '-' :: day))

theorem isDateText_display (date : ReleaseDate) :
    IsDateText date.display.toList := by
  obtain ⟨yearBound, monthBound, dayBound⟩ := bounds date.valid
  have isYear : IsNumeral 4 (padded 4 date.year) :=
    isNumeral_padded (by decide) (by omega)
  have valid := date.valid
  cases month : date.month with
  | none =>
    rw [display_of_year month]
    exact .year isYear
  | some monthValue =>
    have monthSmall := monthBound monthValue month
    have isMonth : IsNumeral 2 (padded 2 monthValue) :=
      isNumeral_padded (by decide) (by omega)
    cases day : date.day with
    | none =>
      rw [month, day] at valid
      simp only [validateReleaseDate, Bool.and_eq_true,
        decide_eq_true_eq] at valid
      rw [display_of_month month day]
      refine .month isYear isMonth ?_
      rw [numeralValue_padded]
      exact valid.2
    | some dayValue =>
      have daySmall := (dayBound dayValue day).1
      rw [month, day] at valid
      simp only [validateReleaseDate, Bool.and_eq_true,
        decide_eq_true_eq] at valid
      obtain ⟨-, monthLow, monthHigh, dayLow, dayHigh⟩ := valid
      rw [display_of_day month day]
      refine .day isYear isMonth (isNumeral_padded (by decide) (by omega))
        ?_ ?_
      · rw [numeralValue_padded]
        exact ⟨monthLow, monthHigh⟩
      · rw [numeralValue_padded, numeralValue_padded, numeralValue_padded]
        exact ⟨dayLow, dayHigh⟩

/-- The texts of the grammar are those of dates. -/
theorem isDateText_iff {text : List Char} :
    IsDateText text ↔ ∃ date : ReleaseDate, date.display.toList = text := by
  constructor
  · intro isText
    have yearSmall {part : List Char} (isYear : IsNumeral 4 part) :
        numeralValue part ≤ 9999 := by
      have small := numeralValue_lt isYear.digits
      rw [isYear.length] at small
      omega
    cases isText with
    | year isYear =>
      have valid : validateReleaseDate (numeralValue text) none none = true := by
        simpa [validateReleaseDate] using yearSmall isYear
      refine ⟨⟨_, none, none, valid⟩, ?_⟩
      rw [display_of_year rfl, padded_numeralValue (by decide) isYear]
    | @month year month isYear isMonth ofYear =>
      have valid : validateReleaseDate (numeralValue year)
          (some (numeralValue month)) none = true := by
        simpa [validateReleaseDate] using ⟨yearSmall isYear, ofYear⟩
      refine ⟨⟨_, some _, none, valid⟩, ?_⟩
      rw [display_of_month rfl rfl, padded_numeralValue (by decide) isYear,
        padded_numeralValue (by decide) isMonth]
    | @day year month day isYear isMonth isDay ofYear ofMonth =>
      have valid : validateReleaseDate (numeralValue year)
          (some (numeralValue month)) (some (numeralValue day)) = true := by
        simpa [validateReleaseDate] using
          ⟨yearSmall isYear, ofYear.1, ofYear.2, ofMonth⟩
      refine ⟨⟨_, some _, some _, valid⟩, ?_⟩
      rw [display_of_day rfl rfl, padded_numeralValue (by decide) isYear,
        padded_numeralValue (by decide) isMonth,
        padded_numeralValue (by decide) isDay]
  · rintro ⟨date, rfl⟩
    exact date.isDateText_display

theorem isSome_fromStr (text : String) :
    (fromStr text).isSome ↔ IsDateText (withoutSigns text.toList) := by
  rw [Option.isSome_iff_exists, isDateText_iff]
  exact exists_congr fun date => fromStr_eq_some

/-- A text of the grammar has no signs. -/
theorem withoutSigns_of_isDateText {text : List Char}
    (isText : IsDateText text) : withoutSigns text = text := by
  obtain ⟨date, rfl⟩ := isDateText_iff.mp isText
  exact (fromStr_eq_some.mp date.fromStr_display).symm

/-- The derived order, in which an absent part comes first. -/
def cmp (first second : ReleaseDate) : Ordering :=
  (compare first.year second.year).then
    ((compare first.month second.month).then
      (compare first.day second.day))

theorem append_lt_append_iff {first second : List Char}
    (sameLength : first.length = second.length) (rest others : List Char) :
    first ++ rest < second ++ others ↔
      first < second ∨ first = second ∧ rest < others := by
  induction first generalizing second with
  | nil =>
    obtain rfl := List.eq_nil_of_length_eq_zero sameLength.symm
    simp
  | cons char chars ih =>
    cases second with
    | nil => cases sameLength
    | cons other more =>
      rw [List.cons_append, List.cons_append, List.cons_lt_cons_iff,
        List.cons_lt_cons_iff, ih (Nat.succ.inj sameLength), List.cons.injEq]
      tauto

/-- What is written behind numerals of one width is compared after them. -/
theorem padded_append_lt {width first second : Nat} (positive : 0 < width)
    (firstSmall : first < 10 ^ width) (secondSmall : second < 10 ^ width)
    (rest others : List Char) :
    padded width first ++ rest < padded width second ++ others ↔
      first < second ∨ first = second ∧ rest < others := by
  have isFirst := isNumeral_padded positive firstSmall
  have isSecond := isNumeral_padded positive secondSmall
  have sameLength := isFirst.length.trans isSecond.length.symm
  have isSame : padded width first = padded width second ↔ first = second := by
    refine ⟨fun same => ?_, fun same => congrArg _ same⟩
    rw [← numeralValue_padded width first, same, numeralValue_padded]
  rw [append_lt_append_iff sameLength, isSame,
    lt_iff_numeralValue_lt sameLength isFirst.digits isSecond.digits,
    numeralValue_padded, numeralValue_padded]

theorem hyphen_cons_lt (rest others : List Char) :
    '-' :: rest < '-' :: others ↔ rest < others := by
  simp

/-- Of two dates of equal precision the smaller one has the smaller text. -/
theorem cmp_eq_lt_iff {first second : ReleaseDate}
    (sameMonth : first.month.isSome = second.month.isSome)
    (sameDay : first.day.isSome = second.day.isSome) :
    first.cmp second = .lt ↔ first.display < second.display := by
  obtain ⟨firstYear, firstMonth, firstDay⟩ := bounds first.valid
  obtain ⟨secondYear, secondMonth, secondDay⟩ := bounds second.valid
  have year := @padded_append_lt 4 first.year second.year (by decide)
    (by omega) (by omega)
  rw [cmp, Ordering.then_eq_lt, Nat.compare_eq_lt, Nat.compare_eq_eq,
    Ordering.then_eq_lt, String.lt_iff_toList_lt]
  cases month : first.month with
  | none =>
    rw [month] at sameMonth
    have otherMonth : second.month = none := by
      simpa using sameMonth.symm
    have noDay : first.day = none := by
      rw [Option.eq_none_iff_forall_ne_some]
      intro value isDay
      have hasMonth := (firstDay value isDay).2
      rw [month] at hasMonth
      cases hasMonth
    have otherDay : second.day = none := by
      rw [noDay] at sameDay
      simpa using sameDay.symm
    rw [display_of_year month, display_of_year otherMonth, otherMonth, noDay,
      otherDay, ← List.append_nil (padded 4 first.year),
      ← List.append_nil (padded 4 second.year), year]
    simp
  | some monthValue =>
    rw [month] at sameMonth
    obtain ⟨otherMonthValue, otherMonth⟩ :=
      Option.isSome_iff_exists.mp sameMonth.symm
    have monthSmall := firstMonth monthValue month
    have otherMonthSmall := secondMonth otherMonthValue otherMonth
    have ofMonth := @padded_append_lt 2 monthValue otherMonthValue (by decide)
      (by omega) (by omega)
    have compareMonth : compare (some monthValue) (some otherMonthValue) =
        compare monthValue otherMonthValue := rfl
    rw [otherMonth, compareMonth, Nat.compare_eq_lt, Nat.compare_eq_eq]
    cases day : first.day with
    | none =>
      rw [day] at sameDay
      have otherDay : second.day = none := by
        simpa using sameDay.symm
      rw [display_of_month month day, display_of_month otherMonth otherDay,
        otherDay, year, hyphen_cons_lt, ← List.append_nil (padded 2 monthValue),
        ← List.append_nil (padded 2 otherMonthValue), ofMonth]
      simp
    | some dayValue =>
      rw [day] at sameDay
      obtain ⟨otherDayValue, otherDay⟩ :=
        Option.isSome_iff_exists.mp sameDay.symm
      have daySmall := (firstDay dayValue day).1
      have otherDaySmall := (secondDay otherDayValue otherDay).1
      have ofDay := @padded_append_lt 2 dayValue otherDayValue (by decide)
        (by omega) (by omega) [] []
      have compareDay : compare (some dayValue) (some otherDayValue) =
          compare dayValue otherDayValue := rfl
      rw [List.append_nil, List.append_nil] at ofDay
      rw [display_of_day month day, display_of_day otherMonth otherDay,
        otherDay, year, hyphen_cons_lt, ofMonth, hyphen_cons_lt, ofDay,
        compareDay, Nat.compare_eq_lt]
      simp

theorem ext_fields {first second : ReleaseDate}
    (sameYear : first.year = second.year)
    (sameMonth : first.month = second.month)
    (sameDay : first.day = second.day) : first = second := by
  obtain ⟨year, month, day, valid⟩ := first
  cases sameYear
  cases sameMonth
  cases sameDay
  rfl

theorem display_inj {first second : ReleaseDate} :
    first.display = second.display ↔ first = second := by
  refine ⟨fun same => ?_, fun same => congrArg display same⟩
  have read := first.fromStr_display
  rw [same, fromStr_display] at read
  exact (Option.some.inj read).symm

theorem cmp_eq_eq_iff {first second : ReleaseDate} :
    first.cmp second = .eq ↔ first.display = second.display := by
  rw [display_inj, cmp, Ordering.then_eq_eq, Ordering.then_eq_eq]
  simp only [Std.LawfulEqOrd.compare_eq_iff_eq]
  constructor
  · rintro ⟨sameYear, sameMonth, sameDay⟩
    exact ext_fields sameYear sameMonth sameDay
  · rintro rfl
    exact ⟨rfl, rfl, rfl⟩

/-- A text is accepted exactly if it is of the grammar, and is its own display
then, unless it is one with signs.  Dates are read back from their texts, and
dates of equal precision are ordered as their texts are, in any case. -/
theorem texts_of_dates (text : String) :
    (((fromStr text).isSome ↔ IsDateText text.toList) ∧
      (∀ date, fromStr text = some date → date.display = text) ∧
      (∀ date : ReleaseDate, fromStr date.display = some date) ∧
      ∀ first second : ReleaseDate,
        first.month.isSome = second.month.isSome →
        first.day.isSome = second.day.isSome →
        (first.cmp second = .lt ↔ first.display < second.display) ∧
          (first.cmp second = .eq ↔ first.display = second.display)) ↔
      withoutSigns text.toList = text.toList ∨
        ¬IsDateText (withoutSigns text.toList) := by
  constructor
  · rintro ⟨-, redisplays, -⟩
    cases read : fromStr text with
    | none =>
      right
      rw [← isSome_fromStr, read]
      exact nofun
    | some date =>
      left
      rw [← fromStr_eq_some.mp read, redisplays date read]
  · intro unsigned
    have acceptance : ((fromStr text).isSome ↔ IsDateText text.toList) ∧
        ∀ date, fromStr text = some date → date.display = text := by
      rcases unsigned with noSigns | notText
      · constructor
        · rw [isSome_fromStr, noSigns]
        · intro date read
          rw [fromStr_eq_some, noSigns] at read
          exact String.toList_inj.mp read
      · have rejected : fromStr text = none := by
          rw [← Option.not_isSome_iff_eq_none, isSome_fromStr]
          exact notText
        constructor
        · rw [rejected]
          refine ⟨nofun, fun isText => ?_⟩
          rw [withoutSigns_of_isDateText isText] at notText
          exact absurd isText notText
        · intro date read
          rw [rejected] at read
          cases read
    refine ⟨acceptance.1, acceptance.2, fromStr_display, ?_⟩
    intro first second sameMonth sameDay
    exact ⟨cmp_eq_lt_iff sameMonth sameDay, cmp_eq_eq_iff⟩

/-- A year with a sign is accepted and displayed without it. -/
theorem signed_year_accepted :
    (fromStr "+202").map display = some "0202" ∧
      ¬IsDateText "+202".toList := by
  refine ⟨by decide +kernel, fun isText => ?_⟩
  exact absurd (withoutSigns_of_isDateText isText) (by decide +kernel)

end ReleaseDate

end Spotuify.Wire
