import Spotuify.PlaybackClock
import Spotuify.RateLimits

/-!
# Seek expressions

What a user types after `seek`: an absolute position, or an offset with a sign
and a unit.  The amount is an unsigned number, saturated by its unit and then
cast to a signed one, and so is the position the offset is added to.
-/

namespace Spotuify

/-- `char::is_whitespace`. -/
def isWhitespace (char : Char) : Bool :=
  let code := char.toNat
  (0x09 ≤ code && code ≤ 0x0D) || code == 0x20 || code == 0x85 ||
    code == 0xA0 || code == 0x1680 || (0x2000 ≤ code && code ≤ 0x200A) ||
    code == 0x2028 || code == 0x2029 || code == 0x202F || code == 0x205F ||
    code == 0x3000

/-- `str::trim`. -/
def trim (chars : List Char) : List Char :=
  ((chars.dropWhile isWhitespace).reverse.dropWhile isWhitespace).reverse

/-- `u64::saturating_mul`. -/
def saturatingMul (first second : Nat) : Nat := min (2 ^ 64 - 1) (first * second)

/-- `i64::saturating_mul`. -/
def saturatingMulSigned (first second : Int) : Int :=
  max (-(2 ^ 63)) (min (2 ^ 63 - 1) (first * second))

inductive SeekInput where
  | absolute (ms : Nat)
  | relative (offsetMs : Int)
  deriving DecidableEq

def parseDurationMs (value : List Char) : Except String Nat :=
  let (number, multiplier) :=
    match value.dropSuffix? ['m', 's'] with
    | some number => (number, 1)
    | none =>
      match value.dropSuffix? ['s'] with
      | some number => (number, 1000)
      | none =>
        match value.dropSuffix? ['m'] with
        | some number => (number, 60000)
        | none => (value, 1000)
  match parseU64 number with
  | some amount => .ok (saturatingMul amount multiplier)
  | none =>
    .error ("invalid seek duration `" ++ String.ofList value ++
      "`; try +15s or -30s")

def parseSeekInput (input : String) : Except String SeekInput :=
  match trim input.toList with
  | [] => .error "seek target is required"
  | first :: rest =>
    let (sign, value) : Int × List Char :=
      if first = '+' then (1, rest)
      else if first = '-' then (-1, rest)
      else (0, first :: rest)
    match parseDurationMs value with
    | .error message => .error message
    | .ok durationMs =>
      if sign = 0 then .ok (.absolute durationMs)
      else .ok (.relative (saturatingMulSigned sign (asSigned durationMs)))

def parseSeekTarget (input : String) (currentMs : UInt64) :
    Except String Nat :=
  match parseSeekInput input with
  | .error message => .error message
  | .ok (.absolute ms) => .ok ms
  | .ok (.relative offsetMs) =>
    .ok (max (saturatingAddSigned (asSigned currentMs.toNat) offsetMs) 0).toNat

/-- The first byte of an expression that is not blank. -/
def firstNonBlank (input : String) : Option Char := (trim input.toList).head?

/-- The target and the offset of an accepted expression lie in the direction
of its sign. -/
def SeeksBySign (input : String) (currentMs : UInt64) : Prop :=
  ∀ sought target, parseSeekInput input = .ok sought →
    parseSeekTarget input currentMs = .ok target →
      (firstNonBlank input = some '+' →
        min currentMs.toNat (2 ^ 63 - 1) ≤ target ∧
          ∀ offsetMs, sought = .relative offsetMs → 0 ≤ offsetMs) ∧
      (firstNonBlank input = some '-' →
        target ≤ currentMs.toNat ∧
          ∀ offsetMs, sought = .relative offsetMs → offsetMs ≤ 0)

/-- The amount of a signed expression, and the position a forward one starts
from, are below the sign bit. -/
def FitsSigned (input : String) (currentMs : UInt64) : Prop :=
  ∀ sign value durationMs, trim input.toList = sign :: value →
    sign = '+' ∨ sign = '-' → parseDurationMs value = .ok durationMs →
      durationMs < 2 ^ 63 ∧ (sign = '+' → currentMs.toNat < 2 ^ 63)

theorem parseDurationMs_lt {value : List Char} {durationMs : Nat}
    (parsed : parseDurationMs value = .ok durationMs) :
    durationMs < 2 ^ 64 := by
  unfold parseDurationMs at parsed
  dsimp only at parsed
  split at parsed
  · cases parsed
    simp only [saturatingMul]
    omega
  · cases parsed

theorem parseSeekInput_plus {input : String} {value : List Char}
    (plus : trim input.toList = '+' :: value) :
    parseSeekInput input =
      (parseDurationMs value).map fun durationMs =>
        .relative (saturatingMulSigned 1 (asSigned durationMs)) := by
  simp only [parseSeekInput, plus, if_true]
  cases parseDurationMs value with
  | error message => rfl
  | ok durationMs => rfl

theorem parseSeekInput_minus {input : String} {value : List Char}
    (minus : trim input.toList = '-' :: value) :
    parseSeekInput input =
      (parseDurationMs value).map fun durationMs =>
        .relative (saturatingMulSigned (-1) (asSigned durationMs)) := by
  have notPlus : ('-' : Char) ≠ '+' := by decide
  simp only [parseSeekInput, minus, notPlus, if_false, if_true]
  cases parseDurationMs value with
  | error message => rfl
  | ok durationMs => rfl

section Arithmetic

variable {durationMs : Nat} (currentMs : UInt64)

/-- Adding the amount moves forward exactly below the sign bits. -/
theorem forward_iff (representable : durationMs < 2 ^ 64) :
    (min currentMs.toNat (2 ^ 63 - 1) ≤
        (max (saturatingAddSigned (asSigned currentMs.toNat)
          (saturatingMulSigned 1 (asSigned durationMs))) 0).toNat ∧
      0 ≤ saturatingMulSigned 1 (asSigned durationMs)) ↔
      durationMs < 2 ^ 63 ∧ currentMs.toNat < 2 ^ 63 := by
  have bound := currentMs.toNat_lt
  simp only [saturatingAddSigned, saturatingMulSigned, asSigned]
  split <;> split <;> omega

/-- Subtracting the amount moves backward exactly below its sign bit. -/
theorem backward_iff (representable : durationMs < 2 ^ 64) :
    ((max (saturatingAddSigned (asSigned currentMs.toNat)
          (saturatingMulSigned (-1) (asSigned durationMs))) 0).toNat ≤
        currentMs.toNat ∧
      saturatingMulSigned (-1) (asSigned durationMs) ≤ 0) ↔
      durationMs < 2 ^ 63 := by
  have bound := currentMs.toNat_lt
  simp only [saturatingAddSigned, saturatingMulSigned, asSigned]
  split <;> split <;> omega

end Arithmetic

section Signs

variable {input : String} {value : List Char} {currentMs : UInt64}

theorem firstNonBlank_of_trim {sign : Char}
    (trimmed : trim input.toList = sign :: value) :
    firstNonBlank input = some sign := by
  rw [firstNonBlank, trimmed, List.head?_cons]

/-- The target of an accepted offset. -/
theorem parseSeekTarget_of_relative {offsetMs : Int}
    (accepted : parseSeekInput input = .ok (.relative offsetMs)) :
    parseSeekTarget input currentMs = .ok
      (max (saturatingAddSigned (asSigned currentMs.toNat) offsetMs) 0).toNat := by
  rw [parseSeekTarget, accepted]

theorem seeksBySign_plus_iff (plus : trim input.toList = '+' :: value) :
    SeeksBySign input currentMs ↔
      ∀ durationMs, parseDurationMs value = .ok durationMs →
        durationMs < 2 ^ 63 ∧ currentMs.toNat < 2 ^ 63 := by
  have first := firstNonBlank_of_trim plus
  have notMinus : firstNonBlank input ≠ some '-' := by
    rw [first]
    decide
  constructor
  · intro seeks durationMs parsed
    have accepted := parseSeekInput_plus plus
    rw [parsed] at accepted
    have forward := (seeks _ _ accepted
      (parseSeekTarget_of_relative accepted)).1 first
    exact (forward_iff currentMs (parseDurationMs_lt parsed)).mp
      ⟨forward.1, forward.2 _ rfl⟩
  · intro fits sought target accepted aimed
    refine ⟨fun _ => ?_, fun minus => absurd minus notMinus⟩
    have signed := parseSeekInput_plus plus
    cases parsed : parseDurationMs value with
    | error message =>
      rw [parsed, accepted] at signed
      cases signed
    | ok durationMs =>
      rw [parsed] at signed
      rw [parseSeekTarget_of_relative signed] at aimed
      rw [signed] at accepted
      cases accepted
      cases aimed
      have forward := (forward_iff currentMs (parseDurationMs_lt parsed)).mpr
        (fits durationMs parsed)
      refine ⟨forward.1, ?_⟩
      rintro _ ⟨⟩
      exact forward.2

theorem seeksBySign_minus_iff (minus : trim input.toList = '-' :: value) :
    SeeksBySign input currentMs ↔
      ∀ durationMs, parseDurationMs value = .ok durationMs →
        durationMs < 2 ^ 63 := by
  have first := firstNonBlank_of_trim minus
  have notPlus : firstNonBlank input ≠ some '+' := by
    rw [first]
    decide
  constructor
  · intro seeks durationMs parsed
    have accepted := parseSeekInput_minus minus
    rw [parsed] at accepted
    have backward := (seeks _ _ accepted
      (parseSeekTarget_of_relative accepted)).2 first
    exact (backward_iff currentMs (parseDurationMs_lt parsed)).mp
      ⟨backward.1, backward.2 _ rfl⟩
  · intro fits sought target accepted aimed
    refine ⟨fun plus => absurd plus notPlus, fun _ => ?_⟩
    have signed := parseSeekInput_minus minus
    cases parsed : parseDurationMs value with
    | error message =>
      rw [parsed, accepted] at signed
      cases signed
    | ok durationMs =>
      rw [parsed] at signed
      rw [parseSeekTarget_of_relative signed] at aimed
      rw [signed] at accepted
      cases accepted
      cases aimed
      have backward := (backward_iff currentMs (parseDurationMs_lt parsed)).mpr
        (fits durationMs parsed)
      refine ⟨backward.1, ?_⟩
      rintro _ ⟨⟩
      exact backward.2

end Signs

/-- An accepted relative seek moves in the direction of its sign, for every
expression and position, exactly if both fit a signed number. -/
theorem seeksBySign_iff_fitsSigned (input : String) (currentMs : UInt64) :
    SeeksBySign input currentMs ↔ FitsSigned input currentMs := by
  unfold FitsSigned
  cases trimmed : trim input.toList with
  | nil =>
    refine iff_of_true ?_ ?_
    · intro sought target accepted
      simp [parseSeekInput, trimmed] at accepted
    · rintro _ _ _ ⟨⟩
  | cons sign value =>
    by_cases plus : sign = '+'
    · rw [seeksBySign_plus_iff (plus ▸ trimmed)]
      constructor
      · rintro fits _ _ durationMs ⟨⟩ - parsed
        exact ⟨(fits durationMs parsed).1, fun _ => (fits durationMs parsed).2⟩
      · intro fits durationMs parsed
        have both := fits sign value durationMs rfl (.inl plus) parsed
        exact ⟨both.1, both.2 plus⟩
    by_cases minus : sign = '-'
    · rw [seeksBySign_minus_iff (minus ▸ trimmed)]
      constructor
      · rintro fits _ _ durationMs ⟨⟩ - parsed
        exact ⟨fits durationMs parsed, fun isPlus => absurd isPlus plus⟩
      · intro fits durationMs parsed
        exact (fits sign value durationMs rfl (.inr minus) parsed).1
    -- An absolute seek says nothing about directions.
    have first := firstNonBlank_of_trim trimmed
    refine iff_of_true ?_ ?_
    · intro sought target _ _
      rw [first]
      exact ⟨fun same => absurd (Option.some.inj same) plus,
        fun same => absurd (Option.some.inj same) minus⟩
    · rintro _ _ _ ⟨⟩ (isPlus | isMinus)
      · exact absurd isPlus plus
      · exact absurd isMinus minus

/-- The largest amount seeks a millisecond back when it is added. -/
theorem largestAmount_seeks_back :
    ¬SeeksBySign "+18446744073709551615ms" 30000 := by
  intro seeks
  have forward := (seeks (.relative (-1)) 29999 (by decide +kernel)
    (by decide +kernel)).1 (by decide +kernel)
  exact absurd forward.1 (by decide)

end Spotuify
