import Mathlib.Algebra.Ring.Nat
import Mathlib.Order.MinMax

/-!
# Binary floating point

Magnitudes are counted in the smallest double, `2 ^ -1074`, so that the single
and the double format are two ways of thinning out the natural numbers.  A
result is rounded to the nearest magnitude that fits its format, ties to even,
and what is too large becomes infinite.
-/

/-- The size of a significand, the spacing of the smallest magnitudes, and the
first magnitude that is too large, the last two as powers of two. -/
structure BinaryFormat where
  precision : Nat
  least : Nat
  limit : Nat
  precision_pos : 0 < precision

namespace BinaryFormat

def unitPower : Nat := 1074

/-- The number of smallest doubles in one. -/
def unit : Nat := 2 ^ unitPower

def double : BinaryFormat := ⟨53, 0, 2098, by decide⟩

def single : BinaryFormat := ⟨24, 925, 1202, by decide⟩

variable (format : BinaryFormat)

/-- The spacing of the magnitudes around one, as a power of two. -/
def spacing (magnitude : Nat) : Nat :=
  max format.least (magnitude.log2 + 1 - format.precision)

def Fits (magnitude : Nat) : Prop :=
  2 ^ format.spacing magnitude ∣ magnitude ∧ magnitude < 2 ^ format.limit

instance (magnitude : Nat) : Decidable (format.Fits magnitude) :=
  inferInstanceAs (Decidable (_ ∧ _))

/-- A quotient of natural numbers to the nearest one, ties to even. -/
def nearest (numerator denominator : Nat) : Nat :=
  let quotient := numerator / denominator
  let twice := 2 * (numerator % denominator)
  if twice < denominator ∨ twice = denominator ∧ quotient % 2 = 0 then quotient
  else quotient + 1

/-- The magnitude a positive quotient is rounded to. -/
def rounded (numerator denominator : Nat) : Nat :=
  let power := 2 ^ format.spacing (numerator / denominator)
  nearest numerator (denominator * power) * power

theorem unit_pos : 0 < unit := Nat.two_pow_pos unitPower

theorem nearest_near {numerator denominator : Nat}
    (positive : 0 < denominator) :
    2 * numerator ≤ 2 * (nearest numerator denominator * denominator) +
        denominator ∧
      2 * (nearest numerator denominator * denominator) ≤
        2 * numerator + denominator := by
  have split := Nat.div_add_mod' numerator denominator
  have less := Nat.mod_lt numerator positive
  simp only [nearest]
  generalize numerator / denominator = quotient at *
  split
  · omega
  · rw [Nat.add_one_mul quotient]
    omega

theorem nearest_le {numerator denominator bound : Nat}
    (below : numerator / denominator < bound) :
    nearest numerator denominator ≤ bound := by
  simp only [nearest]
  split
  · exact below.le
  · exact below

/-- Rounding gives a multiple of the spacing around the result. -/
theorem dvd_rounded (numerator denominator : Nat) :
    2 ^ format.spacing (format.rounded numerator denominator) ∣
      format.rounded numerator denominator := by
  have enough := format.precision_pos
  generalize powerEq :
    format.spacing (numerator / denominator) = power at *
  have least : format.least ≤ power := powerEq ▸ Nat.le_max_left _ _
  have spaced : (numerator / denominator).log2 + 1 ≤ format.precision + power := by
    simp only [spacing] at powerEq
    omega
  have small : numerator / (denominator * 2 ^ power) < 2 ^ format.precision := by
    rw [← Nat.div_div_eq_div_mul]
    apply Nat.div_lt_of_lt_mul
    rw [← Nat.pow_add, Nat.add_comm power]
    exact Nat.lt_log2_self.trans_le (Nat.pow_le_pow_right (by decide) spaced)
  simp only [rounded, powerEq]
  rcases (nearest_le small).eq_or_lt with carried | fitting
  · rw [carried, ← Nat.pow_add]
    apply Nat.pow_dvd_pow
    simp only [spacing, Nat.log2_two_pow]
    omega
  · refine Nat.dvd_trans (Nat.pow_dvd_pow 2 ?_) (Nat.dvd_mul_left _ _)
    generalize nearest numerator (denominator * 2 ^ power) = significand at *
    rcases Nat.eq_zero_or_pos significand with rfl | positive
    · simp only [spacing, Nat.zero_mul, Nat.log2_zero]
      omega
    · have bounded : significand * 2 ^ power < 2 ^ (format.precision + power) := by
        rw [Nat.pow_add]
        exact Nat.mul_lt_mul_of_pos_right fitting (Nat.two_pow_pos power)
      have exponent := (Nat.log2_lt (Nat.mul_pos positive
        (Nat.two_pow_pos power)).ne').mpr bounded
      simp only [spacing]
      omega

end BinaryFormat

/-- A finite number of a format; zeros are signed. -/
structure FiniteFloat (format : BinaryFormat) where
  negative : Bool
  magnitude : Nat
  fits : format.Fits magnitude
  deriving DecidableEq

inductive BinaryFloat (format : BinaryFormat) where
  | finite (value : FiniteFloat format)
  | infinite (negative : Bool)
  | nan
  deriving DecidableEq

namespace BinaryFloat

variable {format target : BinaryFormat}

def isFinite : BinaryFloat format → Bool
  | .finite _ => true
  | _ => false

/-- The number of a format nearest to a quotient. -/
@[irreducible]
def ofQuotient (format : BinaryFormat) (negative : Bool)
    (numerator denominator : Nat) : BinaryFloat format :=
  if bounded : format.rounded numerator denominator < 2 ^ format.limit then
    .finite ⟨negative, format.rounded numerator denominator,
      format.dvd_rounded numerator denominator, bounded⟩
  else .infinite negative

/-- A quotient of an integer and a natural number. -/
def ofRatio (format : BinaryFormat) (numerator : Int) (denominator : Nat) :
    BinaryFloat format :=
  .ofQuotient format (decide (numerator < 0))
    (numerator.natAbs * BinaryFormat.unit) denominator

def convert (target : BinaryFormat) : BinaryFloat format → BinaryFloat target
  | .finite value => .ofQuotient target value.negative value.magnitude 1
  | .infinite negative => .infinite negative
  | .nan => .nan

/-- The product, rounded once. -/
def mul : BinaryFloat format → BinaryFloat format → BinaryFloat format
  | .nan, _ | _, .nan => .nan
  | .finite first, .finite second =>
    .ofQuotient format (first.negative ^^ second.negative)
      (first.magnitude * second.magnitude) BinaryFormat.unit
  | .finite value, .infinite negative | .infinite negative, .finite value =>
    if value.magnitude = 0 then .nan
    else .infinite (value.negative ^^ negative)
  | .infinite first, .infinite second => .infinite (first ^^ second)

/-- The whole part as an unsigned integer of some width, saturating; what is
no number is zero. -/
def toUnsigned (width : Nat) : BinaryFloat format → Nat
  | .finite value =>
    if value.negative then 0
    else min (2 ^ width - 1) (value.magnitude / BinaryFormat.unit)
  | .infinite negative => if negative then 0 else 2 ^ width - 1
  | .nan => 0

end BinaryFloat

namespace FiniteFloat

variable {format : BinaryFormat} (value : FiniteFloat format)

/-- The product with a natural number. -/
def times (factor : Nat) : BinaryFloat format :=
  .ofQuotient format value.negative (value.magnitude * factor) 1

/-- The nearest integer, ties away from zero. -/
def round : Int :=
  let magnitude :=
    (2 * value.magnitude + BinaryFormat.unit) / (2 * BinaryFormat.unit)
  if value.negative then -magnitude else magnitude

end FiniteFloat

namespace BinaryFormat

variable {format : BinaryFormat} {magnitude : Nat}

theorem nearest_mul {denominator : Nat} (positive : 0 < denominator) :
    nearest (magnitude * denominator) denominator = magnitude := by
  simp [nearest, Nat.mul_div_cancel _ positive, positive]

/-- What fits a format is not rounded. -/
theorem Fits.rounded_eq (fits : format.Fits magnitude) :
    format.rounded magnitude 1 = magnitude := by
  have split := (Nat.div_mul_cancel fits.1).symm
  simp only [rounded, Nat.div_one, Nat.one_mul]
  generalize 2 ^ format.spacing magnitude = power at *
  generalize magnitude / power = quotient at *
  subst split
  rcases Nat.eq_zero_or_pos power with rfl | positive
  · rfl
  · rw [nearest_mul positive]

/-- The singles are doubles. -/
theorem Fits.double (fits : single.Fits magnitude) :
    double.Fits magnitude := by
  constructor
  · refine Nat.dvd_trans (Nat.pow_dvd_pow 2 ?_) fits.1
    simp only [spacing, single, BinaryFormat.double]
    omega
  · refine fits.2.trans_le (Nat.pow_le_pow_right (by decide) ?_)
    decide

end BinaryFormat

namespace BinaryFloat

variable {format : BinaryFormat}

theorem ofQuotient_of_fits {magnitude : Nat} (negative : Bool)
    (fits : format.Fits magnitude) :
    ofQuotient format negative magnitude 1 =
      .finite ⟨negative, magnitude, fits⟩ := by
  have same := fits.rounded_eq
  simp only [ofQuotient, same, dif_pos fits.2]

theorem ofQuotient_zero (negative : Bool) (denominator : Nat) :
    ofQuotient format negative 0 denominator =
      .finite ⟨negative, 0, Nat.dvd_zero _, Nat.two_pow_pos _⟩ := by
  have rounded : format.rounded 0 denominator = 0 := by
    have nearest : BinaryFormat.nearest 0
        (denominator * 2 ^ format.spacing (0 / denominator)) = 0 := by
      generalize denominator * 2 ^ format.spacing (0 / denominator) = divisor
      rcases Nat.eq_zero_or_pos divisor with rfl | positive
      · simp [BinaryFormat.nearest]
      · simp [BinaryFormat.nearest, positive]
    rw [BinaryFormat.rounded, nearest, Nat.zero_mul]
  simp only [ofQuotient, rounded, dif_pos (Nat.two_pow_pos format.limit)]

/-- Nothing but zero comes of a product with zero. -/
theorem toUnsigned_mul_zero (width : Nat) (zero : FiniteFloat format)
    (isZero : zero.magnitude = 0) (value : BinaryFloat format) :
    (mul (.finite zero) value).toUnsigned width = 0 := by
  cases value with
  | finite value => simp [mul, isZero, ofQuotient_zero, toUnsigned]
  | infinite negative => simp [mul, isZero, toUnsigned]
  | nan => rfl

/-- A single survives the way through a double. -/
theorem convert_convert (value : BinaryFloat .single) :
    convert .single (convert .double value) = value := by
  cases value with
  | finite value =>
    rw [convert, ofQuotient_of_fits value.negative value.fits.double, convert]
    exact ofQuotient_of_fits value.negative value.fits
  | infinite negative => rfl
  | nan => rfl

@[simp]
theorem isFinite_convert (value : BinaryFloat .single) :
    (convert .double value).isFinite = value.isFinite := by
  cases value with
  | finite value =>
    rw [convert, ofQuotient_of_fits value.negative value.fits.double]
    rfl
  | infinite negative => rfl
  | nan => rfl

/-- Below a power of two, a quotient is off by at most half the spacing
there. -/
theorem ofQuotient_near {numerator denominator power : Nat} (negative : Bool)
    (positive : 0 < denominator) (least : format.least ≤ power)
    (small : numerator < denominator * 2 ^ (format.precision + power))
    (bounded : format.precision + power < format.limit) :
    ∃ value, ofQuotient format negative numerator denominator = .finite value ∧
      value.negative = negative ∧
      2 * numerator ≤ 2 * (value.magnitude * denominator) +
        denominator * 2 ^ power ∧
      2 * (value.magnitude * denominator) ≤
        2 * numerator + denominator * 2 ^ power := by
  have powerPos : 0 < 2 ^ format.spacing (numerator / denominator) :=
    Nat.two_pow_pos _
  have spaced : format.spacing (numerator / denominator) ≤ power := by
    have quotient := Nat.div_lt_of_lt_mul small
    have enough := format.precision_pos
    simp only [BinaryFormat.spacing]
    rcases Nat.eq_zero_or_pos (numerator / denominator) with zero | one
    · rw [zero, Nat.log2_zero]
      omega
    · have exponent := (Nat.log2_lt one.ne').mpr quotient
      omega
  have steps : denominator * 2 ^ format.spacing (numerator / denominator) ≤
      denominator * 2 ^ power :=
    Nat.mul_le_mul_left _ (Nat.pow_le_pow_right (by decide) spaced)
  obtain ⟨above, below⟩ := @BinaryFormat.nearest_near numerator _
    (Nat.mul_pos positive powerPos)
  have product : BinaryFormat.nearest numerator (denominator *
        2 ^ format.spacing (numerator / denominator)) *
      (denominator * 2 ^ format.spacing (numerator / denominator)) =
        format.rounded numerator denominator * denominator := by
    rw [BinaryFormat.rounded, Nat.mul_comm denominator, Nat.mul_assoc]
  rw [product] at above below
  have fits : format.rounded numerator denominator < 2 ^ format.limit := by
    have larger : denominator * 2 ^ power ≤
        denominator * 2 ^ (format.precision + power) :=
      Nat.mul_le_mul_left _ (Nat.pow_le_pow_right (by decide) (by omega))
    have twice : denominator * 2 ^ (format.precision + power + 1) =
        2 * (denominator * 2 ^ (format.precision + power)) := by
      rw [Nat.pow_succ, ← Nat.mul_assoc, Nat.mul_comm]
    have room : 2 ^ (format.precision + power + 1) ≤ 2 ^ format.limit :=
      Nat.pow_le_pow_right (by decide) bounded
    refine Nat.lt_of_lt_of_le ?_ room
    apply Nat.lt_of_mul_lt_mul_left
    rw [twice, Nat.mul_comm]
    omega
  refine ⟨⟨negative, format.rounded numerator denominator,
    format.dvd_rounded numerator denominator, fits⟩, ?_, rfl, ?_, ?_⟩
  · rw [ofQuotient, dif_pos fits]
  · exact above.trans (Nat.add_le_add_left steps _)
  · exact below.trans (Nat.add_le_add_left steps _)

/-- How far a quotient below a small power of two is off. -/
theorem ofQuotient_near_unit {numerator denominator power : Nat}
    (negative : Bool) (positive : 0 < denominator)
    (small : numerator < denominator * (2 ^ power * BinaryFormat.unit))
    (coarse : power ≤ format.precision)
    (least :
      format.least + format.precision ≤ power + BinaryFormat.unitPower)
    (bounded : power + BinaryFormat.unitPower < format.limit) :
    ∃ value spread, ofQuotient format negative numerator denominator =
        .finite value ∧
      value.negative = negative ∧
      2 ^ (format.precision - power) * spread = BinaryFormat.unit ∧
      2 * numerator ≤ 2 * (value.magnitude * denominator) +
        denominator * spread ∧
      2 * (value.magnitude * denominator) ≤
        2 * numerator + denominator * spread := by
  obtain ⟨spreadPower, split⟩ : ∃ spreadPower,
      format.precision + spreadPower = power + BinaryFormat.unitPower :=
    ⟨power + BinaryFormat.unitPower - format.precision, by omega⟩
  have room : denominator * (2 ^ power * BinaryFormat.unit) =
      denominator * 2 ^ (format.precision + spreadPower) := by
    rw [split, Nat.pow_add, BinaryFormat.unit]
  obtain ⟨value, found, sign, near⟩ := @ofQuotient_near format _ _ spreadPower
    negative positive (by omega) (room ▸ small) (by omega)
  have split : format.precision - power + spreadPower =
      BinaryFormat.unitPower := by omega
  refine ⟨value, 2 ^ spreadPower, found, sign, ?_, near⟩
  rw [← Nat.pow_add, split, BinaryFormat.unit]

end BinaryFloat

namespace FiniteFloat

variable {format : BinaryFormat} {value : FiniteFloat format}

/-- A number less than a half away from an integer is rounded to it. -/
theorem round_eq {integer : Int} (sign : value.negative = decide (integer < 0))
    (above : 2 * (integer.natAbs * BinaryFormat.unit) <
      2 * value.magnitude + BinaryFormat.unit)
    (below : 2 * value.magnitude <
      2 * (integer.natAbs * BinaryFormat.unit) + BinaryFormat.unit) :
    value.round = integer := by
  have magnitude : (2 * value.magnitude + BinaryFormat.unit) /
      (2 * BinaryFormat.unit) = integer.natAbs := by
    apply Nat.div_eq_of_lt_le
    · rw [Nat.mul_left_comm]
      exact above.le
    · rw [Nat.mul_left_comm, Nat.add_one_mul integer.natAbs]
      omega
  rw [round, magnitude, sign]
  by_cases negative : integer < 0
  · rw [if_pos (decide_eq_true negative)]
    omega
  · rw [if_neg (by simpa using negative)]
    omega

end FiniteFloat
