import Mathlib.Data.Int.Log
import Mathlib.Data.Rat.Floor

/-!
# Rounding to double precision

A rational number is rounded to the nearest multiple of its spacing, the distance
between neighbouring floating-point numbers of 53 bits in its binade, and a tie goes
to the even one. The exponent is not bounded. A whole number of few enough bits is a
multiple of every spacing at or below it, so rounding does not cross it.
-/

namespace Ebaz4205.DoubleRounding

set_option autoImplicit false

def roundHalfEven (number : Rat) : Int :=
  if number - ⌊number⌋ < 1 / 2 then ⌊number⌋
  else if 1 / 2 < number - ⌊number⌋ then ⌊number⌋ + 1
  else if ⌊number⌋ % 2 = 0 then ⌊number⌋
  else ⌊number⌋ + 1

def spacing (number : Rat) : Rat := 2 ^ (Int.log 2 |number| - 52)

def toDouble (number : Rat) : Rat := roundHalfEven (number / spacing number) * spacing number

/-- The whole part of a number that is not negative. -/
def truncate (number : Rat) : Nat := ⌊number⌋.toNat

variable {number : Rat}

theorem roundHalfEven_le {bound : Int} (below : number ≤ bound) :
    roundHalfEven number ≤ bound := by
  have under : ⌊number⌋ ≤ bound := by
    have whole := (Int.floor_le number).trans below
    exact_mod_cast whole
  by_cases exactly : ⌊number⌋ = bound
  · have same : number = ⌊number⌋ := by
      apply le_antisymm _ (Int.floor_le number)
      rw [exactly]
      exact below
    have close : number - ⌊number⌋ < 1 / 2 := by
      rw [sub_eq_zero.mpr same]
      exact half_pos one_pos
    rw [roundHalfEven, if_pos close]
    exact under
  · have next : ⌊number⌋ + 1 ≤ bound := by omega
    rw [roundHalfEven]
    split_ifs
    · exact under
    · exact next
    · exact under
    · exact next

theorem roundHalfEven_nonneg (nonneg : 0 ≤ number) : 0 ≤ roundHalfEven number := by
  have whole := Int.floor_nonneg.mpr nonneg
  rw [roundHalfEven]
  split_ifs <;> omega

theorem spacing_pos (number : Rat) : 0 < spacing number := zpow_pos two_pos _

/-- A whole number of at most 53 bits above a number is a multiple of its spacing. -/
theorem multiple_of_spacing {bound : Nat} (positive : 0 < number) (below : number ≤ bound)
    (short : Nat.log 2 bound ≤ 52) :
    ∃ multiple : Nat, (bound : Rat) = multiple * spacing number := by
  have exponent : Int.log 2 |number| ≤ 52 := by
    rw [abs_of_pos positive]
    calc Int.log 2 number ≤ Int.log 2 (bound : Rat) := Int.log_mono_right positive below
      _ = Nat.log 2 bound := Int.log_natCast 2 bound
      _ ≤ 52 := by exact_mod_cast short
  obtain ⟨shift, same⟩ := Int.eq_ofNat_of_zero_le (sub_nonneg.mpr exponent)
  refine ⟨bound * 2 ^ shift, ?_⟩
  have inverse : Int.log 2 |number| - 52 = -(shift : Int) := by omega
  rw [spacing, inverse, zpow_neg, zpow_natCast]
  push_cast
  rw [mul_assoc, mul_inv_cancel₀ (pow_ne_zero _ two_ne_zero), mul_one]

theorem toDouble_nonneg (nonneg : 0 ≤ number) : 0 ≤ toDouble number := by
  have rounded := roundHalfEven_nonneg (div_nonneg nonneg (spacing_pos number).le)
  exact mul_nonneg (by exact_mod_cast rounded) (spacing_pos number).le

theorem toDouble_le {bound : Nat} (nonneg : 0 ≤ number) (below : number ≤ bound)
    (short : Nat.log 2 bound ≤ 52) : toDouble number ≤ bound := by
  rcases nonneg.eq_or_lt with zero | positive
  · rw [← zero, toDouble, zero_div]
    have rounded : roundHalfEven 0 = 0 := by
      rw [roundHalfEven, Int.floor_zero, if_pos (by norm_num)]
    rw [rounded, Int.cast_zero, zero_mul]
    exact Nat.cast_nonneg bound
  · obtain ⟨multiple, same⟩ := multiple_of_spacing positive below short
    have quotient : number / spacing number ≤ (multiple : Int) := by
      rw [div_le_iff₀ (spacing_pos number), Int.cast_natCast, ← same]
      exact below
    have rounded : (roundHalfEven (number / spacing number) : Rat) ≤ multiple := by
      exact_mod_cast roundHalfEven_le quotient
    rw [toDouble, same]
    exact mul_le_mul_of_nonneg_right rounded (spacing_pos number).le

/-- A whole number of few enough bits is not rounded. -/
theorem toDouble_natCast {number : Nat} (short : Nat.log 2 number ≤ 52) :
    toDouble (number : Rat) = number := by
  rcases number.eq_zero_or_pos with zero | positive
  · have rounded : roundHalfEven 0 = 0 := by
      rw [roundHalfEven, Int.floor_zero, if_pos (by norm_num)]
    rw [zero, Nat.cast_zero, toDouble, zero_div, rounded, Int.cast_zero, zero_mul]
  · obtain ⟨multiple, same⟩ :=
      multiple_of_spacing (Nat.cast_pos.mpr positive) (le_refl (number : Rat)) short
    have whole : (number : Rat) / spacing number = (multiple : Int) := by
      rw [div_eq_iff (spacing_pos _).ne', Int.cast_natCast]
      exact same
    have rounded : roundHalfEven ((multiple : Int) : Rat) = multiple := by
      rw [roundHalfEven, Int.floor_intCast, if_pos (by norm_num)]
    rw [toDouble, whole, rounded, Int.cast_natCast]
    exact same.symm

theorem truncate_le {bound : Nat} (below : number ≤ bound) : truncate number ≤ bound := by
  have whole : ⌊number⌋ ≤ (bound : Int) := by
    have cast := (Int.floor_le number).trans below
    exact_mod_cast cast
  rw [truncate]
  omega

end Ebaz4205.DoubleRounding
