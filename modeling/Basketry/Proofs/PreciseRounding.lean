import Mathlib.Data.Rat.Floor
import Basketry.Units

namespace Basketry.Units

variable {scale divisor : Int}

theorem preciseUnit_pos : 0 < preciseUnit := by decide

theorem preciseMul_eq (a b : Int) : preciseMul a b = a * b / preciseUnit :=
  Int.fdiv_eq_ediv_of_nonneg _ (Int.le_of_lt preciseUnit_pos)

theorem preciseDiv_eq {b : Int} (a : Int) (hb : 0 < b) :
    preciseDiv a b = .ok (a * preciseUnit / b) := by
  unfold preciseDiv
  rw [if_neg (Int.ne_of_gt hb), Int.fdiv_eq_ediv_of_nonneg _ (Int.le_of_lt hb)]

section Rounding

theorem floor_div (n : Int) (hdivisor : 0 < divisor) : ⌊(n : ℚ) / divisor⌋ = n / divisor := by
  obtain ⟨d,rfl⟩ := Int.eq_ofNat_of_zero_le (Int.le_of_lt hdivisor)
  exact Rat.floor_intCast_div_natCast n d

theorem ceil_div (n : Int) (hdivisor : 0 < divisor) :
    ⌈(n : ℚ) / divisor⌉ = -(-n / divisor) := by
  obtain ⟨d,rfl⟩ := Int.eq_ofNat_of_zero_le (Int.le_of_lt hdivisor)
  exact Rat.ceil_intCast_div_natCast n d

/-- On the way back only the remainder is missing, and a part of one counts as a whole one. -/
theorem lost_eq (a : Int) (hscale : 0 < scale) (divisor : Int) :
    a - a * scale / divisor * divisor / scale =
      ⌈((a * scale % divisor : Int) : ℚ) / scale⌉ := by
  have hkept : a * scale / divisor * divisor = -(a * scale % divisor) + a * scale := by
    have hsplit := Int.ediv_mul_add_emod (a * scale) divisor
    omega
  rw [hkept, Int.add_mul_ediv_right _ _ (Int.ne_of_gt hscale), ceil_div _ hscale]
  omega

theorem lost_nonneg (a : Int) (hscale : 0 < scale) (hdivisor : 0 < divisor) :
    0 ≤ a - a * scale / divisor * divisor / scale := by
  have hremainder := Int.emod_nonneg (a * scale) (Int.ne_of_gt hdivisor)
  rw [lost_eq a hscale divisor]
  exact Int.ceil_nonneg (by positivity)

theorem lost_le (a : Int) (hscale : 0 < scale) (hdivisor : 0 < divisor) :
    a - a * scale / divisor * divisor / scale ≤ ⌈((divisor : ℚ) - 1) / scale⌉ := by
  have hremainder : a * scale % divisor ≤ divisor - 1 :=
    Int.le_sub_one_of_lt (Int.emod_lt_of_pos _ hdivisor)
  have hremainder : ((a * scale % divisor : Int) : ℚ) ≤ (divisor : ℚ) - 1 := by
    exact_mod_cast hremainder
  rw [lost_eq a hscale divisor]
  refine Int.ceil_mono (div_le_div_of_nonneg_right hremainder ?_)
  exact_mod_cast Int.le_of_lt hscale

end Rounding

/-- Products and quotients are the exact ones rounded down. A quotient multiplied again, and a product
divided again, is never above what it was taken from and misses it by no more than the greatest remainder
there can be, rounded up; and with the first number both only grow. -/
theorem rounding_down_loses_the_remainder (a : Int) {b : Int} (hb : 0 < b) :
    ∃ quotient back, preciseDiv a b = .ok quotient ∧ preciseDiv (preciseMul a b) b = .ok back ∧
      preciseMul a b = ⌊(a * b : ℚ) / preciseUnit⌋ ∧ quotient = ⌊(a * preciseUnit : ℚ) / b⌋ ∧
      (0 ≤ a - preciseMul quotient b ∧
        a - preciseMul quotient b ≤ ⌈((b : ℚ) - 1) / preciseUnit⌉) ∧
      (0 ≤ a - back ∧ a - back ≤ ⌈((preciseUnit : ℚ) - 1) / b⌉) ∧
      ∀ more, a ≤ more → preciseMul a b ≤ preciseMul more b ∧
        ∃ quotient', preciseDiv more b = .ok quotient' ∧ quotient ≤ quotient' := by
  have hunit := preciseUnit_pos
  refine ⟨a * preciseUnit / b, a * b / preciseUnit * preciseUnit / b, preciseDiv_eq a hb, ?_, ?_, ?_,
    ?_, ⟨lost_nonneg a hb hunit, lost_le a hb hunit⟩, fun more hmore => ⟨?_, _, preciseDiv_eq more hb, ?_⟩⟩
  · rw [preciseDiv_eq _ hb, preciseMul_eq]
  · rw [preciseMul_eq, ← floor_div _ hunit, Int.cast_mul]
  · rw [← floor_div _ hb, Int.cast_mul]
  · rw [preciseMul_eq]
    exact ⟨lost_nonneg a hunit hb, lost_le a hunit hb⟩
  · rw [preciseMul_eq, preciseMul_eq]
    exact Int.ediv_le_ediv hunit (Int.mul_le_mul_of_nonneg_right hmore (Int.le_of_lt hb))
  · exact Int.ediv_le_ediv hb (Int.mul_le_mul_of_nonneg_right hmore (Int.le_of_lt hunit))

/-- A negative number that is not a multiple misses two of the three that it may miss. -/
theorem rounding_down_loses_the_remainder_negative :
    0 < 3 * preciseUnit ∧ ∃ quotient, preciseDiv (-1) (3 * preciseUnit) = .ok quotient ∧
      -1 - preciseMul quotient (3 * preciseUnit) = 2 ∧
      (2 : Int) ≤ ⌈(((3 * preciseUnit : Int) : ℚ) - 1) / preciseUnit⌉ := by
  have hb : 0 < 3 * preciseUnit := by decide
  obtain ⟨quotient,_,hquotient,_,_,_,⟨_,hlost⟩,_⟩ := rounding_down_loses_the_remainder (-1) hb
  have hvalue : quotient = -1 := by
    have hdiv : preciseDiv (-1) (3 * preciseUnit) = .ok (-1) := by decide +kernel
    exact Except.ok.inj (hquotient.symm.trans hdiv)
  have hmissing : -1 - preciseMul quotient (3 * preciseUnit) = 2 := by
    rw [hvalue]
    decide +kernel
  exact ⟨hb, quotient, hquotient, hmissing, hmissing ▸ hlost⟩

end Basketry.Units
