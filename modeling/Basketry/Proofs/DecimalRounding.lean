import Mathlib.Algebra.Order.Field.Power
import Mathlib.Data.Rat.Floor
import Mathlib.Tactic.Linarith
import Mathlib.Tactic.Ring
import Basketry.Decimal.Basic

namespace Basketry.Decimal

/-- The multiple of `step` nearest to `n`. Halfway between two of them it is the even one. -/
structure Nearest (step n r : Int) : Prop where
  multiple : step ∣ r
  close : 2 * |n - r| ≤ step
  even : 2 * |n - r| = step → 2 * step ∣ r

namespace Nearest

variable {step n r : Int}

theorem neg (h : Nearest step n r) : Nearest step (-n) (-r) := by
  have hdistance : |-n - -r| = |n - r| := by rw [neg_sub_neg, abs_sub_comm]
  exact ⟨(dvd_neg).mpr h.multiple, hdistance ▸ h.close,
    fun he => (dvd_neg).mpr (h.even (hdistance ▸ he))⟩

/-- Two multiples that are less than a step apart are one. -/
theorem eq_of_close {a b : Int} (ha : step ∣ a) (hb : step ∣ b) (h : |a - b| < step) : a = b :=
  sub_eq_zero.mp (Int.eq_zero_of_abs_lt_dvd (dvd_sub ha hb) h)

theorem eq_self_iff (hstep : 0 < step) (h : Nearest step n r) : r = n ↔ step ∣ n := by
  refine ⟨fun he => he ▸ h.multiple, fun hn => (eq_of_close hn h.multiple ?_).symm⟩
  have := h.close
  omega

/-- The nearest multiple is the only one. -/
theorem unique {t : Int} (hstep : 0 < step) (hr : Nearest step n r) (ht : Nearest step n t) :
    r = t := by
  have hapart : |r - t| ≤ |n - r| + |n - t| := by
    have := abs_sub_le r n t
    rwa [abs_sub_comm r n] at this
  have hcr := hr.close
  have hct := ht.close
  -- Only between two neighbours at half a step each can they differ, and both would be even.
  by_cases htie : 2 * |n - r| = step ∧ 2 * |n - t| = step
  · exact eq_of_close (hr.even htie.1) (ht.even htie.2) (by omega)
  · exact eq_of_close hr.multiple ht.multiple (by omega)

end Nearest

section Digits
variable {n k : Nat}

theorem digitCount_pos (n : Nat) : 0 < digitCount n := Nat.length_toDigits_pos

theorem digitCount_le_iff (hk : 0 < k) : digitCount n ≤ k ↔ n < 10 ^ k :=
  Nat.length_toDigits_le_iff (by decide) hk

theorem lt_pow_digitCount (n : Nat) : n < 10 ^ digitCount n :=
  (digitCount_le_iff (digitCount_pos n)).mp (Nat.le_refl _)

theorem lt_digitCount_iff (hn : n ≠ 0) : k < digitCount n ↔ 10 ^ k ≤ n := by
  obtain rfl | hk := Nat.eq_zero_or_pos k
  · have := digitCount_pos n
    simp only [pow_zero]
    omega
  · rw [← Nat.not_le, digitCount_le_iff hk, Nat.not_lt]

theorem pow_le_of_digitCount (hn : n ≠ 0) : 10 ^ (digitCount n - 1) ≤ n :=
  (lt_digitCount_iff hn).mp (Nat.sub_lt (digitCount_pos n) Nat.one_pos)

end Digits

section HalfEven
variable {n d : Nat}

theorem divHalfEven_one (n : Nat) : divHalfEven n 1 = n := by
  simp [divHalfEven, Nat.mod_one]

theorem divHalfEven_of_small (h : 2 * n < d) : divHalfEven n d = 0 := by
  have hn : n < d := by omega
  simp only [divHalfEven, Nat.div_eq_of_lt hn, Nat.mod_eq_of_lt hn]
  rw [if_neg (by omega)]

theorem divHalfEven_le (n d : Nat) : divHalfEven n d ≤ n / d + 1 := by
  simp only [divHalfEven]
  split <;> omega

theorem le_divHalfEven (n d : Nat) : n / d ≤ divHalfEven n d := by
  simp only [divHalfEven]
  split <;> omega

theorem divHalfEven_nearest (n : Nat) (hd : 0 < d) : Nearest d n (divHalfEven n d * d : Nat) := by
  have hparts := Nat.div_add_mod n d
  have hlt := Nat.mod_lt n hd
  have hmul : (n / d + 1) * d = d * (n / d) + d := by ring
  simp only [divHalfEven]
  split
  · rename_i hup
    have hdistance : |(n : Int) - ((n / d + 1) * d : Nat)| = d - (n % d : Nat) := by
      rw [abs_sub_comm, abs_of_nonneg] <;> omega
    refine ⟨Int.natCast_dvd_natCast.mpr (Nat.dvd_mul_left ..), by rw [hdistance]; omega, fun htie => ?_⟩
    obtain ⟨j, hj⟩ : 2 ∣ n / d + 1 := by omega
    exact Int.natCast_dvd_natCast.mpr ⟨j, by rw [hj]; ring⟩
  · rename_i hdown
    have hdistance : |(n : Int) - (n / d * d : Nat)| = (n % d : Nat) := by
      rw [Nat.mul_comm, abs_of_nonneg] <;> omega
    refine ⟨Int.natCast_dvd_natCast.mpr (Nat.dvd_mul_left ..), by rw [hdistance]; omega, fun htie => ?_⟩
    obtain ⟨j, hj⟩ : 2 ∣ n / d := by omega
    exact Int.natCast_dvd_natCast.mpr ⟨j, by rw [hj]; ring⟩

end HalfEven

section Values
variable {m : Nat} {e x : Int}

/-- What a coefficient and an exponent stand for. -/
def magnitude (coeff : Nat) (exp : Int) : ℚ := coeff * 10 ^ exp

/-- A number with the sign put to it. -/
def withSign (negative : Bool) (q : ℚ) : ℚ := if negative then -q else q

/-- The rational number that a decimal number stands for. -/
def value (negative : Bool) (coeff : Nat) (exp : Int) : ℚ := withSign negative (magnitude coeff exp)

theorem magnitude_nonneg (m : Nat) (e : Int) : 0 ≤ magnitude m e := by
  unfold magnitude
  positivity

theorem magnitude_zero (e : Int) : magnitude 0 e = 0 := by simp [magnitude]

theorem magnitude_inj {n : Nat} : magnitude m e = magnitude n e ↔ m = n := by
  unfold magnitude
  rw [mul_left_inj' (by positivity), Nat.cast_inj]

/-- Zeros of the coefficient may be counted by the exponent. -/
theorem magnitude_shift (m : Nat) (e : Int) (j : Nat) : magnitude (m * 10 ^ j) e = magnitude m (e + j) := by
  unfold magnitude
  rw [zpow_add₀ (by norm_num), zpow_natCast]
  push_cast
  ring

theorem magnitude_mul_pow (m : Nat) (e : Int) (j : Nat) : magnitude m e * 10 ^ j = magnitude m (e + j) := by
  rw [← magnitude_shift]
  simp only [magnitude]
  push_cast
  ring

/-- The exponent of the leading digit tells how large a number is. -/
theorem magnitude_lt_iff (hm : m ≠ 0) : magnitude m e < 10 ^ x ↔ adjusted m e < x := by
  have hpos := digitCount_pos m
  have hten : (1 : ℚ) < 10 := by norm_num
  constructor
  · intro h
    by_contra hx
    refine absurd h (not_lt.mpr ?_)
    calc (10 : ℚ) ^ x ≤ 10 ^ (e + (digitCount m - 1 : Nat)) :=
          zpow_le_zpow_right₀ hten.le (by simp only [adjusted] at hx; omega)
      _ = magnitude (1 * 10 ^ (digitCount m - 1)) e := by rw [magnitude_shift, magnitude, Nat.cast_one, one_mul]
      _ ≤ magnitude m e := by
          unfold magnitude
          gcongr
          rw [one_mul]
          exact pow_le_of_digitCount hm
  · intro h
    calc magnitude m e < magnitude (1 * 10 ^ digitCount m) e := by
          unfold magnitude
          gcongr
          rw [one_mul]
          exact lt_pow_digitCount m
      _ = 10 ^ (e + digitCount m) := by rw [magnitude_shift, magnitude, Nat.cast_one, one_mul]
      _ ≤ 10 ^ x := zpow_le_zpow_right₀ hten.le (by simp only [adjusted] at h; omega)

/-- The whole part: what is left when the fraction is dropped. -/
def towardZero (q : ℚ) : Int := if 0 ≤ q then ⌊q⌋ else ⌈q⌉

theorem towardZero_neg (q : ℚ) : towardZero (-q) = -towardZero q := by
  unfold towardZero
  rcases lt_trichotomy q 0 with h | rfl | h
  · rw [if_pos (by linarith), if_neg (by linarith), Int.floor_neg]
  · simp
  · rw [if_neg (by linarith), if_pos h.le, Int.ceil_neg]

theorem towardZero_mono {p q : ℚ} (h : p ≤ q) : towardZero p ≤ towardZero q := by
  unfold towardZero
  split_ifs with hp hq hq
  · exact Int.floor_mono h
  · exact absurd (hp.trans h) hq
  · exact (Int.ceil_le.mpr (by simpa using (not_le.mp hp).le)).trans (Int.floor_nonneg.mpr hq)
  · exact Int.ceil_mono h

theorem towardZero_intCast (i : Int) : towardZero i = i := by simp [towardZero]

theorem towardZero_of_small {q : ℚ} (h₀ : 0 ≤ q) (h₁ : q < 1) : towardZero q = 0 := by
  rw [towardZero, if_pos h₀]
  exact Int.floor_eq_zero_iff.mpr ⟨h₀, h₁⟩

theorem towardZero_withSign (negative : Bool) (q : ℚ) :
    towardZero (withSign negative q) = if negative then -towardZero q else towardZero q := by
  cases negative
  · rfl
  · exact towardZero_neg q

theorem abs_withSign (s : Bool) (q : ℚ) : |withSign s q| = |q| := by
  cases s
  · rfl
  · exact abs_neg q

theorem withSign_mul (s : Bool) (p q : ℚ) : withSign s (p * q) = withSign s p * q := by
  cases s
  · rfl
  · exact (neg_mul p q).symm

theorem towardZero_withSign_of_small {q : ℚ} (s : Bool) (h₀ : 0 ≤ q) (h₁ : q < 1) :
    towardZero (withSign s q) = 0 := by
  rw [towardZero_withSign, towardZero_of_small h₀ h₁]
  simp

/-- Dropping the digits behind the point takes the whole part of the number. -/
theorem truncate_eq (negative : Bool) (m : Nat) (e : Int) :
    truncate negative m e = towardZero (value negative m e) := by
  have hmagnitude : towardZero (magnitude m e) =
      (if m = 0 then 0 else if 0 ≤ e then m * tens e.toNat
        else if digitCount m ≤ (-e).toNat then 0 else m / tens (-e).toNat : Nat) := by
    rw [towardZero, if_pos (magnitude_nonneg m e)]
    split_ifs with hm he hd
    · simp [hm, magnitude_zero]
    · have hwhole : magnitude m e = (m * tens e.toNat : Nat) := by
        obtain ⟨j, rfl⟩ := Int.eq_ofNat_of_zero_le he
        simp [magnitude, tens]
      rw [hwhole, Int.floor_natCast]
    · have hsmall : magnitude m e < 10 ^ (0 : Int) :=
        (magnitude_lt_iff hm).mpr (by simp only [adjusted]; omega)
      exact Int.floor_eq_zero_iff.mpr ⟨magnitude_nonneg m e, by simpa using hsmall⟩
    · have hquotient : magnitude m e = (m : Int) / (tens (-e).toNat : Nat) := by
        obtain ⟨j, hj⟩ := Int.eq_ofNat_of_zero_le (show 0 ≤ -e by omega)
        obtain rfl : e = -(j : Int) := by omega
        simp [magnitude, tens, div_eq_mul_inv]
      rw [hquotient, Rat.floor_intCast_div_natCast, Int.natCast_ediv]
  rw [value, towardZero_withSign, hmagnitude]
  rfl

end Values

namespace Context

variable {c : Context} {s : Bool} {m : Nat} {e : Int}

/-- A context keeps at least one digit, its smallest results are fractions, and one is not too large. -/
structure Regular (c : Context) : Prop where
  keeps : 0 < c.precision
  fine : c.etiny + c.precision < 0
  roomy : 0 ≤ c.emax

theorem standard_regular : standard.Regular := ⟨by decide, by decide, by decide⟩

/-- The smallest power of ten that is too large for a result. -/
def bound (c : Context) : ℚ := 10 ^ (c.emax + 1)

/-- How many units of its last digit a number has to one step of the grid. -/
def step (c : Context) (m : Nat) (e : Int) : Nat := 10 ^ (c.grid m e - e).toNat

/-- The coefficient that a number has on the grid. -/
def kept (c : Context) (m : Nat) (e : Int) : Nat := divHalfEven m (c.step m e)

/-- The coefficient of a number after rounding, in units of the last digit it had before. -/
def rounded (c : Context) (m : Nat) (e : Int) : Nat := c.kept m e * c.step m e

theorem step_pos (c : Context) (m : Nat) (e : Int) : 0 < c.step m e := Nat.pow_pos (by decide)

theorem le_grid (c : Context) (m : Nat) (e : Int) : e ≤ c.grid m e := by
  unfold grid
  omega

/-- The grid drops the digits that are too many, and no other ones unless the number is very small. -/
theorem grid_eq (hc : c.Regular) (m : Nat) (e : Int) :
    c.grid m e = max (e + (digitCount m - c.precision : Nat)) c.etiny := by
  have := hc.keeps
  simp only [grid, adjusted]
  omega

theorem rescale_eq {target : Int} (h : e ≤ target) :
    rescale m e target = divHalfEven m (10 ^ (target - e).toNat) := by
  unfold rescale
  split
  · obtain rfl : target = e := by omega
    simp [tens, divHalfEven_one]
  · dsimp only
    split
    · rename_i hshort
      refine (divHalfEven_of_small ?_).symm
      calc 2 * m < 10 * 10 ^ digitCount m := by
            have := lt_pow_digitCount m
            omega
        _ = 10 ^ (digitCount m + 1) := by ring
        _ ≤ 10 ^ (target - e).toNat := Nat.pow_le_pow_right (by decide) hshort
    · rfl

theorem round_eq (hm : m ≠ 0) : c.round s m e =
    if c.emax < adjusted (c.kept m e) (c.grid m e) then .error .overflow
    else if digitCount (c.kept m e) ≤ c.precision then .ok (.finite s (c.kept m e) (c.grid m e))
    else .ok (.finite s (c.kept m e / 10) (c.grid m e + 1)) := by
  have hkept : (if c.grid m e = e then m else rescale m e (c.grid m e)) = c.kept m e := by
    rw [kept, step, ← rescale_eq (c.le_grid m e)]
    split
    · rename_i heq
      simp [rescale, heq, tens]
    · rfl
  simp only [round, if_neg hm, hkept]

theorem kept_le (hc : c.Regular) (m : Nat) (e : Int) : c.kept m e ≤ 10 ^ c.precision := by
  have hdigits : digitCount m ≤ c.precision + (c.grid m e - e).toNat := by
    rw [grid_eq hc]
    omega
  have hlt : m < 10 ^ c.precision * c.step m e := by
    rw [step, ← Nat.pow_add]
    exact (lt_pow_digitCount m).trans_le (Nat.pow_le_pow_right (by decide) hdigits)
  have hquotient : m / c.step m e < 10 ^ c.precision := (Nat.div_lt_iff_lt_mul (c.step_pos m e)).mpr hlt
  exact (divHalfEven_le m _).trans hquotient

/-- Only among the smallest numbers can nothing be kept. -/
theorem grid_of_kept_zero (hc : c.Regular) (hm : m ≠ 0) (h : c.kept m e = 0) : c.grid m e = c.etiny := by
  by_contra hgrid
  have hdrop : (c.grid m e - e).toNat < digitCount m := by
    have := digitCount_pos m
    have := hc.keeps
    rw [grid_eq hc] at hgrid ⊢
    omega
  have hpos : 0 < m / c.step m e :=
    Nat.div_pos ((lt_digitCount_iff hm).mp hdrop) (c.step_pos m e)
  have := le_divHalfEven m (c.step m e)
  rw [kept] at h
  omega

/-- The signal of a number that is too large comes exactly where its place on the grid is. -/
theorem emax_lt_iff (hc : c.Regular) (hm : m ≠ 0) :
    c.emax < adjusted (c.kept m e) (c.grid m e) ↔ c.bound ≤ magnitude (c.kept m e) (c.grid m e) := by
  by_cases hk : c.kept m e = 0
  · have hgrid := grid_of_kept_zero hc hm hk
    have hfine := hc.fine
    have hroomy := hc.roomy
    have hbound : 0 < c.bound := by unfold bound; positivity
    rw [hk, magnitude_zero, hgrid]
    refine iff_of_false ?_ (not_le.mpr hbound)
    simp only [adjusted, show digitCount 0 = 1 by decide]
    omega
  · rw [bound, ← not_lt (a := magnitude _ _), magnitude_lt_iff hk]
    omega

/-- A result that is not too large stands for its place on the grid. -/
theorem round_ok (hc : c.Regular) (hm : m ≠ 0)
    (h : magnitude (c.kept m e) (c.grid m e) < c.bound) :
    ∃ k x, c.round s m e = .ok (.finite s k x) ∧
      magnitude k x = magnitude (c.kept m e) (c.grid m e) := by
  rw [round_eq hm, if_neg (fun ho => not_le.mpr h ((emax_lt_iff hc hm).mp ho))]
  split
  · exact ⟨_, _, rfl, rfl⟩
  · rename_i hlong
    -- Rounding up has added a digit, which makes a power of ten.
    have hpower : c.kept m e = 10 ^ c.precision := by
      refine Nat.le_antisymm (kept_le hc m e) (Nat.not_lt.mp fun hlt => hlong ?_)
      exact (digitCount_le_iff hc.keeps).mpr hlt
    refine ⟨_, _, rfl, ?_⟩
    have hten : c.kept m e / 10 * 10 ^ 1 = c.kept m e := by
      obtain ⟨p, hp⟩ := Nat.exists_eq_add_of_lt hc.keeps
      rw [hpower, hp, Nat.pow_succ, Nat.mul_div_cancel _ (by decide), pow_one]
    rw [← Nat.cast_one (R := Int), ← magnitude_shift, hten]

theorem round_zero (c : Context) (s : Bool) (e : Int) : ∃ x, c.round s 0 e = .ok (.finite s 0 x) :=
  ⟨_, if_pos rfl⟩

/-- A power of ten is its exponent. -/
theorem powTen_eq (hc : c.Regular) {d : Nat} (hd : d ≤ c.emax) : c.powTen d = .ok (.finite false 1 d) := by
  have hkeeps := hc.keeps
  have hfine := hc.fine
  have hone : digitCount 1 = 1 := by decide
  have hgrid : c.grid 1 d = d := by
    rw [grid_eq hc, hone]
    omega
  have hkept : c.kept 1 d = 1 := by simp [kept, step, hgrid, divHalfEven_one]
  rw [powTen, round_eq Nat.one_ne_zero, hgrid, hkept, if_neg (by simp only [adjusted, hone]; omega),
    if_pos (by omega)]

/-- To multiply with a power of ten moves the exponent. -/
theorem mul_powTen (c : Context) (s : Bool) (m : Nat) (e d : Int) :
    c.mul (.finite s m e) (.finite false 1 d) = c.round s m (e + d) := by
  simp [mul]

theorem magnitude_kept (c : Context) (m : Nat) (e : Int) :
    magnitude (c.kept m e) (c.grid m e) = magnitude (c.rounded m e) e := by
  have hgrid : c.grid m e = e + (c.grid m e - e).toNat := by
    have := c.le_grid m e
    omega
  rw [rounded, step, magnitude_shift, ← hgrid]

theorem rounded_nearest (c : Context) (m : Nat) (e : Int) : Nearest (c.step m e) m (c.rounded m e) :=
  divHalfEven_nearest m (c.step_pos m e)

theorem rounded_of_dvd (h : c.step m e ∣ m) : c.rounded m e = m :=
  Int.ofNat_inj.mp <| ((c.rounded_nearest m e).eq_self_iff (by exact_mod_cast c.step_pos m e)).mpr
    (Int.natCast_dvd_natCast.mpr h)

/-- Where the grid is not that of the smallest numbers, it drops the digits beyond the precision. -/
theorem step_of_coarse (hc : c.Regular) (h : c.etiny ≤ e + (digitCount m - c.precision : Nat)) :
    c.step m e = 10 ^ (digitCount m - c.precision) := by
  rw [step, grid_eq hc, max_eq_left h]
  congr 1
  omega

/-- On the grid of the smallest numbers all numbers are fractions. -/
theorem magnitude_of_fine (hc : c.Regular) (hm : m ≠ 0)
    (h : e + (digitCount m - c.precision : Nat) < c.etiny) :
    magnitude m e < 1 ∧ magnitude (c.kept m e) (c.grid m e) < 1 := by
  have hfine := hc.fine
  refine ⟨?_, ?_⟩
  · rw [← zpow_zero (10 : ℚ), magnitude_lt_iff hm]
    simp only [adjusted]
    omega
  · have hgrid : c.grid m e = c.etiny := by rw [grid_eq hc, max_eq_right h.le]
    calc magnitude (c.kept m e) (c.grid m e) ≤ magnitude (1 * 10 ^ c.precision) c.etiny := by
          rw [hgrid, one_mul]
          unfold magnitude
          gcongr
          exact kept_le hc m e
      _ = 10 ^ (c.etiny + c.precision) := by rw [magnitude_shift, magnitude, Nat.cast_one, one_mul]
      _ < 10 ^ (0 : Int) := zpow_lt_zpow_right₀ (by norm_num) hfine
      _ = 1 := zpow_zero _

/-- The digits beyond the precision are zeros, where the number can be written without them. -/
theorem pow_dvd_of_short {p j : Nat} {x : Int} (hp : 0 < p) (hj : j < 10 ^ p)
    (h : magnitude m e = magnitude j x) : 10 ^ (digitCount m - p) ∣ m := by
  obtain hx | hx := le_total e x
  · obtain ⟨i, rfl⟩ := Int.le.dest hx
    have hm : m = j * 10 ^ i := by
      rw [← magnitude_shift] at h
      exact magnitude_inj.mp h
    have hdigits : digitCount m ≤ p + i := by
      rw [digitCount_le_iff (by omega), hm, Nat.pow_add]
      exact Nat.mul_lt_mul_of_pos_right hj (Nat.pow_pos (by decide))
    rw [hm] at hdigits ⊢
    exact (Nat.pow_dvd_pow 10 (by omega)).trans (Nat.dvd_mul_left ..)
  · obtain ⟨i, rfl⟩ := Int.le.dest hx
    have hm : m * 10 ^ i = j := by
      rw [← magnitude_shift] at h
      exact magnitude_inj.mp h
    have hdigits : digitCount m ≤ p := (digitCount_le_iff hp).mpr <|
      (Nat.le_mul_of_pos_right m (Nat.pow_pos (by decide))).trans_lt (hm ▸ hj)
    rw [Nat.sub_eq_zero_of_le hdigits, pow_zero]
    exact Nat.one_dvd m

end Context

end Basketry.Decimal
