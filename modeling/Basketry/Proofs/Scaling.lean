import Basketry.Units
import Basketry.Proofs.DecimalRounding
import Basketry.Proofs.Outcomes
import Basketry.Proofs.WrittenDecimals

namespace Basketry.Units

open Decimal

/-- An amount given as a whole number that can be written out, a decimal number or a text, and the number it
stands for. -/
inductive Written : Value → ℚ → Prop
  | int (n : Int) (hn : digitCount n.natAbs ≤ Value.longestNumber) : Written (.int n) n
  | decimal (s : Bool) {m : Nat} {e : Int}
      (hrange : smallestExponent ≤ e ∧ adjusted m e ≤ largestExponent) :
    Written (.decimal (.finite s m e)) (Decimal.value s m e)
  | text {t : String} {g : Sign} {n : Numeral} (hspells : Spells t g n) (hrange : n.InRange) :
    Written (.text t) (Decimal.value g.negative n.coeff n.exp)

/-- A number that can be written with so few digits that all of them are kept. -/
def IsShort (q : ℚ) : Prop := ∃ j x : Int, |j| < 10 ^ 28 ∧ q = j * 10 ^ x

variable {amount : Value} {q : ℚ} {s : Bool} {m : Nat} {e : Int} {d : Nat}

section Reading

theorem value_int (n : Int) : Decimal.value (n < 0) n.natAbs 0 = n := by
  have habs : magnitude n.natAbs 0 = |(n : ℚ)| := by simp [magnitude, Nat.cast_natAbs]
  rw [Decimal.value, habs, withSign]
  by_cases hn : n < 0
  · rw [if_pos (by simpa using hn), abs_of_neg (by exact_mod_cast hn), neg_neg]
  · rw [if_neg (by simpa using hn), abs_of_nonneg (by exact_mod_cast Int.not_lt.mp hn)]

theorem ofValue_of_shown {t : String} {x : Decimal} (hshown : amount.shown = .ok t)
    (hread : ofText? t = some x) : Decimal.ofValue amount = .ok x := by
  rw [Decimal.ofValue, hshown]
  simp only [ok_bind, hread, Option.elim_some]

/-- A decimal number is read from the text that it is written as. -/
theorem ofValue_decimal (s : Bool) (h : smallestExponent ≤ e ∧ adjusted m e ≤ largestExponent) :
    Decimal.ofValue (.decimal (.finite s m e)) = .ok (.finite s m e) :=
  ofValue_of_shown rfl (ofText?_text h)

/-- So is a whole number, if it can be written out. -/
theorem ofValue_int (n : Int) : Decimal.ofValue (.int n) =
    if Value.longestNumber < digitCount n.natAbs then .error .longNumber
    else .ok (.finite (n < 0) n.natAbs 0) := by
  have hshown : (Value.int n).shown = if Value.longestNumber < digitCount n.natAbs then .error .longNumber
    else .ok (toString n) := rfl
  split
  · rename_i hlong
    rw [Decimal.ofValue, hshown, if_pos hlong]
    rfl
  · rename_i hshort
    rw [if_neg hshort, ← text_int] at hshown
    refine ofValue_of_shown hshown (ofText?_text ⟨by decide, ?_⟩)
    rw [Value.longestNumber] at hshort
    rw [adjusted, largestExponent]
    omega

theorem scale_long {n : Int} (hn : Value.longestNumber < digitCount n.natAbs) (decimals : Value) :
    scale (.int n) decimals = .error .longNumber := by
  unfold scale
  simp only [ofValue_int, if_pos hn]
  rfl

theorem Written.read (h : Written amount q) :
    ∃ s m e, Decimal.ofValue amount = .ok (.finite s m e) ∧ Decimal.value s m e = q := by
  cases h with
  | int n hn => exact ⟨_, _, _, (ofValue_int n).trans (if_neg (Nat.not_lt.mpr hn)), value_int n⟩
  | decimal s hrange => exact ⟨_, _, _, ofValue_decimal s hrange, rfl⟩
  | text hspells hrange =>
    exact ⟨_, _, _, ofValue_of_shown rfl (ofText?_of_spells hspells hrange), rfl⟩

end Reading

section Scaled

/-- To scale is to move the exponent, to round, and to take the whole part. -/
theorem scale_eq (hread : Decimal.ofValue amount = .ok (.finite s m e))
    (hd : (d : Int) ≤ Context.standard.emax) :
    scale amount (.int d) = ((Context.standard.round s m (e + d)).mapError Signal.fault).bind
      fun p => p.toInt.mapError NotIntegral.fault := by
  unfold scale
  simp only [hread, tenTo, Context.powTen_eq Context.standard_regular hd]
  change ((Context.standard.mul (.finite s m e) (.finite false 1 d)).mapError Signal.fault).bind _ = _
  rw [Context.mul_powTen]

theorem scale_zero (hread : Decimal.ofValue amount = .ok (.finite s 0 e))
    (hd : (d : Int) ≤ Context.standard.emax) : scale amount (.int d) = .ok 0 := by
  obtain ⟨x, hx⟩ := Context.round_zero Context.standard s (e + d)
  rw [scale_eq hread hd, hx]
  cases s <;> rfl

section NonZero

variable (hm : m ≠ 0) (hread : Decimal.ofValue amount = .ok (.finite s m e))
  (hd : (d : Int) ≤ Context.standard.emax)

include hm hread hd

/-- An amount is scaled to the whole part of the product after rounding. -/
theorem scale_ok (h : magnitude (Context.standard.rounded m (e + d)) (e + d) < Context.standard.bound) :
    scale amount (.int d) =
      .ok (towardZero (Decimal.value s (Context.standard.rounded m (e + d)) (e + d))) := by
  rw [← Context.magnitude_kept] at h
  obtain ⟨k, x, hround, hvalue⟩ := Context.round_ok Context.standard_regular hm h (s := s)
  rw [scale_eq hread hd, hround, Decimal.value, ← Context.magnitude_kept, ← hvalue]
  exact congrArg Except.ok (truncate_eq s k x)

end NonZero

end Scaled

section Short

/-- An amount with few digits is scaled to the whole part of the exact product. -/
theorem scale_of_isShort (hwritten : Written amount q) (hshort : IsShort q)
    (hd : (d : Int) ≤ Context.standard.emax) (hroom : |q| * 10 ^ d < Context.standard.bound) :
    scale amount (.int d) = .ok (towardZero (q * 10 ^ d)) := by
  obtain ⟨s, m, e, hread, rfl⟩ := hwritten.read
  have hproduct : Decimal.value s m e * 10 ^ d = Decimal.value s m (e + d) := by
    rw [Decimal.value, Decimal.value, ← withSign_mul, magnitude_mul_pow]
  rw [hproduct]
  by_cases hm : m = 0
  · subst hm
    rw [scale_zero hread hd, Decimal.value, magnitude_zero,
      towardZero_withSign_of_small s (le_refl 0) one_pos]
  by_cases hcoarse : Context.standard.etiny ≤ e + d + (digitCount m - Context.standard.precision : Nat)
  · obtain ⟨j, x, hj, hvalue⟩ := hshort
    have hdigits : magnitude m e = magnitude j.natAbs x := by
      rw [← abs_of_nonneg (magnitude_nonneg m e), ← abs_withSign s, ← Decimal.value, hvalue, abs_mul,
        abs_of_nonneg (by positivity : (0 : ℚ) ≤ 10 ^ x), magnitude, Nat.cast_natAbs, Int.cast_abs]
    have hrounded : Context.standard.rounded m (e + d) = m := by
      refine Context.rounded_of_dvd ?_
      rw [Context.step_of_coarse Context.standard_regular hcoarse]
      exact Context.pow_dvd_of_short Context.standard_regular.keeps (by zify; exact hj) hdigits
    have hfits : magnitude m (e + d) < Context.standard.bound := by
      rwa [Decimal.value, abs_withSign, abs_of_nonneg (magnitude_nonneg m e), magnitude_mul_pow] at hroom
    rw [scale_ok hm hread hd (hrounded.symm ▸ hfits), hrounded]
  · -- The digits that are dropped here are far behind the point, in the product and in the result.
    obtain ⟨hexact, hrounded⟩ :=
      Context.magnitude_of_fine Context.standard_regular hm (not_le.mp hcoarse)
    rw [Context.magnitude_kept] at hrounded
    have hone : 1 < Context.standard.bound := one_lt_zpow₀ (by norm_num) (by decide)
    rw [scale_ok hm hread hd (hrounded.trans hone), Decimal.value, Decimal.value,
      towardZero_withSign_of_small s (magnitude_nonneg ..) hrounded,
      towardZero_withSign_of_small s (magnitude_nonneg ..) hexact]

/-- An amount that is scaled within the limits: it has few digits, and neither the power of ten nor the
product is too large. -/
structure Scalable (amount : Value) (q : ℚ) (d : Nat) : Prop where
  written : Written amount q
  isShort : IsShort q
  power : (10 : ℚ) ^ d < Context.standard.bound
  room : |q| * 10 ^ d < Context.standard.bound

theorem Scalable.scale_eq (h : Scalable amount q d) :
    scale amount (.int d) = .ok (towardZero (q * 10 ^ d)) := by
  have hpower := h.power
  rw [← zpow_natCast, Context.bound, zpow_lt_zpow_iff_right₀ (by norm_num)] at hpower
  exact scale_of_isShort h.written h.isShort (by omega) h.room

/-- The whole part of the exact product is what an amount is scaled to; so the sign may be put to it before
or after, and the greater amount has the greater result. -/
theorem short_amounts_scale_exactly {a b : Value} {p q : ℚ} (ha : Scalable a p d) (hb : Scalable b q d) :
    scale a (.int d) = .ok (towardZero (p * 10 ^ d)) ∧
      (q = -p → scale b (.int d) = (scale a (.int d)).map (- ·)) ∧
      (p ≤ q → ∃ i j, scale a (.int d) = .ok i ∧ scale b (.int d) = .ok j ∧ i ≤ j) := by
  refine ⟨ha.scale_eq, ?_, fun hle => ?_⟩
  · rintro rfl
    rw [ha.scale_eq, hb.scale_eq, neg_mul, towardZero_neg]
    rfl
  · refine ⟨_, _, ha.scale_eq, hb.scale_eq, towardZero_mono ?_⟩
    gcongr

/-- Half a unit above one, where a unit has six decimals. -/
def aboveOne : Numeral := ⟨['1'], some "0000005".toList, none, by decide, by decide⟩

/-- The half is dropped above zero and below. -/
theorem short_amounts_scale_exactly_aboveOne :
    Scalable (.text " +1.000_000_5 ") (10000005 * 10 ^ (-7 : Int)) 6 ∧
      Scalable (.decimal (.finite true 10000005 (-7))) (-(10000005 * 10 ^ (-7 : Int))) 6 ∧
      scale (.text " +1.000_000_5 ") (.int 6) = .ok 1000000 ∧
      scale (.decimal (.finite true 10000005 (-7))) (.int 6) = .ok (-1000000) := by
  have hlarge : (10 : ℚ) ^ 7 ≤ Context.standard.bound := by
    rw [← zpow_natCast]
    exact zpow_le_zpow_right₀ (by norm_num) (by decide)
  have hpower : (10 : ℚ) ^ 6 < Context.standard.bound := lt_of_lt_of_le (by norm_num) hlarge
  have hroom : |(10000005 * 10 ^ (-7 : Int) : ℚ)| * 10 ^ 6 < Context.standard.bound :=
    lt_of_lt_of_le (by norm_num [abs_of_pos]) hlarge
  have htext : Written (.text " +1.000_000_5 ") (10000005 * 10 ^ (-7 : Int)) := by
    have h := Written.text (t := " +1.000_000_5 ") (g := .plus) (n := aboveOne) (by decide) (by decide)
    rwa [show aboveOne.coeff = 10000005 by decide, show aboveOne.exp = -7 by decide] at h
  have ha : Scalable (.text " +1.000_000_5 ") (10000005 * 10 ^ (-7 : Int)) 6 :=
    ⟨htext, ⟨10000005, -7, by decide, by norm_num⟩, hpower, hroom⟩
  have hb : Scalable (.decimal (.finite true 10000005 (-7))) (-(10000005 * 10 ^ (-7 : Int))) 6 :=
    ⟨.decimal true (by decide), ⟨-10000005, -7, by decide, by norm_num⟩, hpower, by rwa [abs_neg]⟩
  have hwhole : towardZero (10000005 * 10 ^ (-7 : Int) * 10 ^ 6) = 1000000 := by
    rw [towardZero, if_pos (by norm_num)]
    exact Int.floor_eq_iff.mpr ⟨by norm_num, by norm_num⟩
  obtain ⟨hscale, hopposite, -⟩ := short_amounts_scale_exactly ha hb
  rw [hwhole] at hscale
  have hnegative := hopposite rfl
  rw [hscale] at hnegative
  exact ⟨ha, hb, hscale, hnegative⟩

/-- A whole number of one digit and zeros is not scaled where it is too long to be written out. Neither is a
truth value, which counts as a number but is written as a word. -/
theorem long_integers_are_not_scaled :
    (IsShort ((10 ^ 4300 : Int) : ℚ) ∧ (10 : ℚ) ^ 0 < Context.standard.bound ∧
      |((10 ^ 4300 : Int) : ℚ)| * 10 ^ 0 < Context.standard.bound ∧
      scale (.int (10 ^ 4300)) (.int 0) = .error .longNumber) ∧
    scale (.bool true) (.int 6) = .error .invalidDecimal := by
  have hlong (k : Nat) : k < digitCount (10 ^ k : Int).natAbs := by
    rw [Int.natAbs_pow]
    exact (lt_digitCount_iff (Nat.pow_pos (by decide)).ne').mpr (Nat.le_refl _)
  have hbound (k : Nat) (hk : (k : Int) < Context.standard.emax + 1) :
      (10 : ℚ) ^ k < Context.standard.bound := by
    rw [← zpow_natCast]
    exact zpow_lt_zpow_right₀ (by norm_num) hk
  refine ⟨⟨⟨1, 4300, by decide, ?_⟩, hbound 0 (by decide), ?_, scale_long (hlong 4300) _⟩, rfl⟩
  · rw [Int.cast_pow, Int.cast_one, one_mul]
    exact (zpow_natCast (10 : ℚ) 4300).symm
  · rw [pow_zero, mul_one, Int.cast_pow, abs_pow, show |((10 : Int) : ℚ)| = 10 by norm_num]
    exact hbound 4300 (by decide)

end Short

section Integers

/-- What the last digit counts for that is kept of a whole number. -/
def keptUnit (n : Int) : Int := 10 ^ (digitCount n.natAbs - 28)

theorem keptUnit_pos (n : Int) : 0 < keptUnit n := by
  unfold keptUnit
  positivity

/-- What a whole number is rounded to when it is scaled. -/
def roundedInt (n : Int) (d : Nat) : Int :=
  if n < 0 then -(Context.standard.rounded n.natAbs d : Int) else Context.standard.rounded n.natAbs d

theorem nearest_roundedInt (n : Int) (d : Nat) : Nearest (keptUnit n) n (roundedInt n d) := by
  have hstep : (Context.standard.step n.natAbs d : Int) = keptUnit n := by
    have hetiny : Context.standard.etiny ≤ 0 := by decide
    rw [Context.step_of_coarse Context.standard_regular (by omega), keptUnit]
    norm_cast
  have hnearest := Context.standard.rounded_nearest n.natAbs d
  rw [hstep] at hnearest
  unfold roundedInt
  split
  · rename_i hneg
    have h := hnearest.neg
    rwa [show -(n.natAbs : Int) = n by omega] at h
  · rename_i hpos
    rwa [show (n.natAbs : Int) = n by omega] at hnearest

theorem value_roundedInt (n : Int) (d : Nat) :
    Decimal.value (n < 0) (Context.standard.rounded n.natAbs d) d = (roundedInt n d * 10 ^ d : Int) := by
  rw [Decimal.value, withSign, roundedInt, magnitude, zpow_natCast]
  by_cases hn : n < 0
  · simp [hn]
  · simp [hn]

theorem abs_roundedInt (n : Int) (d : Nat) :
    |(roundedInt n d : ℚ)| * 10 ^ d = magnitude (Context.standard.rounded n.natAbs d) d := by
  have h := congrArg (|·|) (value_roundedInt n d)
  rw [Decimal.value, abs_withSign, abs_of_nonneg (magnitude_nonneg ..)] at h
  rw [h]
  push_cast
  rw [abs_mul, abs_of_nonneg (by positivity : (0 : ℚ) ≤ 10 ^ d)]

/-- A number of decimals does not take a whole number that can be written out beyond the limit. -/
theorem roundedInt_fits {n : Int} (hn : digitCount n.natAbs ≤ Value.longestNumber) (hd : d ≤ 255) :
    |(roundedInt n d : ℚ)| * 10 ^ d < Context.standard.bound := by
  have hgrid : Context.standard.grid n.natAbs d + 28 < Context.standard.emax + 1 := by
    have hetiny : Context.standard.etiny ≤ 0 := by decide
    have hlimit : (255 + 4300 + 28 : Int) < Context.standard.emax + 1 := by decide
    rw [Value.longestNumber] at hn
    rw [Context.grid_eq Context.standard_regular]
    omega
  calc |(roundedInt n d : ℚ)| * 10 ^ d
      = magnitude (Context.standard.kept n.natAbs d) (Context.standard.grid n.natAbs d) := by
        rw [abs_roundedInt, Context.magnitude_kept]
    _ ≤ magnitude (1 * 10 ^ 28) (Context.standard.grid n.natAbs d) := by
        rw [one_mul]
        unfold magnitude
        gcongr
        exact Context.kept_le Context.standard_regular n.natAbs d
    _ = 10 ^ (Context.standard.grid n.natAbs d + 28) := by
        rw [magnitude_shift, magnitude, Nat.cast_one, one_mul]
        rfl
    _ < Context.standard.bound := zpow_lt_zpow_right₀ (by norm_num) hgrid

theorem scale_int {n : Int} (hn : digitCount n.natAbs ≤ Value.longestNumber) (hd : d ≤ 255) :
    scale (.int n) (.int d) = .ok (roundedInt n d * 10 ^ d) := by
  have hlimit : (255 : Int) ≤ Context.standard.emax := by decide
  have hdecimals : (d : Int) ≤ Context.standard.emax := by omega
  have hread : Decimal.ofValue (.int n) = .ok (.finite (n < 0) n.natAbs 0) :=
    (ofValue_int n).trans (if_neg (Nat.not_lt.mpr hn))
  by_cases hzero : n = 0
  · subst hzero
    have hrounded : roundedInt 0 d = 0 := by
      simp [roundedInt, Context.rounded_of_dvd (Nat.dvd_zero (Context.standard.step 0 d))]
    rw [scale_zero hread hdecimals, hrounded, zero_mul]
  · have hfits := roundedInt_fits hn hd
    rw [abs_roundedInt] at hfits
    rw [scale_ok (Int.natAbs_ne_zero.mpr hzero) hread hdecimals (by rwa [zero_add]), zero_add,
      value_roundedInt, towardZero_intCast]

/-- A whole number that can be written out is scaled as if it had been rounded to twenty-eight digits first, to
the one number of them that is nearest. So it is scaled exactly where the digits behind them are zeros. -/
theorem integers_scale_as_rounded (n : Int) {d : Nat} (hd : d ≤ 255) :
    (∃ r : Int, (∀ t, Nearest (keptUnit n) n t ↔ t = r) ∧ scale (.int n) (.int d) =
      if Value.longestNumber < digitCount n.natAbs then .error .longNumber else .ok (r * 10 ^ d)) ∧
    (scale (.int n) (.int d) = .ok (n * 10 ^ d) ↔
      digitCount n.natAbs ≤ Value.longestNumber ∧ keptUnit n ∣ n) := by
  have hnearest : ∀ t, Nearest (keptUnit n) n t ↔ t = roundedInt n d := by
    refine fun t => ⟨fun ht => ht.unique (keptUnit_pos n) (nearest_roundedInt n d), ?_⟩
    rintro rfl
    exact nearest_roundedInt n d
  by_cases hlong : Value.longestNumber < digitCount n.natAbs
  · rw [scale_long hlong]
    exact ⟨⟨_, hnearest, (if_pos hlong).symm⟩,
      iff_of_false nofun fun h => Nat.not_lt.mpr h.1 hlong⟩
  · have hshort := Nat.not_lt.mp hlong
    have hexact := (nearest_roundedInt n d).eq_self_iff (keptUnit_pos n)
    rw [scale_int hshort hd]
    refine ⟨⟨_, hnearest, (if_neg hlong).symm⟩, ?_⟩
    rw [Except.ok.injEq, mul_left_inj' (by positivity), hexact, and_iff_right hshort]

/-- Of twenty-nine digits the last is dropped; only a zero there is no loss. -/
theorem integers_scale_as_rounded_long :
    18 ≤ 255 ∧ keptUnit (10 ^ 28 + 5) = 10 ∧
      (∃ r : Int, Nearest 10 (10 ^ 28 + 5) r ∧
        scale (.int (10 ^ 28 + 5)) (.int 18) = .ok (r * 10 ^ 18)) ∧
      scale (.int (10 ^ 28 + 5)) (.int 18) ≠ .ok ((10 ^ 28 + 5) * 10 ^ 18) := by
  have hunit : keptUnit (10 ^ 28 + 5) = 10 := by decide
  obtain ⟨⟨r, hnearest, hscale⟩, hexact⟩ := integers_scale_as_rounded (10 ^ 28 + 5) (d := 18) (by decide)
  rw [hunit] at hnearest hexact
  rw [if_neg (by decide)] at hscale
  exact ⟨by decide, hunit, ⟨r, (hnearest r).mpr rfl, hscale⟩, fun h => absurd (hexact.mp h).2 (by decide)⟩

theorem largest_word_is_rounded :
    ether (.int (2 ^ 256 - 1)) = .ok (1157920892373161954235709850 * 10 ^ 68) ∧
      1157920892373161954235709850 * 10 ^ 68 ≠ (2 ^ 256 - 1) * (10 : Int) ^ 18 := by
  decide +kernel

end Integers

end Basketry.Units
