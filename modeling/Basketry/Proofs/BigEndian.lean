import Mathlib.Algebra.Ring.Int.Defs
import Mathlib.Algebra.Ring.Nat
import Mathlib.Data.List.Induction
import Basketry.Bytes.BigEndian

namespace Basketry.BigEndian

theorem count_succ (width : Nat) : count (width + 1) = 256 * count width := by
  simp [count, Nat.pow_succ, Nat.mul_comm]

theorem count_add (high low : Nat) : count (high + low) = count high * count low := by
  simp [count, Nat.pow_add]

theorem count_pos (width : Nat) : 0 < count width := Nat.pow_pos (by decide)

theorem count_le {narrow wide : Nat} (h : narrow ≤ wide) : count narrow ≤ count wide :=
  Nat.pow_le_pow_right (by decide) h

@[simp] theorem length_ofNat (width n : Nat) : (ofNat width n).length = width := by
  induction width generalizing n with
  | zero => rfl
  | succ width ih => simp [ofNat, ih]

@[simp] theorem length_ofInt (width : Nat) (n : Int) : (ofInt width n).length = width :=
  length_ofNat ..

theorem toNat_concat (bs : List UInt8) (b : UInt8) : toNat (bs ++ [b]) = 256 * toNat bs + b.toNat := by
  simp [toNat]

theorem toNat_lt (bs : List UInt8) : toNat bs < count bs.length := by
  induction bs using List.reverseRecOn with
  | nil => decide
  | append_singleton bs b ih =>
    have hb := b.toNat_lt
    rw [toNat_concat, List.length_append, List.length_singleton, count_succ]
    omega

/-- Only as much of a number is kept as the width holds. -/
theorem toNat_ofNat (width n : Nat) : toNat (ofNat width n) = n % count width := by
  induction width generalizing n with
  | zero => simp [ofNat, toNat, count, Nat.mod_one]
  | succ width ih =>
    have hlow : (UInt8.ofNat (n % 256)).toNat = n % 256 := by
      rw [UInt8.toNat_ofNat']
      omega
    rw [ofNat, toNat_concat, ih, hlow, count_succ, Nat.mod_mul]
    omega

theorem ofNat_toNat (bs : List UInt8) : ofNat bs.length (toNat bs) = bs := by
  induction bs using List.reverseRecOn with
  | nil => rfl
  | append_singleton bs b ih =>
    have hb := b.toNat_lt
    rw [List.length_append, List.length_singleton, ofNat, toNat_concat,
      show (256 * toNat bs + b.toNat) / 256 = toNat bs by omega, ih,
      show (256 * toNat bs + b.toNat) % 256 = b.toNat by omega, UInt8.ofNat_toNat]

/-- A wide number is a high part in front of a low one. -/
theorem ofNat_add (high low n : Nat) :
    ofNat (high + low) n = ofNat high (n / count low) ++ ofNat low n := by
  induction low generalizing n with
  | zero => simp [ofNat, count]
  | succ low ih =>
    rw [← Nat.add_assoc, ofNat, ih, ofNat, count_succ, Nat.div_div_eq_div_mul, List.append_assoc]

theorem ofNat_mod (width n : Nat) : ofNat width (n % count width) = ofNat width n := by
  have h := ofNat_toNat (ofNat width n)
  rwa [length_ofNat, toNat_ofNat] at h

theorem ofNat_zero (width : Nat) : ofNat width 0 = List.replicate width 0 := by
  induction width with
  | zero => rfl
  | succ width ih => simp [ofNat, ih, List.replicate_succ']

/-- The highest number of a width has ones everywhere. -/
theorem ofNat_top (width : Nat) : ofNat width (count width - 1) = List.replicate width 255 := by
  induction width with
  | zero => rfl
  | succ width ih =>
    have hpos := count_pos width
    rw [ofNat, count_succ, show (256 * count width - 1) / 256 = count width - 1 by omega,
      show (256 * count width - 1) % 256 = 255 by omega, ih, List.replicate_succ']
    rfl

section Signed
variable {width : Nat} {n : Int}

theorem ofInt_of_nonneg (h : 0 ≤ n) : ofInt width n = ofNat width n.toNat := by
  rw [ofInt, Int.toNat_emod h (Int.natCast_nonneg _), Int.toNat_natCast, ofNat_mod]

theorem toNat_ofInt (width : Nat) (n : Int) : (toNat (ofInt width n) : Int) = n % count width := by
  have hpos := count_pos width
  have hlow := Int.emod_nonneg n (show (count width : Int) ≠ 0 by omega)
  rw [ofInt, toNat_ofNat, Int.natCast_emod, Int.toNat_of_nonneg hlow, Int.emod_emod]

theorem toNat_ofInt_of_lt (h : 0 ≤ n) (hn : n < count width) : (toNat (ofInt width n) : Int) = n := by
  rw [toNat_ofInt, Int.emod_eq_of_lt h hn]

/-- A negative number stands where the number is that is one turn above it. -/
theorem ofInt_of_neg (h : n < 0) (hn : -(count width : Int) ≤ n) :
    ofInt width n = ofNat width (n + count width).toNat := by
  rw [ofInt, ← Int.add_emod_right, Int.emod_eq_of_lt (by omega) (by omega)]

/-- A number that a narrow width holds has zeros in front on a wider one. -/
theorem ofInt_wider {wide : Nat} (hw : width ≤ wide) (h : 0 ≤ n) (hn : n < count width) :
    ofInt wide n = List.replicate (wide - width) 0 ++ ofInt width n := by
  have hlow : n.toNat / count width = 0 := Nat.div_eq_of_lt (by omega)
  have hsplit := ofNat_add (wide - width) width n.toNat
  rwa [Nat.sub_add_cancel hw, hlow, ofNat_zero, ← ofInt_of_nonneg h, ← ofInt_of_nonneg h] at hsplit

/-- A negative number has ones in front on a wider width. -/
theorem ofInt_wider_of_neg {wide : Nat} (hw : width ≤ wide) (h : n < 0)
    (hn : -(count width : Int) ≤ n) :
    ofInt wide n = List.replicate (wide - width) 255 ++ ofInt width n := by
  have hpos := count_pos (wide - width)
  have hcount : count wide = count (wide - width) * count width := by
    rw [← count_add, Nat.sub_add_cancel hw]
  have hturn : (n + count wide).toNat =
      (n + count width).toNat + count width * (count (wide - width) - 1) := by
    have hone : count width * (count (wide - width) - 1) + count width = count wide := by
      rw [← Nat.mul_succ, Nat.succ_eq_add_one, Nat.sub_add_cancel hpos, hcount, Nat.mul_comm]
    omega
  have hhigh : (n + count wide).toNat / count width = count (wide - width) - 1 := by
    rw [hturn, Nat.add_mul_div_left _ _ (count_pos width), Nat.div_eq_of_lt (by omega), Nat.zero_add]
  have hlow : ofNat width (n + count wide).toNat = ofNat width (n + count width).toNat := by
    rw [hturn, ← ofNat_mod, Nat.add_mul_mod_self_left, ofNat_mod]
  have hsplit := ofNat_add (wide - width) width (n + count wide).toNat
  rw [Nat.sub_add_cancel hw, hhigh, ofNat_top, hlow] at hsplit
  rw [ofInt_of_neg h (by have := count_le hw; omega), ofInt_of_neg h hn, hsplit]

theorem toInt_ofInt (h : -(count width / 2 : Int) ≤ n) (hn : n < count width / 2) :
    toInt (ofInt width n) = n := by
  have hnat := toNat_ofInt width n
  rw [toInt, length_ofInt]
  rcases Int.lt_or_le n 0 with hneg | hpos
  · rw [← Int.add_emod_right, Int.emod_eq_of_lt (by omega) (by omega)] at hnat
    rw [if_neg (by omega)]
    omega
  · rw [Int.emod_eq_of_lt hpos (by omega)] at hnat
    rw [if_pos (by omega)]
    exact hnat

theorem ofInt_natCast (bs : List UInt8) : ofInt bs.length (toNat bs) = bs := by
  rw [ofInt_of_nonneg (Int.natCast_nonneg _), Int.toNat_natCast, ofNat_toNat]

theorem ofInt_toInt (bs : List UInt8) : ofInt bs.length (toInt bs) = bs := by
  have hlt := toNat_lt bs
  simp only [toInt]
  split
  · exact ofInt_natCast bs
  · rw [ofInt_of_neg (by omega) (by omega), Int.sub_add_cancel, Int.toNat_natCast, ofNat_toNat]

/-- Half of the numbers of a width have a sign. -/
theorem toInt_range {bs : List UInt8} (h : 0 < bs.length) :
    -(count bs.length / 2 : Int) ≤ toInt bs ∧ toInt bs < count bs.length / 2 := by
  obtain ⟨width,hw⟩ := Nat.exists_eq_add_of_le' h
  have hlt := toNat_lt bs
  have heven : count bs.length = 2 * (128 * count width) := by
    rw [hw, count_succ]
    omega
  simp only [toInt]
  split <;> omega

end Signed

end Basketry.BigEndian
