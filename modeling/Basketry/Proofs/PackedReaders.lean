import Mathlib.Data.Int.ModEq
import Basketry.Swap.Window
import Basketry.Proofs.BigEndian
import Basketry.Proofs.Spelling

namespace Basketry.Swap

section Windows
variable {width : Nat} {data w : List UInt8} {start : Int}

theorem window?_append (before after : List UInt8) (h : w.length = width) :
    window? width (before ++ (w ++ after)) (before.length : Nat) = some w := by
  rw [window?, if_pos ⟨by omega, by simp; omega⟩]
  simp [← h]

theorem window?_self (h : w.length = width) : window? width w 0 = some w := by
  have hwhole := window?_append [] [] h
  rwa [List.append_nil] at hwhole

/-- There is room for a window that begins at `start`. -/
def HasRoom (width : Nat) (data : List UInt8) (start : Int) : Prop :=
  0 ≤ start ∧ start ≤ (data.length : Int) - width

theorem window?_of_room (h : HasRoom width data start) :
    window? width data start = some ((data.drop start.toNat).take width) :=
  if_pos ⟨h.1, by have := h.2; omega⟩

theorem window?_eq_none : window? width data start = none ↔ ¬ HasRoom width data start := by
  constructor
  · intro hnone hroom
    rw [window?_of_room hroom] at hnone
    cases hnone
  · intro hroom
    refine if_neg fun hinside => hroom ⟨hinside.1, ?_⟩
    omega

theorem length_window (h : HasRoom width data start) :
    ((data.drop start.toNat).take width).length = width := by
  obtain ⟨hlow,hhigh⟩ := h
  rw [List.length_take, List.length_drop]
  omega

end Windows

/-- A reader that fails for this reason exactly where there is no room for its window. Where there is,
the window is read as if it were all that there is. -/
structure ReadsWindow {α : Type} (read : List UInt8 → Int → Except Fault α) (width : Nat)
    (reason : String) : Prop where
  fails : ∀ data start, read data start = .error (.revert reason) ↔ ¬ HasRoom width data start
  reads : ∀ data start, HasRoom width data start →
    read data start = read ((data.drop start.toNat).take width) 0
  framed : ∀ before w after, w.length = width →
    read (before ++ (w ++ after)) (before.length : Nat) = read w 0

section Readers
variable {α : Type} {read : List UInt8 → Int → Except Fault α} {width : Nat} {reason : String}

/-- A reader that looks at nothing but its window, and that no window fails for want of room. -/
theorem ReadsWindow.of_window
    (hlooks : ∀ {data data' start start'}, window? width data start = window? width data' start' →
      read data start = read data' start')
    (hnone : read [] (-1) = .error (.revert reason))
    (hread : ∀ w, w.length = width → read w 0 ≠ .error (.revert reason)) :
    ReadsWindow read width reason := by
  have hnowhere : window? width [] (-1) = none := if_neg fun h => absurd h.1 (by decide)
  have hreads : ∀ data start, HasRoom width data start →
      read data start = read ((data.drop start.toNat).take width) 0 := fun data start hroom =>
    hlooks ((window?_of_room hroom).trans (window?_self (length_window hroom)).symm)
  refine ⟨fun data start => ⟨fun hfails hroom => ?_, fun hroom => ?_⟩, hreads,
    fun before w after hw => hlooks ((window?_append before after hw).trans (window?_self hw).symm)⟩
  · rw [hreads data start hroom] at hfails
    exact hread _ (length_window hroom) hfails
  · rw [← hnone]
    exact hlooks ((window?_eq_none.mpr hroom).trans hnowhere.symm)

theorem readAddress_bytes (a : Address) : readAddress a.bytes 0 = .ok a := by
  have hwindow : window? addressWidth a.bytes 0 = some a.bytes := window?_self a.length_bytes
  rw [readAddress, hwindow, Option.bind_eq_bind, Option.bind_some, Address.ofBytes?_eq_some.mpr rfl]

theorem readAddress_reads : ReadsWindow readAddress addressWidth "toAddress_outOfBounds" := by
  refine .of_window (fun h => by rw [readAddress, readAddress, h]) rfl fun w hw h => ?_
  rw [readAddress_bytes ⟨w, hw⟩] at h
  cases h

section Numbers
variable {w : List UInt8}

theorem readFee_window (hw : w.length = feeWidth) : readFee w 0 = .ok (BigEndian.toNat w) := by
  rw [readFee, window?_self hw]

theorem readFee_reads : ReadsWindow readFee feeWidth "toUint24_outOfBounds" := by
  refine .of_window (fun h => by rw [readFee, readFee, h]) rfl fun w hw h => ?_
  rw [readFee_window hw] at h
  cases h

theorem readSpacing_window (hw : w.length = feeWidth) : readSpacing w 0 = .ok (BigEndian.toInt w) := by
  rw [readSpacing, window?_self hw]

theorem readSpacing_reads : ReadsWindow readSpacing feeWidth "toInt24_outOfBounds" := by
  refine .of_window (fun h => by rw [readSpacing, readSpacing, h]) rfl fun w hw h => ?_
  rw [readSpacing_window hw] at h
  cases h

/-- The two numbers in three bytes are one number and its two's complement; each is written as the bytes
that it was read from. -/
theorem read_three (hw : w.length = 3) : ∃ fee spacing,
    readFee w 0 = .ok fee ∧ readSpacing w 0 = .ok spacing ∧
      (0 ≤ fee ∧ fee < 2 ^ 24) ∧ (-2 ^ 23 ≤ spacing ∧ spacing < 2 ^ 23) ∧
      spacing ≡ fee [ZMOD 2 ^ 24] ∧ BigEndian.ofInt 3 fee = w ∧ BigEndian.ofInt 3 spacing = w := by
  have hlt := BigEndian.toNat_lt w
  have hrange := BigEndian.toInt_range (show 0 < w.length by omega)
  have hfee := BigEndian.ofInt_natCast w
  have hspacing := BigEndian.ofInt_toInt w
  have hsame := BigEndian.toNat_ofInt w.length (BigEndian.toInt w)
  rw [hspacing] at hsame
  rw [hw] at hlt hrange hfee hspacing hsame
  refine ⟨_, _, readFee_window hw, readSpacing_window hw, ⟨Int.natCast_nonneg _, ?_⟩, hrange, ?_,
    hfee, hspacing⟩
  · exact_mod_cast hlt
  · rw [hsame]
    exact (Int.mod_modEq _ _).symm

end Numbers

section Flags
variable {data : List UInt8} {start : Int}

theorem flag_cases (flag : UInt8) : flag = 0 ∨ flag = 1 ∨ 1 < flag := by
  rw [← UInt8.toNat_inj, ← UInt8.toNat_inj, UInt8.lt_iff_toNat_lt]
  change flag.toNat = 0 ∨ flag.toNat = 1 ∨ 1 < flag.toNat
  omega

theorem readFlag_byte (flag : UInt8) :
    readFlag [flag] 0 = if 1 < flag then .error (.revert "Invalid bool data") else .ok (flag = 1) := by
  have hwindow : window? 1 [flag] 0 = some [flag] := window?_self rfl
  rw [readFlag, hwindow]
  obtain rfl | rfl | hmore := flag_cases flag
  · rfl
  · rfl
  · rw [if_pos hmore]
    split <;> simp_all

theorem readFlag_reads : ReadsWindow readFlag 1 "toBool_outOfBounds" := by
  refine .of_window (fun h => by rw [readFlag, readFlag, h]) rfl fun w hw h => ?_
  obtain ⟨flag,rfl⟩ := List.length_eq_one_iff.mp hw
  rw [readFlag_byte] at h
  split at h
  · exact absurd h (by decide)
  · cases h

/-- Where there is room for one byte, there is a byte. -/
theorem hasRoom_one : HasRoom 1 data start ↔ 0 ≤ start ∧ start.toNat < data.length := by
  rw [HasRoom]
  omega

theorem readFlag_invalid : readFlag data start = .error (.revert "Invalid bool data") ↔
    0 ≤ start ∧ ∃ flag, data[start.toNat]? = some flag ∧ 1 < flag := by
  by_cases hroom : HasRoom 1 data start
  · obtain ⟨hlow,hin⟩ := hasRoom_one.mp hroom
    rw [readFlag_reads.reads data start hroom, List.drop_eq_getElem_cons hin, List.take_succ_cons,
      List.take_zero, readFlag_byte, List.getElem?_eq_getElem hin]
    by_cases hmore : 1 < data[start.toNat]
    · simp [hmore, hlow]
    · simp [hmore]
  · rw [(readFlag_reads.fails data start).mpr hroom]
    refine iff_of_false (by decide) fun ⟨hlow,_,hflag,_⟩ => hroom ?_
    exact hasRoom_one.mpr ⟨hlow, (List.getElem?_eq_some_iff.mp hflag).1⟩

end Flags

end Readers

/-- The readers of addresses, fees, spacings and flags are exact windows, each with its own width and its
own reason. What an address has is the window; a flag over one is refused, and nothing else is. -/
theorem packed_readers_are_exact_windows :
    ReadsWindow readAddress 20 "toAddress_outOfBounds" ∧
    ReadsWindow readFee 3 "toUint24_outOfBounds" ∧
    ReadsWindow readSpacing 3 "toInt24_outOfBounds" ∧
    ReadsWindow readFlag 1 "toBool_outOfBounds" ∧
    (∀ w : List UInt8, w.length = 20 → ∃ a, readAddress w 0 = .ok a ∧ a.bytes = w) ∧
    (∀ w : List UInt8, w.length = 3 → ∃ fee spacing,
      readFee w 0 = .ok fee ∧ readSpacing w 0 = .ok spacing ∧
        (0 ≤ fee ∧ fee < 2 ^ 24) ∧ (-2 ^ 23 ≤ spacing ∧ spacing < 2 ^ 23) ∧
        spacing ≡ fee [ZMOD 2 ^ 24] ∧ BigEndian.ofInt 3 fee = w ∧ BigEndian.ofInt 3 spacing = w) ∧
    (∀ flag : UInt8, ¬ 1 < flag → readFlag [flag] 0 = .ok (flag = 1)) ∧
    ∀ data start, readFlag data start = .error (.revert "Invalid bool data") ↔
      0 ≤ start ∧ ∃ flag, data[start.toNat]? = some flag ∧ 1 < flag := by
  refine ⟨readAddress_reads, readFee_reads, readSpacing_reads, readFlag_reads, fun w hw => ?_,
    fun w hw => read_three hw, fun flag hflag => ?_, fun data start => readFlag_invalid⟩
  · exact ⟨⟨w, hw⟩, readAddress_bytes ⟨w, hw⟩, rfl⟩
  · rw [readFlag_byte, if_neg hflag]

/-- A window in the middle of other bytes. -/
example : readSpacing [7, 255, 255, 254, 7] 1 = .ok (-2) := by decide

end Basketry.Swap
