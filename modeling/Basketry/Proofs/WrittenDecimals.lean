import Basketry.Decimal.Printer
import Basketry.Proofs.Numerals

namespace Basketry.Decimal

variable {ds cs : List Char} {s : Bool} {m : Nat} {e : Int}

section Digits

theorem allDigits_digits (n : Nat) : AllDigits (digits n) := fun _ hc =>
  Nat.isDigit_of_mem_toDigits (by decide) (by decide) hc

theorem positional_digits (n : Nat) : positional (digits n) = n := Nat.ofDigitChars_ten_toDigits

theorem positional_padded (k : Nat) (ds : List Char) :
    positional (List.replicate k '0' ++ ds) = positional ds := by
  simp [positional, Nat.ofDigitChars_append, Nat.ofDigitChars_replicate_zero]

/-- A point among digits makes a numeral of them, with or without a power behind. -/
theorem exists_withPoint (hds : AllDigits ds) (hne : ds ≠ []) (places : Nat) (power : Option Power) :
    ∃ n : Numeral, n.chars = withPoint ds places ++ power.elim [] Power.chars ∧
      n.coeff = positional ds ∧ n.exp = power.elim 0 Power.value - places := by
  unfold withPoint
  split
  · rename_i hplaces
    subst hplaces
    refine ⟨⟨ds, none, power, by simpa using hne, by simpa using hds⟩, ?_, ?_, ?_⟩
    · simp [Numeral.chars]
    · simp [Numeral.coeff]
    · simp [Numeral.exp]
  · dsimp only
    have hpadded : AllDigits (List.replicate (places + 1 - ds.length) '0' ++ ds) := by
      refine List.forall_mem_append.mpr ⟨fun c hc => ?_, hds⟩
      rw [List.eq_of_mem_replicate hc]
      decide
    have hlength : places + 1 ≤ (List.replicate (places + 1 - ds.length) '0' ++ ds).length := by
      rw [List.length_append, List.length_replicate]
      omega
    have hcoeff := positional_padded (places + 1 - ds.length) ds
    generalize List.replicate (places + 1 - ds.length) '0' ++ ds = padded at *
    refine ⟨⟨padded.take (padded.length - places), some (padded.drop (padded.length - places)), power, ?_, ?_⟩,
      ?_, ?_, ?_⟩
    · rw [Option.getD_some, List.take_append_drop]
      exact List.ne_nil_of_length_pos (by omega)
    · rwa [Option.getD_some, List.take_append_drop]
    · simp [Numeral.chars]
    · change positional (padded.take _ ++ padded.drop _) = _
      rw [List.take_append_drop, hcoeff]
    · change power.elim 0 Power.value - ((padded.drop (padded.length - places)).length : Int) = _
      rw [List.length_drop]
      omega

/-- The power behind a number that is not written by positions. -/
def writtenPower (x : Int) : Power :=
  ⟨'E', if x < 0 then .minus else .plus, digits x.natAbs, .inr rfl, Nat.toDigits_ne_nil,
    allDigits_digits _⟩

theorem value_writtenPower (x : Int) : (writtenPower x).value = x := by
  simp only [Power.value, writtenPower, positional_digits]
  by_cases hx : x < 0
  · rw [if_pos hx, if_pos (show Sign.minus.negative = true by decide)]
    omega
  · rw [if_neg hx, if_neg (show ¬Sign.plus.negative = true by decide)]
    omega

theorem chars_writtenPower (x : Int) :
    (writtenPower x).chars = 'E' :: (if x < 0 then '-' else '+') :: digits x.natAbs := by
  rw [Power.chars, writtenPower]
  split <;> rfl

theorem exists_finiteChars (m : Nat) (e : Int) :
    ∃ n : Numeral, n.chars = finiteChars m e ∧ n.coeff = m ∧ n.exp = e := by
  have hdigits := positional_digits m
  unfold finiteChars
  split
  · rename_i hposition
    obtain ⟨n, hchars, hcoeff, hexp⟩ :=
      exists_withPoint (allDigits_digits m) Nat.toDigits_ne_nil (-e).toNat none
    refine ⟨n, by simpa using hchars, hcoeff.trans hdigits, ?_⟩
    rw [hexp, Option.elim_none]
    omega
  · obtain ⟨n, hchars, hcoeff, hexp⟩ :=
      exists_withPoint (allDigits_digits m) Nat.toDigits_ne_nil (digitCount m - 1)
        (some (writtenPower (adjusted m e)))
    refine ⟨n, ?_, hcoeff.trans hdigits, ?_⟩
    · rw [hchars, Option.elim_some, chars_writtenPower]
      rfl
    · have := Nat.length_toDigits_pos (b := 10) (n := m)
      rw [hexp, Option.elim_some, value_writtenPower, adjusted, digitCount]
      omega

end Digits

section Texts

/-- The characters of numerals that are not digits. -/
def marks : List Char := ['.', '+', '-', 'e', 'E']

def IsPlain (c : Char) : Prop := isAsciiDigit c ∨ c ∈ marks

theorem isPlain_mark {c : Char} (h : marks.contains c = true) : IsPlain c := .inr (List.contains_iff_mem.mp h)

theorem IsPlain.toAscii {c : Char} (h : IsPlain c) : toAscii? c = some c := by
  refine if_pos ?_
  rcases h with h | h
  · have := isAsciiDigit_toNat h
    omega
  · have hmarks : marks.all (fun c => 0 < c.toNat && c.toNat < 128) = true := by decide
    simpa using List.all_eq_true.mp hmarks c h

theorem IsPlain.not_blank {c : Char} (h : IsPlain c) : Text.isBlank c = false := by
  rcases h with h | h
  · have := isAsciiDigit_toNat h
    simp only [Text.isBlank, Bool.or_eq_false_iff, Bool.and_eq_false_iff, decide_eq_false_iff_not,
      beq_eq_false_iff_ne]
    omega
  · have hmarks : marks.all (fun c => !Text.isBlank c) = true := by decide
    simpa using List.all_eq_true.mp hmarks c h

theorem IsPlain.ne_underscore {c : Char} (h : IsPlain c) : c ≠ '_' := by
  rintro rfl
  rcases h with h | h
  · exact absurd h (by decide)
  · exact absurd (List.contains_iff_mem.mpr h) (by decide)

theorem Sign.isPlain (g : Sign) : ∀ c ∈ g.chars, IsPlain c := by
  cases g with
  | absent => nofun
  | plus => exact List.forall_mem_singleton.mpr (isPlain_mark rfl)
  | minus => exact List.forall_mem_singleton.mpr (isPlain_mark rfl)

theorem AllDigits.isPlain (h : AllDigits ds) : ∀ c ∈ ds, IsPlain c := fun c hc => .inl (h c hc)

theorem Power.isPlain (p : Power) : ∀ c ∈ p.chars, IsPlain c := by
  refine List.forall_mem_cons.mpr ⟨?_, List.forall_mem_append.mpr ⟨p.sign.isPlain, p.allDigits.isPlain⟩⟩
  rcases p.isMark with h | h
  · rw [h]
    exact isPlain_mark rfl
  · rw [h]
    exact isPlain_mark rfl

theorem Numeral.isPlain (n : Numeral) : ∀ c ∈ n.chars, IsPlain c := by
  obtain ⟨whole, fraction, power, -, hdigits⟩ := n
  obtain ⟨hwhole, hfraction⟩ := List.forall_mem_append.mp hdigits
  refine List.forall_mem_append.mpr ⟨List.forall_mem_append.mpr ⟨AllDigits.isPlain hwhole, ?_⟩, ?_⟩
  · cases fraction with
    | none => nofun
    | some ds => exact List.forall_mem_cons.mpr ⟨isPlain_mark rfl, AllDigits.isPlain hfraction⟩
  · cases power with
    | none => nofun
    | some p => exact p.isPlain

theorem strip_of_not_blank (h : ∀ c ∈ cs, Text.isBlank c = false) : Text.strip cs = cs := by
  have hkeep : ∀ xs : List Char, (∀ c ∈ xs, Text.isBlank c = false) → xs.dropWhile Text.isBlank = xs := by
    intro xs hxs
    cases xs with
    | nil => rfl
    | cons x xs => exact List.dropWhile_cons_of_neg (by simp [hxs x])
  rw [Text.strip, hkeep cs h, hkeep _ (fun c hc => h c (List.mem_reverse.mp hc)), List.reverse_reverse]

theorem mapM_toAscii_of_plain (h : ∀ c ∈ cs, IsPlain c) : cs.mapM toAscii? = some cs := by
  induction cs with
  | nil => rfl
  | cons c cs ih =>
    obtain ⟨hc, hcs⟩ := List.forall_mem_cons.mp h
    simp [List.mapM_cons, hc.toAscii, ih hcs]

/-- A numeral by itself spells itself. -/
theorem spells_ofList (g : Sign) (n : Numeral) : Spells (String.ofList (g.chars ++ n.chars)) g n := by
  have hplain : ∀ c ∈ g.chars ++ n.chars, IsPlain c :=
    List.forall_mem_append.mpr ⟨g.isPlain, n.isPlain⟩
  have hkept : (g.chars ++ n.chars).filter (· ≠ '_') = g.chars ++ n.chars :=
    List.filter_eq_self.mpr fun c hc => by simpa using (hplain c hc).ne_underscore
  rw [Spells, String.toList_ofList, strip_of_not_blank fun c hc => (hplain c hc).not_blank, hkept,
    mapM_toAscii_of_plain hplain]

theorem spells_text (s : Bool) (m : Nat) (e : Int) : ∃ n : Numeral,
    Spells (finite s m e).text (if s then .minus else .absent) n ∧ n.coeff = m ∧ n.exp = e := by
  obtain ⟨n, hchars, hcoeff, hexp⟩ := exists_finiteChars m e
  refine ⟨n, ?_, hcoeff, hexp⟩
  have htext : (finite s m e).text =
      String.ofList ((if s then Sign.minus else .absent).chars ++ n.chars) := by
    rw [text, chars, hchars]
    cases s <;> rfl
  rw [htext]
  exact spells_ofList _ n

/-- To write a number out and to read it gives the number back. -/
theorem ofText?_text (h : smallestExponent ≤ e ∧ adjusted m e ≤ largestExponent) :
    ofText? (finite s m e).text = some (.finite s m e) := by
  obtain ⟨n, hspells, rfl, rfl⟩ := spells_text s m e
  rw [ofText?_of_spells hspells h]
  cases s <;> rfl

/-- A whole number is written as usual. -/
theorem text_int (n : Int) : (finite (n < 0) n.natAbs 0).text = toString n := by
  have hchars (k : Nat) : finiteChars k 0 = Nat.toDigits 10 k := by
    have hpos := Nat.length_toDigits_pos (b := 10) (n := k)
    rw [finiteChars, if_pos ⟨Int.le_refl 0, by rw [adjusted, digitCount]; omega⟩]
    rfl
  rw [text, chars, hchars, Int.toString_eq_repr, Int.repr_eq_if, signed]
  by_cases hn : n < 0
  · rw [if_pos (by simpa using hn), if_neg (by omega), Nat.repr_eq_ofList_toDigits, String.ofList_cons,
      show (-n).toNat = n.natAbs by omega]
    rfl
  · rw [if_neg (by simpa using hn), if_pos (by omega), Nat.repr_eq_ofList_toDigits,
      show n.toNat = n.natAbs by omega]

end Texts

end Basketry.Decimal
