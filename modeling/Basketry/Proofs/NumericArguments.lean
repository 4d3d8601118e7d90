import Mathlib.Data.Nat.Digits.Defs
import Basketry.Deploy.CommandLine
import Basketry.Proofs.WrittenDecimals

namespace Basketry

namespace Text

variable {c : Char} {cs : List Char} {ds : List Nat}

section Spelling

/-- The values of digits that are all decimal. -/
def DecimalDigits (cs : List Char) (ds : List Nat) : Prop := cs.map decimalDigit? = ds.map some

/-- The number that digits spell in base ten. -/
def number (ds : List Nat) : Nat := Nat.ofDigits 10 ds.reverse

theorem exists_decimalDigits (h : ∀ c ∈ cs, decimalDigit? c ≠ none) : ∃ ds, DecimalDigits cs ds := by
  induction cs with
  | nil => exact ⟨[], rfl⟩
  | cons c cs ih =>
    obtain ⟨hc,hcs⟩ := List.forall_mem_cons.mp h
    obtain ⟨d,hd⟩ := Option.ne_none_iff_exists'.mp hc
    obtain ⟨ds,hds⟩ := ih hcs
    exact ⟨d :: ds, by rw [DecimalDigits, List.map_cons, List.map_cons, hd, hds]⟩

theorem DecimalDigits.ne_none (h : DecimalDigits cs ds) : ∀ c ∈ cs, decimalDigit? c ≠ none := by
  intro c hc hnone
  have hmem : decimalDigit? c ∈ ds.map some := h ▸ List.mem_map_of_mem hc
  rw [hnone] at hmem
  obtain ⟨d,-,hd⟩ := List.mem_map.mp hmem
  cases hd

theorem DecimalDigits.unique {ds' : List Nat} (h : DecimalDigits cs ds) (h' : DecimalDigits cs ds') :
    ds = ds' :=
  (List.map_inj_right fun _ _ => Option.some.inj).mp (h.symm.trans h')

theorem isDigit_of_decimal (h : decimalDigit? c ≠ none) : isDigit c = true := by
  rw [isDigit, Option.isSome_iff_ne_none.mpr h, Bool.true_or]

/-- One more digit of a number. -/
def appendDigit (n : Option Nat) (c : Char) : Option Nat := do
  return 10 * (← n) + (← decimalDigit? c)

theorem foldl_appendDigit_none (cs : List Char) : cs.foldl appendDigit none = none := by
  induction cs with
  | nil => rfl
  | cons c cs ih => exact ih

/-- The digits come behind those of the number that is there already. -/
theorem foldl_appendDigit (h : DecimalDigits cs ds) (n : Nat) :
    cs.foldl appendDigit (some n) = some (Nat.ofDigits 10 (ds.reverse ++ [n])) := by
  induction cs generalizing ds n with
  | nil =>
    obtain rfl : ds = [] := List.map_eq_nil_iff.mp h.symm
    simp
  | cons c cs ih =>
    obtain ⟨d,ds,rfl,hd,hds⟩ := List.map_eq_cons_iff.mp h.symm
    have hstep : appendDigit (some n) c = some (10 * n + d) := by
      rw [appendDigit, ← hd]
      rfl
    rw [List.foldl_cons, hstep, ih hds.symm, List.reverse_cons, List.append_assoc, Nat.ofDigits_append,
      Nat.ofDigits_append]
    simp [Nat.ofDigits_cons, Nat.add_comm]

theorem spelled?_of_decimalDigits (h : DecimalDigits cs ds) :
    spelled? cs = some (number ds) := by
  have hzero : spelled? cs = some (Nat.ofDigits 10 (ds.reverse ++ [0])) := foldl_appendDigit h 0
  rw [hzero, Nat.ofDigits_append]
  simp [number]

theorem spelled?_eq_none (h : ∃ c ∈ cs, decimalDigit? c = none) : spelled? cs = none := by
  obtain ⟨c,hc,hnone⟩ := h
  obtain ⟨before,after,rfl⟩ := List.append_of_mem hc
  have hstop : ∀ n, appendDigit n c = none := by
    intro n
    rw [appendDigit, hnone]
    cases n <;> rfl
  change (before ++ c :: after).foldl appendDigit (some 0) = none
  rw [List.foldl_append, List.foldl_cons, hstop, foldl_appendDigit_none]

end Spelling

section Marks

/-- Runs of code points among which there is no blank, no sign and no underscore. -/
def unmarked : List (Nat × Nat) :=
  [(0x30, 0x39), (0xA1, 0x167F), (0x1681, 0x1FFF), (0x2060, 0x2FFF), (0x3001, 0x10FFFF)]

/-- The digits of a script stand in a row, and no row has a mark between them. -/
theorem isDigit_unmarked (h : isDigit c = true) :
    ∃ r ∈ unmarked, r.1 ≤ c.toNat ∧ c.toNat ≤ r.2 := by
  have hdecimal : ∀ start ∈ decimalZeros, ∃ r ∈ unmarked, r.1 ≤ start ∧ start + 9 ≤ r.2 := by decide
  have hother : ∀ d ∈ otherDigits, ∃ r ∈ unmarked, r.1 ≤ d.1 ∧ d.2 ≤ r.2 := by decide
  rw [isDigit, Bool.or_eq_true] at h
  rcases h with h | h
  · rw [decimalDigit?, Option.isSome_map, List.find?_isSome] at h
    obtain ⟨start,hmem,hin⟩ := h
    obtain ⟨r,hr,hlow,hhigh⟩ := hdecimal start hmem
    simp only [Bool.and_eq_true, decide_eq_true_eq] at hin
    exact ⟨r, hr, by omega, by omega⟩
  · obtain ⟨d,hmem,hin⟩ := List.any_eq_true.mp h
    obtain ⟨r,hr,hlow,hhigh⟩ := hother d hmem
    simp only [Bool.and_eq_true, decide_eq_true_eq] at hin
    exact ⟨r, hr, by omega, by omega⟩

theorem isDigit_plain (h : isDigit c = true) :
    isBlank c = false ∧ c ≠ '-' ∧ c ≠ '+' ∧ c ≠ '_' := by
  obtain ⟨r,hr,hlow,hhigh⟩ := isDigit_unmarked h
  have hmark : ∀ d : Char, (∀ r ∈ unmarked, ¬ (r.1 ≤ d.toNat ∧ d.toNat ≤ r.2)) → c ≠ d := by
    rintro d hd rfl
    exact hd r hr ⟨hlow, hhigh⟩
  refine ⟨?_, hmark '-' (by decide), hmark '+' (by decide), hmark '_' (by decide)⟩
  simp only [unmarked, List.mem_cons, List.not_mem_nil, or_false] at hr
  simp only [isBlank, Bool.or_eq_false_iff, Bool.and_eq_false_iff, decide_eq_false_iff_not,
    beq_eq_false_iff_ne]
  rcases hr with rfl | rfl | rfl | rfl | rfl <;> dsimp only at hlow hhigh <;> omega

end Marks

end Text

namespace Value
variable {cs : List Char} {s : String}

theorem ungrouped?_of_plain (h : '_' ∉ cs) : ungrouped? cs = some cs := by
  induction cs with
  | nil => rfl
  | cons c cs ih =>
    have hc : c ≠ '_' := fun hc => h (hc ▸ List.mem_cons_self)
    have hcs : '_' ∉ cs := fun hcs => h (List.mem_cons_of_mem c hcs)
    rw [ungrouped?]
    · rw [ih hcs]
      rfl
    all_goals simp [hc]

/-- Digits are read without more ado, as long as there are not too many. -/
theorem whole_of_digits (hne : s ≠ "") (h : ∀ c ∈ s.toList, Text.isDigit c = true) :
    (Value.text s).whole =
      if longestNumber < s.toList.length then .error .notWhole
      else (Text.spelled? s.toList).elim (.error .notWhole) fun n => .ok n := by
  have hplain := fun c hc => Text.isDigit_plain (h c hc)
  have hstrip : Text.strip s.toList = s.toList :=
    Decimal.strip_of_not_blank fun c hc => (hplain c hc).1
  have hungrouped : ungrouped? s.toList = some s.toList :=
    ungrouped?_of_plain fun hmem => (hplain _ hmem).2.2.2 rfl
  have hhead : s.toList.head? ≠ some '_' := fun hhead =>
    (hplain _ (List.mem_of_mem_head? hhead)).2.2.2 rfl
  have hnatural : natural? s.toList =
      if longestNumber < s.toList.length then none else Text.spelled? s.toList := by
    have hempty : s.toList ≠ [] := fun hempty => hne (String.toList_eq_nil_iff.mp hempty)
    rw [natural?, if_neg hhead, hungrouped]
    simp only [Option.bind_eq_bind, Option.bind_some, hempty, false_or]
    split <;> rfl
  have hspelled : spelledWhole? s = (natural? s.toList).map Int.ofNat := by
    rw [spelledWhole?, hstrip]
    split
    · rename_i hminus
      exact absurd rfl (hplain '-' (by rw [hminus]; exact List.mem_cons_self)).2.1
    · rename_i hplus
      exact absurd rfl (hplain '+' (by rw [hplus]; exact List.mem_cons_self)).2.2.1
    · rfl
  rw [whole, hspelled, hnatural]
  split
  · rfl
  · cases Text.spelled? s.toList <;> rfl

end Value

namespace Deploy
variable {s : String}

/-- A text of digits alone, of whatever kind they are. -/
def IsNumeric (s : String) : Prop := s ≠ "" ∧ ∀ c ∈ s.toList, Text.isDigit c = true

theorem not_isNumeric : ¬ IsNumeric s ↔ s = "" ∨ ∃ c ∈ s.toList, Text.isDigit c = false := by
  simp only [IsNumeric, not_and_or, not_forall, ne_eq, Classical.not_not, Bool.not_eq_true, exists_prop]

theorem argumentOf_text (h : ¬ IsNumeric s) : argumentOf s = .ok (.text s) := by
  refine if_neg fun hs => h ⟨hs.1, ?_⟩
  exact List.all_eq_true.mp hs.2

theorem argumentOf_numeric (h : IsNumeric s) :
    argumentOf s = if Value.longestNumber < s.toList.length then .error .notWhole
      else (Text.spelled? s.toList).elim (.error .notWhole) fun n => .ok (.int n) := by
  rw [argumentOf, if_pos ⟨h.1, List.all_eq_true.mpr h.2⟩, Value.whole_of_digits h.1 h.2]
  split
  · rfl
  · cases Text.spelled? s.toList <;> rfl

/-- What comes of a text of digits: decimal digits spell a number, and one of another kind spoils it. -/
theorem argumentOf_cases (h : IsNumeric s) :
    (∃ ds, Text.DecimalDigits s.toList ds ∧ s.toList.length ≤ Value.longestNumber ∧
      argumentOf s = .ok (.int (Text.number ds))) ∨
    (((∃ c ∈ s.toList, Text.decimalDigit? c = none) ∨ Value.longestNumber < s.toList.length) ∧
      argumentOf s = .error .notWhole) := by
  rw [argumentOf_numeric h]
  by_cases hlong : Value.longestNumber < s.toList.length
  · exact .inr ⟨.inr hlong, if_pos hlong⟩
  · rw [if_neg hlong]
    by_cases hother : ∃ c ∈ s.toList, Text.decimalDigit? c = none
    · exact .inr ⟨.inl hother, by rw [Text.spelled?_eq_none hother]; rfl⟩
    · obtain ⟨ds,hds⟩ := Text.exists_decimalDigits fun c hc hnone => hother ⟨c, hc, hnone⟩
      exact .inl ⟨ds, hds, Nat.not_lt.mp hlong, by rw [Text.spelled?_of_decimalDigits hds]; rfl⟩

/-- A text is read as a number exactly where it has decimal digits and no other characters, at least one and
no more than the longest number has, and it is then the number that they spell. It is passed on exactly
where it is empty or has a character that is no digit. What is left has digits alone, but one that is not
decimal or too many; it is refused. -/
theorem decimal_digits_are_numbers (s : String) :
    (∀ n, argumentOf s = .ok (.int n) ↔ s ≠ "" ∧ s.toList.length ≤ 4300 ∧
      ∃ ds, Text.DecimalDigits s.toList ds ∧ n = Text.number ds) ∧
    (argumentOf s = .ok (.text s) ↔ s = "" ∨ ∃ c ∈ s.toList, Text.isDigit c = false) ∧
    (argumentOf s = .error .notWhole ↔ s ≠ "" ∧ (∀ c ∈ s.toList, Text.isDigit c = true) ∧
      ((∃ c ∈ s.toList, Text.decimalDigit? c = none) ∨ 4300 < s.toList.length)) ∧
    ((∃ n, argumentOf s = .ok (.int n)) ∨ argumentOf s = .ok (.text s) ∨
      argumentOf s = .error .notWhole) := by
  have hlongest : Value.longestNumber = 4300 := rfl
  by_cases hs : IsNumeric s
  · have hdigits : ¬ (s = "" ∨ ∃ c ∈ s.toList, Text.isDigit c = false) :=
      fun hs' => not_isNumeric.mpr hs' hs
    obtain ⟨ds,hds,hshort,hread⟩ | ⟨hspoilt,hread⟩ := argumentOf_cases hs
    · rw [hread]
      refine ⟨fun n => ⟨fun hn => ⟨hs.1, hshort, ds, hds, ?_⟩, ?_⟩, iff_of_false nofun hdigits,
        iff_of_false nofun ?_, .inl ⟨_, rfl⟩⟩
      · cases hn
        rfl
      · rintro ⟨-,-,ds',hds',rfl⟩
        rw [hds.unique hds']
      · rintro ⟨-,-,⟨c,hc,hnone⟩ | hlong⟩
        · exact hds.ne_none c hc hnone
        · omega
    · rw [hread]
      refine ⟨fun n => iff_of_false nofun ?_, iff_of_false nofun hdigits,
        iff_of_true rfl ⟨hs.1, hs.2, hspoilt⟩, .inr (.inr rfl)⟩
      rintro ⟨-,hshort,ds,hds,-⟩
      obtain ⟨c,hc,hnone⟩ | hlong := hspoilt
      · exact hds.ne_none c hc hnone
      · omega
  · rw [argumentOf_text hs]
    refine ⟨fun n => iff_of_false nofun ?_, iff_of_true rfl (not_isNumeric.mp hs),
      iff_of_false nofun fun hspoilt => hs ⟨hspoilt.1, hspoilt.2.1⟩, .inr (.inl rfl)⟩
    rintro ⟨hne,-,ds,hds,-⟩
    exact hs ⟨hne, fun c hc => Text.isDigit_of_decimal (hds.ne_none c hc)⟩

/-- A superscript counts as a digit and spells nothing, alone or behind a decimal digit. -/
theorem superscripts_are_refused :
    argumentOf "²" = .error .notWhole ∧ ¬ (∃ ds, Text.DecimalDigits "²".toList ds) ∧
      argumentOf "1²" = .error .notWhole ∧ ¬ (∃ ds, Text.DecimalDigits "1²".toList ds) := by
  have hnone : Text.decimalDigit? '²' = none := by decide
  refine ⟨rfl, fun ⟨ds,hds⟩ => ?_, rfl, fun ⟨ds,hds⟩ => ?_⟩
  · exact hds.ne_none '²' (by decide) hnone
  · exact hds.ne_none '²' (by decide) hnone

end Deploy

end Basketry
