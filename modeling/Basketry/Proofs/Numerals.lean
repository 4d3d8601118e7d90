import Mathlib.Data.List.TakeDrop
import Mathlib.Data.List.TakeWhile
import Basketry.Decimal.Reader

namespace Basketry.Decimal

/-- The sign in front of digits. -/
inductive Sign where
  | absent
  | plus
  | minus

namespace Sign

def chars : Sign → List Char
  | absent => []
  | plus => ['+']
  | minus => ['-']

def negative : Sign → Bool
  | minus => true
  | _ => false

end Sign

def AllDigits (ds : List Char) : Prop := ∀ c ∈ ds, isAsciiDigit c

instance (ds : List Char) : Decidable (AllDigits ds) := List.decidableBAll _ ds

/-- The number that digits stand for, each at its place. -/
def positional (ds : List Char) : Nat := Nat.ofDigitChars 10 ds 0

/-- A power of ten as it is written behind a number. -/
structure Power where
  mark : Char
  sign : Sign
  digits : List Char
  isMark : mark = 'e' ∨ mark = 'E'
  isWritten : digits ≠ []
  allDigits : AllDigits digits

namespace Power

def chars (p : Power) : List Char := p.mark :: (p.sign.chars ++ p.digits)

def value (p : Power) : Int := if p.sign.negative then -positional p.digits else positional p.digits

end Power

/-- A number without its sign: at least one digit, before or behind the point. -/
structure Numeral where
  whole : List Char
  fraction : Option (List Char)
  power : Option Power
  isWritten : whole ++ fraction.getD [] ≠ []
  allDigits : AllDigits (whole ++ fraction.getD [])

namespace Numeral

variable (n : Numeral)

def chars : List Char := n.whole ++ n.fraction.elim [] ('.' :: ·) ++ n.power.elim [] Power.chars

def coeff : Nat := positional (n.whole ++ n.fraction.getD [])

def exp : Int := n.power.elim 0 Power.value - (n.fraction.getD []).length

/-- Exponents are bounded, though far beyond those of results. -/
def InRange : Prop := smallestExponent ≤ n.exp ∧ adjusted n.coeff n.exp ≤ largestExponent

instance : Decidable n.InRange :=
  inferInstanceAs (Decidable (smallestExponent ≤ n.exp ∧ adjusted n.coeff n.exp ≤ largestExponent))

end Numeral

/-- The text is a numeral with blanks around it, underscores in it, and digits of any script. -/
def Spells (s : String) (g : Sign) (n : Numeral) : Prop :=
  ((Text.strip s.toList).filter (· ≠ '_')).mapM toAscii? = some (g.chars ++ n.chars)

instance (s : String) (g : Sign) (n : Numeral) : Decidable (Spells s g n) :=
  inferInstanceAs (Decidable (_ = some (g.chars ++ n.chars)))

section Parts
variable {cs ds rest : List Char}

theorem natOf_eq (ds : List Char) : natOf ds = positional ds := Nat.ofDigitChars_eq_foldl.symm

/-- The reader's sign is the one in front of what it leaves, if what it leaves has none itself. -/
theorem sign_append {g : Sign} (h : ∀ c ∈ rest.head?, c ≠ '-' ∧ c ≠ '+') :
    sign (g.chars ++ rest) = (g.negative, rest) := by
  cases g with
  | plus => rfl
  | minus => rfl
  | absent =>
    cases rest with
    | nil => rfl
    | cons c rest =>
      obtain ⟨hminus, hplus⟩ := h c rfl
      simp [Sign.chars, Sign.negative, sign, hminus, hplus]

/-- Digits end where a character follows that is none. -/
theorem span_digits (hds : AllDigits ds) (hrest : ∀ c ∈ rest.head?, isAsciiDigit c = false) :
    (ds ++ rest).span isAsciiDigit = (ds, rest) := by
  have hstop : rest.takeWhile isAsciiDigit = [] ∧ rest.dropWhile isAsciiDigit = rest := by
    cases rest with
    | nil => exact ⟨rfl, rfl⟩
    | cons c rest => simp [hrest c rfl]
  rw [List.span_eq_takeWhile_dropWhile, List.takeWhile_append_of_pos hds,
    List.dropWhile_append_of_pos hds, hstop.1, hstop.2, List.append_nil]

theorem isAsciiDigit_toNat {c : Char} (h : isAsciiDigit c) : 48 ≤ c.toNat ∧ c.toNat ≤ 57 := by
  simp only [isAsciiDigit, Bool.and_eq_true, decide_eq_true_eq, Char.le_def, UInt32.le_iff_toNat_le] at h
  exact h

/-- Digits and points are neither signs nor letters. -/
theorem ne_of_digit_or_point {c d : Char} (h : isAsciiDigit c ∨ c = '.')
    (hd : isAsciiDigit d = false) (hpoint : d ≠ '.') : c ≠ d := by
  rintro rfl
  rcases h with h | h
  · exact absurd h (Bool.eq_false_iff.mp hd)
  · exact hpoint h

theorem toLower_of_digit_or_point {c : Char} (h : isAsciiDigit c ∨ c = '.') : c.toLower = c := by
  rcases h with h | rfl
  · have := isAsciiDigit_toNat h
    refine dif_neg fun hupper => ?_
    have hA : 65 ≤ c.toNat := hupper.1
    omega
  · rfl

theorem exponent?_chars (p : Option Power) :
    exponent? (p.elim [] Power.chars) = some (p.elim 0 Power.value) := by
  cases p with
  | none => rfl
  | some p =>
    have hhead : ∀ c ∈ p.digits.head?, c ≠ '-' ∧ c ≠ '+' := fun c hc =>
      have hdigit := Or.inl (p.allDigits c (List.mem_of_mem_head? hc))
      ⟨ne_of_digit_or_point hdigit (by decide) (by decide),
        ne_of_digit_or_point hdigit (by decide) (by decide)⟩
    simp only [Option.elim_some, Power.chars, exponent?, if_pos p.isMark, sign_append hhead, natOf_eq,
      Power.value]
    exact if_pos ⟨p.isWritten, List.all_eq_true.mpr p.allDigits⟩

end Parts

section Readers
variable {cs rest : List Char} {negative : Bool} {d : Decimal}

/-- The digits behind a point, and what follows. -/
def behindPoint : List Char → List Char × List Char
  | '.' :: rest => rest.span isAsciiDigit
  | rest => ([], rest)

theorem power_head (p : Option Power) : ∀ c ∈ (p.elim [] Power.chars).head?, c = 'e' ∨ c = 'E' := by
  cases p with
  | none => nofun
  | some p =>
    intro c hc
    obtain rfl : p.mark = c := Option.some.inj hc
    exact p.isMark

namespace Numeral

variable (n : Numeral)

theorem chars_head : ∀ c ∈ n.chars.head?, isAsciiDigit c ∨ c = '.' := by
  intro c hc
  obtain ⟨whole, fraction, power, hwritten, hdigits⟩ := n
  cases whole with
  | cons d whole =>
    obtain rfl : d = c := Option.some.inj hc
    exact .inl (hdigits d (by simp))
  | nil =>
    cases fraction with
    | none => exact absurd rfl hwritten
    | some ds => exact .inr (Option.some.inj hc).symm

theorem behindPoint_chars :
    behindPoint (n.fraction.elim [] ('.' :: ·) ++ n.power.elim [] Power.chars) =
      (n.fraction.getD [], n.power.elim [] Power.chars) := by
  have hhead := power_head n.power
  cases hf : n.fraction with
  | none =>
    simp only [Option.elim_none, List.nil_append, Option.getD_none]
    unfold behindPoint
    split
    · rename_i heq
      exact absurd (hhead '.' (by rw [heq]; rfl)) (by decide)
    · rfl
  | some ds =>
    refine span_digits (fun c hc => ?_) fun c hc => ?_
    · exact n.allDigits c (List.mem_append_right _ (hf ▸ hc))
    · rcases hhead c hc with rfl | rfl <;> decide

theorem span_chars : n.chars.span isAsciiDigit =
    (n.whole, n.fraction.elim [] ('.' :: ·) ++ n.power.elim [] Power.chars) := by
  rw [chars, List.append_assoc]
  refine span_digits (fun c hc => n.allDigits c (List.mem_append_left _ hc)) fun c hc => ?_
  cases hf : n.fraction with
  | none =>
    rw [hf] at hc
    rcases power_head n.power c hc with rfl | rfl <;> decide
  | some ds =>
    rw [hf] at hc
    obtain rfl : '.' = c := Option.some.inj hc
    decide

end Numeral

theorem finite?_eq (negative : Bool) {whole : List Char} (h : cs.span isAsciiDigit = (whole, rest)) :
    finite? negative cs =
      if whole ++ (behindPoint rest).1 = [] then none
      else (exponent? (behindPoint rest).2).bind fun written =>
        if smallestExponent ≤ written - (behindPoint rest).1.length ∧
            adjusted (natOf (whole ++ (behindPoint rest).1)) (written - (behindPoint rest).1.length) ≤
              largestExponent then
          some (.finite negative (natOf (whole ++ (behindPoint rest).1))
            (written - (behindPoint rest).1.length))
        else none := by
  unfold finite?
  rw [h]
  rfl

theorem finite?_chars {n : Numeral} (hn : n.InRange) :
    finite? negative n.chars = some (.finite negative n.coeff n.exp) := by
  rw [finite?_eq negative n.span_chars, n.behindPoint_chars, if_neg n.isWritten, exponent?_chars,
    Option.bind_some, natOf_eq]
  exact if_pos hn

end Readers

section Texts
variable {cs : List Char} {negative : Bool} {s : String}

/-- The names of special values begin with letters. -/
theorem special?_eq_none (h : ∀ c ∈ cs.head?, isAsciiDigit c ∨ c = '.') : special? negative cs = none := by
  cases cs with
  | nil => rfl
  | cons c cs =>
    have hc := h c rfl
    have hs := ne_of_digit_or_point (d := 's') hc (by decide) (by decide)
    have hn := ne_of_digit_or_point (d := 'n') hc (by decide) (by decide)
    have hi := ne_of_digit_or_point (d := 'i') hc (by decide) (by decide)
    simp only [special?, List.map_cons, toLower_of_digit_or_point hc]
    split
    · rename_i heq
      exact absurd (List.cons.inj heq).1 hs
    · rename_i heq
      exact absurd (List.cons.inj heq).1 hn
    · refine if_neg ?_
      rintro (heq | heq)
      · exact hi (List.cons.inj heq).1
      · exact hi (List.cons.inj heq).1

theorem ofText?_of_spells {g : Sign} {n : Numeral} (h : Spells s g n) (hn : n.InRange) :
    ofText? s = some (.finite g.negative n.coeff n.exp) := by
  have hhead : ∀ c ∈ n.chars.head?, c ≠ '-' ∧ c ≠ '+' := fun c hc =>
    have hc := n.chars_head c hc
    ⟨ne_of_digit_or_point hc (by decide) (by decide), ne_of_digit_or_point hc (by decide) (by decide)⟩
  rw [ofText?, h, Option.bind_eq_bind, Option.bind_some, sign_append hhead]
  simp only [special?_eq_none n.chars_head, finite?_chars hn]
  rfl

end Texts

end Basketry.Decimal
