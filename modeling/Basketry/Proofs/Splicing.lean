import Basketry.Artifact.Linking

namespace Basketry.Artifact

/-- Where the first digit of a span stands. -/
def Span.offset (s : Span) : Nat := (2 * s.start).toNat

def Span.Covers (s : Span) (i : Nat) : Prop := s.offset ≤ i ∧ i < s.offset + 40

instance (s : Span) (i : Nat) : Decidable (s.Covers i) := inferInstanceAs (Decidable (_ ∧ _))

/-- A span of the code with room for an address. -/
structure Span.Fits (length : Nat) (s : Span) : Prop where
  width : s.length = 20
  start : 0 ≤ s.start
  room : s.offset + 40 ≤ length

def Span.Apart (s t : Span) : Prop := s.offset + 40 ≤ t.offset ∨ t.offset + 40 ≤ s.offset

variable {digits code : List Char} {s : Span} {i : Nat}

section Splicing

theorem splice_eq (hs : s.Fits code.length) (digits : List Char) :
    splice digits code s = code.take s.offset ++ digits ++ code.drop (s.offset + 40) := by
  obtain ⟨hwidth,hstart,hroom⟩ := hs
  have hfirst : position code.length (2 * s.start) = s.offset := by
    unfold position Span.offset at *
    split <;> omega
  have hlast : position code.length (2 * s.start + 2 * s.length) = s.offset + 40 := by
    unfold position Span.offset at *
    split <;> omega
  rw [splice, hfirst, hlast]

variable (hs : s.Fits code.length) (hd : digits.length = 40)
include hs hd

theorem length_splice : (splice digits code s).length = code.length := by
  have hroom := hs.room
  rw [splice_eq hs]
  simp only [List.length_append, List.length_take, List.length_drop, hd]
  omega

theorem getElem?_splice (i : Nat) : (splice digits code s)[i]? =
    if s.Covers i then digits[i - s.offset]? else code[i]? := by
  have hroom := hs.room
  have htake : (code.take s.offset).length = s.offset := by
    rw [List.length_take]
    omega
  rw [splice_eq hs, List.append_assoc, List.getElem?_append, htake]
  by_cases hbefore : i < s.offset
  · have hout : ¬ s.Covers i := fun h => absurd h.1 (Nat.not_le.mpr hbefore)
    rw [if_pos hbefore, if_neg hout, List.getElem?_take, if_pos hbefore]
  · rw [if_neg hbefore, List.getElem?_append, hd]
    by_cases hin : i - s.offset < 40
    · have hcovers : s.Covers i := ⟨Nat.not_lt.mp hbefore, by omega⟩
      rw [if_pos hin, if_pos hcovers]
    · have hout : ¬ s.Covers i := fun h => hin (by have := h.2; omega)
      rw [if_neg hin, if_neg hout, List.getElem?_drop]
      congr 1
      omega

end Splicing

section Placements

/-- Spans filled one after another. -/
def place (code : List Char) (ps : List (List Char × Span)) : List Char :=
  ps.foldl (fun code p => splice p.1 code p.2) code

/-- Addresses for spans of the code that are apart from each other. -/
structure Placeable (length : Nat) (ps : List (List Char × Span)) : Prop where
  fits : ∀ p ∈ ps, p.2.Fits length ∧ p.1.length = 40
  apart : ps.Pairwise fun p q => p.2.Apart q.2

variable {ps : List (List Char × Span)} {p : List Char × Span}

theorem Placeable.first (h : Placeable code.length (p :: ps)) :
    p.2.Fits code.length ∧ p.1.length = 40 ∧ Placeable (splice p.1 code p.2).length ps := by
  obtain ⟨hfits,hd⟩ := h.fits p List.mem_cons_self
  rw [length_splice hfits hd]
  exact ⟨hfits, hd, fun q hq => h.fits q (List.mem_cons_of_mem p hq), h.apart.of_cons⟩

/-- No span drifts, since no splice changes the length. -/
theorem length_place (h : Placeable code.length ps) : (place code ps).length = code.length := by
  induction ps generalizing code with
  | nil => rfl
  | cons p ps ih =>
    obtain ⟨hfits,hd,hrest⟩ := h.first
    exact (ih hrest).trans (length_splice hfits hd)

theorem place_uncovered (h : Placeable code.length ps) (hi : ∀ p ∈ ps, ¬ p.2.Covers i) :
    (place code ps)[i]? = code[i]? := by
  induction ps generalizing code with
  | nil => rfl
  | cons p ps ih =>
    obtain ⟨hfits,hd,hrest⟩ := h.first
    have hlater := ih hrest fun q hq => hi q (List.mem_cons_of_mem p hq)
    change (place (splice p.1 code p.2) ps)[i]? = _
    rw [hlater, getElem?_splice hfits hd, if_neg (hi p List.mem_cons_self)]

/-- What is filled in first is not touched by what follows, which is apart from it. -/
theorem place_covered (h : Placeable code.length ps) (hp : p ∈ ps) (hi : p.2.Covers i) :
    (place code ps)[i]? = p.1[i - p.2.offset]? := by
  induction ps generalizing code with
  | nil => cases hp
  | cons q ps ih =>
    obtain ⟨hfits,hd,hrest⟩ := h.first
    change (place (splice q.1 code q.2) ps)[i]? = _
    obtain rfl | hp := List.mem_cons.mp hp
    · have hothers : ∀ q ∈ ps, ¬ q.2.Covers i := by
        intro q hq hcovers
        have hapart := List.rel_of_pairwise_cons h.apart hq
        unfold Span.Apart Span.Covers at *
        omega
      rw [place_uncovered hrest hothers, getElem?_splice hfits hd, if_pos hi]
    · exact ih hrest hp

end Placements

end Basketry.Artifact
