import Basketry.Text.Search

namespace Basketry.Text

variable {part whole before after : List Char} {mark : Char}

theorem occursIn_iff_isInfix : occursIn part whole = true ↔ part <:+: whole := by
  induction whole with
  | nil => simp [occursIn]
  | cons c whole ih =>
    rw [occursIn, Bool.or_eq_true, ih, List.isPrefixOf_iff_prefix, List.infix_cons_iff]

theorem occursIn_iff : occursIn part whole = true ↔
    ∃ n, ∀ k < part.length, whole[n + k]? = part[k]? := by
  rw [occursIn_iff_isInfix]
  constructor
  · rintro ⟨front,back,rfl⟩
    refine ⟨front.length, fun k hk => ?_⟩
    rw [List.append_assoc, List.getElem?_append_right (Nat.le_add_right _ k), Nat.add_sub_cancel_left,
      List.getElem?_append_left hk]
  · rintro ⟨n,h⟩
    have hprefix : part <+: whole.drop n := by
      rw [List.prefix_iff_getElem?]
      intro k hk
      rw [List.getElem?_drop, h k hk, List.getElem?_eq_getElem hk]
    exact hprefix.isInfix.trans (List.drop_suffix n whole).isInfix

/-- What has no mark in it does not reach over one. -/
theorem infix_around (h : mark ∉ part) :
    part <:+: before ++ mark :: after ↔ part <:+: before ∨ part <:+: after := by
  constructor
  · rintro ⟨front,back,hwhole⟩
    obtain ⟨rest,hbefore,-⟩ | ⟨rest,hfront,hafter⟩ := List.append_eq_append_iff.mp hwhole
    · exact .inl ⟨front, rest, hbefore.symm⟩
    · cases rest with
      | nil => exact .inl ⟨front, [], by rw [hfront, List.append_nil, List.append_nil]⟩
      | cons c rest =>
        obtain ⟨rfl,rfl⟩ := List.cons.inj hafter
        obtain ⟨between,-,hpart⟩ | ⟨between,-,hbetween⟩ := List.append_eq_append_iff.mp hfront
        · exact absurd (hpart ▸ by simp) h
        · cases between with
          | nil =>
            rw [List.nil_append] at hbetween
            exact absurd (hbetween ▸ List.mem_cons_self) h
          | cons c between =>
            obtain ⟨-,rfl⟩ := List.cons.inj hbetween
            exact .inr ⟨between, back, rfl⟩
  · rintro (hbefore | hafter)
    · exact hbefore.trans (List.prefix_append before _).isInfix
    · exact hafter.trans ((List.suffix_cons mark after).trans (List.suffix_append before _)).isInfix

end Basketry.Text
