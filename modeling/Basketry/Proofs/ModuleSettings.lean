import Basketry.Proofs.Standing

namespace Basketry.Chain
open Relation

variable {p : Ref → Aspect → Prop} {u v w : World} {ref : Ref} {m m' : ClaimModule}

/-- The settings that a module keeps. Nothing else keeps any. -/
def Contract.settings : Contract → ClaimSettings
  | .claimModule m => m.settings
  | _ => {}

def World.settingsOf (w : World) (module : Ref) : ClaimSettings := (w.content module).settings

theorem Contract.settings_of_not_module {c : Contract} (h : ∀ m, c ≠ .claimModule m) :
    c.settings = {} := by
  cases c with
  | claimModule m => exact absurd rfl (h m)
  | _ => rfl

theorem World.settingsOf_module (h : w.content ref = .claimModule m) :
    w.settingsOf ref = m.settings := by
  rw [settingsOf, h]
  rfl

theorem Contract.settings_of_homeless {c : Contract} (h : c.address? = none) : c.settings = {} :=
  settings_of_not_module fun m hc => by
    rw [hc] at h
    cases h

/-- Settings are the same where modules stay modules, nothing else becomes one, and no module shows
anything else. -/
theorem World.settingsOf_same {a : Address}
    (hforth : ∀ m, w.content ref = .claimModule m →
      ∃ m', v.content ref = .claimModule m' ∧ ClaimSettings.SameFor a m.settings m'.settings)
    (hback : ∀ m', v.content ref = .claimModule m' → ∃ m, w.content ref = .claimModule m) :
    ClaimSettings.SameFor a (w.settingsOf ref) (v.settingsOf ref) := by
  by_cases hw : ∃ m, w.content ref = .claimModule m
  · obtain ⟨m,hm⟩ := hw
    obtain ⟨m',hm',hsame⟩ := hforth m hm
    rw [settingsOf_module hm, settingsOf_module hm']
    exact hsame
  · have hwn : w.settingsOf ref = {} := Contract.settings_of_not_module fun m h => hw ⟨m, h⟩
    have hvn : v.settingsOf ref = {} := Contract.settings_of_not_module fun m h => hw (hback m h)
    rw [hwn, hvn]
    exact .refl a _

section Edited

theorem Altered.grown {q : Aspect → Prop} {c c' : Contract} (h : Altered q c c') : Grown q c c' :=
  ReflTransGen.mono (fun _ _ hs => .inl hs) _ _ h

theorem Edits.settings (h : Edits p w v) {a : Address} (hp : ¬ p ref (.settings a)) :
    ClaimSettings.SameFor a (w.settingsOf ref) (v.settingsOf ref) := by
  have hc := h.content ref
  refine World.settingsOf_same (fun m hm => ?_) fun m' hm' => ?_
  · rw [hm] at hc
    obtain ⟨m',hm',hsame⟩ := hc.grown.module
    exact ⟨m', hm', hsame a hp⟩
  · rw [hm'] at hc
    obtain ⟨m,hm,_⟩ := hc.module_back
    exact ⟨m, hm⟩

end Edited

section Structure

theorem Contract.Newborn.settings {c : Contract} (h : c.Newborn) : c.settings = {} := by
  cases h <;> rfl

/-- A change of structure makes no settings: a module that it creates begins without any. -/
theorem StructureChange.settings (h : StructureChange w v) (ref : Ref) :
    v.settingsOf ref = w.settingsOf ref := by
  have hfresh : (w.content w.objects.length).settings = {} := by
    rw [World.content_past (Nat.le_refl _)]
    rfl
  cases h with
  | created hn ha =>
    rw [World.settingsOf, World.content_create_eq]
    split
    · rename_i hr
      rw [hr, World.settingsOf, hfresh, (hn _).settings]
    · rfl
  | laid m =>
    rw [World.settingsOf, World.content_allocate]
    split
    · rename_i hr
      rw [hr, World.settingsOf, hfresh]
      rfl
    · rfl
  | _ => rfl

end Structure

section Effects

theorem Effect.settings (h : Effect p w v) {a : Address} (hp : ¬ p ref (.settings a)) :
    ClaimSettings.SameFor a (w.settingsOf ref) (v.settingsOf ref) := by
  obtain ⟨u,hd,he⟩ := h
  rw [← hd.settings ref]
  exact he.settings hp

/-- A refusal brings the settings of every module back as they were. -/
theorem Undone.settings (h : Undone p w v) (hs : w.Standing) (a : Address) :
    ClaimSettings.SameFor a (w.settingsOf ref) (v.settingsOf ref) := by
  have hsame : v.settingsOf ref = w.settingsOf ref := by
    rw [World.settingsOf, World.settingsOf]
    rcases h.back hs ref with ⟨_,hv⟩ | ⟨hw,hv⟩
    · rw [hv]
      cases w.content ref <;> rfl
    · rw [Contract.settings_of_homeless hw, Contract.settings_of_homeless hv]
  rw [hsame]
  exact .refl a _

/-- Effects that touch no settings, such as those of a deployment. -/
theorem Effects.modules (h : Effects p w v) (hp : ∀ ref a, ¬ p ref (.settings a)) (hf : v.Fresh)
    (hw : w.Placed) (hs : w.Standing) : v.Placed ∧ v.Standing ∧
      ∀ ref a, ClaimSettings.SameFor a (w.settingsOf ref) (v.settingsOf ref) := by
  induction h with
  | refl => exact ⟨hw, hs, fun _ a => .refl a _⟩
  | tail _ he ih =>
    obtain ⟨hu,hsu,hsame⟩ := ih (he.fresh hf)
    have hv := (he.keeps_placed (fun ref a h => absurd h (hp ref a)) hu hf).1
    exact ⟨hv, he.keeps_standing hu hf hsu,
      fun ref a => (hsame ref a).trans (he.settings (hp ref a))⟩

end Effects

end Basketry.Chain
