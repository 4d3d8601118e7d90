import Mathlib.Data.List.Forall2
import Basketry.Proofs.Runs
import Basketry.Proofs.SettingsAlike

namespace Basketry.Chain

/-- Contracts that are the same but for settings that answer alike. -/
abbrev Contract.Alike : Contract → Contract → Prop := Contract.Near ClaimSettings.Alike

/-- Contents that are alike, of the same objects. -/
abbrev ContentsAlike : List (Ref × Contract) → List (Ref × Contract) → Prop :=
  List.Forall₂ fun e e' => e'.1 = e.1 ∧ e.2.Alike e'.2

structure Snapshot.Alike (s t : Snapshot) : Prop where
  registered : t.registered = s.registered
  contents : ContentsAlike s.contents t.contents
  strays : ContentsAlike s.strays t.strays

structure World.Alike (w v : World) : Prop where
  objects : v.objects.length = w.objects.length
  contents : ∀ ref, (w.content ref).Alike (v.content ref)
  registered : v.registered = w.registered
  snapshots : List.Forall₂ Snapshot.Alike w.snapshots v.snapshots
  accounts : v.accounts = w.accounts
  drawn : v.drawn = w.drawn

variable {w v : World} {s t : Snapshot} {c c' : Contract}

theorem Contract.Alike.kept (h : c.Alike c') :
    c'.address? = c.address? ∧ c'.controller? = c.controller? := by
  cases h with
  | same => exact ⟨rfl, rfl⟩
  | settings => exact ⟨rfl, rfl⟩

theorem Contract.Alike.redirect (h : c.Alike c') (f : Ref → Ref) :
    (c.redirect f).Alike (c'.redirect f) := by
  cases h with
  | same => exact .same _
  | settings m h => exact .settings { m with controller := f m.controller } h

theorem ContentsAlike.refs {xs ys : List (Ref × Contract)} (h : ContentsAlike xs ys) :
    ys.map (·.1) = xs.map (·.1) := by
  induction h with
  | nil => rfl
  | cons he _ ih => rw [List.map_cons, List.map_cons, he.1, ih]

theorem ContentsAlike.get {xs ys : List (Ref × Contract)} (h : ContentsAlike xs ys) (i : Nat) :
    ((xs.map Prod.snd).getD i Contract.chain).Alike
      ((ys.map Prod.snd).getD i Contract.chain) := by
  induction h generalizing i with
  | nil => exact .same _
  | cons he _ ih =>
    cases i with
    | zero => exact he.2
    | succ i => exact ih i

theorem ContentsAlike.redirect {xs ys : List (Ref × Contract)} (h : ContentsAlike xs ys)
    (f : Ref → Ref) :
    ContentsAlike (xs.map fun e => (e.1, e.2.redirect f))
      (ys.map fun e => (e.1, e.2.redirect f)) := by
  induction h with
  | nil => exact .nil
  | cons he _ ih => exact .cons ⟨he.1, he.2.redirect f⟩ ih

namespace World.Alike

theorem setContent (h : w.Alike v) (hc : c.Alike c') (ref : Ref) :
    (w.setContent ref c).Alike (v.setContent ref c') := by
  refine ⟨by simp [World.setContent, h.objects], fun r => ?_, h.registered, h.snapshots, h.accounts,
    h.drawn⟩
  rw [content_setContent, content_setContent, h.objects]
  split
  · exact hc
  · exact h.contents r

theorem tracks : Tracks ClaimSettings.Alike World.Alike :=
  ⟨fun _ => .inl rfl, registered, contents, fun h _ _ hc ref => h.setContent hc ref⟩

theorem setContents {xs ys : List (Ref × Contract)} (h : w.Alike v) (hc : ContentsAlike xs ys) :
    (w.setContents xs).Alike (v.setContents ys) := by
  induction hc generalizing w v with
  | nil => exact h
  | @cons e e' xs ys he _ ih =>
    rw [setContents_cons, setContents_cons, he.1]
    exact ih (h.setContent he.2 e.1)

theorem contentsOf (h : w.Alike v) (refs : List Ref) :
    ContentsAlike (w.contentsOf refs) (v.contentsOf refs) := by
  induction refs with
  | nil => exact .nil
  | cons ref refs ih => exact .cons ⟨rfl, h.contents ref⟩ ih

theorem strays (h : w.Alike v) : v.strays = w.strays := by
  have hr : ∀ ref, v.isRegistered ref = w.isRegistered ref := by
    intro ref
    rw [isRegistered, isRegistered, h.registered]
  have hc : ∀ ref, (v.content ref).controller? = (w.content ref).controller? :=
    fun ref => (h.contents ref).kept.2
  unfold World.strays
  simp only [hr, hc, h.registered]

theorem shot (h : w.Alike v) : w.shot.Alike v.shot := by
  refine ⟨h.registered, ?_, ?_⟩
  · rw [World.shot, World.shot, h.registered]
    exact h.contentsOf _
  · rw [World.shot, World.shot, h.strays]
    exact h.contentsOf _

theorem moved (h : w.Alike v) (hs : s.Alike t) : v.moved t = w.moved s := by
  funext ref
  rw [World.moved, World.moved, hs.strays.refs, h.objects]

theorem restore (h : w.Alike v) (hs : s.Alike t) : (w.restore s).Alike (v.restore t) := by
  have hback := h.setContents (hs.contents.redirect (w.moved s))
  obtain ⟨hw, hwl⟩ := w.restore_others s
  obtain ⟨hv, hvl⟩ := v.restore_others t
  refine ⟨?_, fun ref => ?_, ?_, ?_, ?_, ?_⟩
  · rw [hwl, hvl, h.objects, hs.strays.length_eq]
  · rw [content_restore, content_restore, h.objects, h.moved hs]
    split
    · exact hback.contents ref
    · exact hs.strays.get _
  · rw [hw, hv]
    exact hs.registered
  · rw [snapshots_restore, snapshots_restore]
    exact h.snapshots
  · rw [hw, hv]
    exact h.accounts
  · rw [hw, hv]
    exact h.drawn

theorem take (h : w.Alike v) (n : Nat) :
    ({ w with snapshots := w.snapshots.take n } : World).Alike
      { v with snapshots := v.snapshots.take n } :=
  ⟨h.objects, h.contents, h.registered, List.forall₂_take n h.snapshots, h.accounts, h.drawn⟩

theorem snapshot (h : w.Alike v) : w.snapshot.2.Alike v.snapshot.2 :=
  ⟨h.objects, h.contents, h.registered, List.rel_append h.snapshots (.cons h.shot .nil), h.accounts,
    h.drawn⟩

theorem allocate (h : w.Alike v) (c : Contract) : (w.allocate c).2.Alike (v.allocate c).2 := by
  refine ⟨by simp [World.allocate, h.objects], fun ref => ?_, h.registered, h.snapshots, h.accounts,
    h.drawn⟩
  rw [content_allocate, content_allocate, h.objects]
  split
  · exact .same c
  · exact h.contents ref

theorem register (h : w.Alike v) (a : Address) (ref : Ref) :
    (w.register a ref).Alike (v.register a ref) := by
  refine ⟨h.objects, h.contents, ?_, h.snapshots, h.accounts, h.drawn⟩
  rw [World.register, World.register, h.registered]

theorem draw (h : w.Alike v) :
    ({ w with drawn := w.drawn + 1 } : World).Alike { v with drawn := v.drawn + 1 } :=
  ⟨h.objects, h.contents, h.registered, h.snapshots, h.accounts, congrArg (· + 1) h.drawn⟩

end World.Alike

end Basketry.Chain
