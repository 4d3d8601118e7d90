import Mathlib.Logic.Relation
import Basketry.Proofs.Reads
import Basketry.Proofs.SettingsViews

namespace Basketry.Chain
open Relation

/-- What is booked in a token: an amount out of nothing, or one that its sender holds. -/
inductive Token.Entry : Token → Token → Prop
  | minted (t : Token) (receiver : Address) (amount : Int) : Entry t (t.mint receiver amount)
  | moved {t t' : Token} {sender receiver : Address} {amount : Int}
      (hc : t.covers sender amount = .ok ()) (h : t.move sender receiver amount = .ok t') :
      Entry t t'

/-- What a controller takes into its lists or off them. -/
inductive Controller.Entry : Controller → Controller → Prop
  | setAdded {c c' : Controller} {a : Address} (h : c.addSet a = .ok c') : Entry c c'
  | setRemoved {c c' : Controller} {a : Address} (h : c.removeSet a = .ok c') : Entry c c'
  | moduleAdded {c c' : Controller} {a : Address} (h : c.addModule a = .ok c') : Entry c c'

/-- The parts of a contract that change apart from each other. -/
inductive Aspect where
  | ledger
  | rewards
  | integrations
  | listing
  | founding
  | basket
  | states
  | manager
  /-- The claim settings of the set at an address. -/
  | settings (set : Address)
  | events

/-- One change of a content. There is no other way in which a contract changes. -/
inductive Change : Aspect → Contract → Contract → Prop
  | token {t t' : Token} (h : t.Entry t') : Change .ledger (.token t) (.token t')
  | adapterToken {a : ClaimAdapter} {t : Token} (h : a.token.Entry t) :
      Change .ledger (.claimAdapter a) (.claimAdapter { a with token := t })
  | rewards (a : ClaimAdapter) (n : Int) :
      Change .rewards (.claimAdapter a) (.claimAdapter { a with rewards := n })
  | named (r : Registry) (module : Address) (name : String) (adapter : Address) :
      Change .integrations (.registry r) (.registry (r.set module name adapter))
  | unnamed (r : Registry) (module : Address) (name : String) :
      Change .integrations (.registry r) (.registry (r.erase module name))
  | listing {c c' : Controller} (h : c.Entry c') : Change .listing (.controller c) (.controller c')
  | profiled (d : SetDraft) (p : Profile) :
      Change .founding (.setDraft d) (.setDraft { d with profile := some p })
  | filled (a : Address) (c : Ref) (p : Profile) (components : List Address)
      (units : Table Address Int) :
      Change .founding (.setDraft ⟨a, c, some p⟩) (.setToken ⟨a, c, p, components, units, {}⟩)
  | basket (s : SetToken) (components : List Address) (units : Table Address Int) :
      Change .basket (.setToken s) (.setToken { s with components := components, units := units })
  | state (s : SetToken) (module : Address) (state : ModuleState) :
      Change .states (.setToken s) (.setToken (s.setModuleState module state))
  | manager (s : SetToken) (a : Address) :
      Change .manager (.setToken s) (.setToken { s with profile.manager := a })
  | draftManager (d : SetDraft) (a : Address) :
      Change .manager (.setDraft d)
        (.setDraft { d with profile := d.profile.map ({ · with manager := a }) })
  | settings {m : ClaimModule} {set : Address} {c : ClaimSettings}
      (h : ClaimSettings.Revision set m.settings c) :
      Change (.settings set) (.claimModule m) (.claimModule { m with settings := c })
  | event (m : ClaimModule) (e : RewardClaimed) :
      Change .events (.claimModule m) (.claimModule { m with events := m.events ++ [e] })

theorem Token.Entry.address {t t' : Token} (h : t.Entry t') : t'.address = t.address := by
  cases h with
  | minted => rfl
  | moved hc h =>
    unfold Token.move at h
    split at h
    · cases h
    · cases h; rfl

theorem Controller.Entry.places {c c' : Controller} (h : c.Entry c') :
    c'.address = c.address ∧ c'.registry = c.registry := by
  cases h with
  | setAdded h =>
    unfold Controller.addSet at h
    split at h <;> cases h
    exact ⟨rfl, rfl⟩
  | setRemoved h =>
    unfold Controller.removeSet at h
    split at h <;> cases h
    exact ⟨rfl, rfl⟩
  | moduleAdded h =>
    unfold Controller.addModule at h
    split at h <;> cases h
    exact ⟨rfl, rfl⟩

/-- Nothing changes its address, the controller it refers to, or from a set to anything else. -/
theorem Change.kept (h : Change k c c') :
    c'.address? = c.address? ∧ c'.controller? = c.controller? ∧ c'.isSet = c.isSet := by
  cases h with
  | token h => exact ⟨congrArg some h.address, rfl, rfl⟩
  | adapterToken h => exact ⟨congrArg some h.address, rfl, rfl⟩
  | listing h => exact ⟨congrArg some h.places.1, rfl, rfl⟩
  | _ => exact ⟨rfl, rfl, rfl⟩

namespace World

theorem content_setContent (w : World) (ref : Ref) (c : Contract) (r : Ref) :
    (w.setContent ref c).content r =
      if r = ref ∧ ref < w.objects.length then c else w.content r := by
  unfold content setContent
  simp only [List.getD_eq_getElem?_getD, List.getElem?_set]
  by_cases hr : ref = r
  · subst hr
    by_cases hl : ref < w.objects.length
    · simp [hl]
    · simp [hl]
  · simp [hr, Ne.symm hr]

/-- An object that was never made has the content of the chain. -/
theorem content_past {w : World} {ref : Ref} (h : w.objects.length ≤ ref) :
    w.content ref = .chain := by
  simp [content, h]

theorem lt_of_content {w : World} {ref : Ref} (h : w.content ref ≠ .chain) :
    ref < w.objects.length :=
  Nat.lt_of_not_le fun hl => h (content_past hl)

theorem setContent_twice (w : World) (ref : Ref) (c c' : Contract) :
    (w.setContent ref c).setContent ref c' = w.setContent ref c' := by
  simp [setContent]

theorem setContent_same {w : World} {ref : Ref} {c : Contract} (h : w.content ref = c) :
    w.setContent ref c = w := by
  subst h
  have hobjects : w.objects.set ref (w.content ref) = w.objects := by
    apply List.ext_getElem?
    intro i
    rw [List.getElem?_set]
    split
    · rename_i hi
      subst hi
      by_cases hl : ref < w.objects.length
      · simp [hl, content]
      · simp [hl]
    · rfl
  rw [setContent, hobjects]

theorem content_setContent_of_ne {w : World} {ref r : Ref} (h : r ≠ ref) (c : Contract) :
    (w.setContent ref c).content r = w.content r := by
  rw [content_setContent, if_neg fun he => h he.1]

theorem content_setContent_self {w : World} {ref : Ref} {c c' : Contract}
    (h : w.content ref = c) (hc : c ≠ .chain) : (w.setContent ref c').content ref = c' := by
  have hl : ref < w.objects.length := lt_of_content (h ▸ hc)
  rw [content_setContent, if_pos ⟨rfl, hl⟩]

end World

/-- One change at one object, of an aspect that `p` allows there. -/
inductive Edit (p : Ref → Aspect → Prop) : World → World → Prop
  | mk {w : World} {ref : Ref} {k : Aspect} {c : Contract} (hp : p ref k)
      (h : Change k (w.content ref) c) : Edit p w (w.setContent ref c)

abbrev Edits (p : Ref → Aspect → Prop) : World → World → Prop := ReflTransGen (Edit p)

variable {p : Ref → Aspect → Prop} {w w' : World}

/-- Edits reach the objects only, and make none. -/
theorem Edits.others (h : Edits p w w') :
    w' = { w with objects := w'.objects } ∧ w'.objects.length = w.objects.length := by
  induction h with
  | refl => exact ⟨rfl, rfl⟩
  | tail h he ih =>
    cases he with
    | mk hp hc =>
      obtain ⟨hw,hl⟩ := ih
      refine ⟨?_, by simp [World.setContent, hl]⟩
      rw [hw]
      rfl

theorem Edits.registered (h : Edits p w w') : w'.registered = w.registered := by rw [h.others.1]

theorem Edits.snapshots (h : Edits p w w') : w'.snapshots = w.snapshots := by rw [h.others.1]

/-- What became of one content by changes of aspects in `q`. -/
abbrev Altered (q : Aspect → Prop) : Contract → Contract → Prop :=
  ReflTransGen fun c c' => ∃ k, q k ∧ Change k c c'

theorem Edits.content (h : Edits p w w') (ref : Ref) :
    Altered (p ref) (w.content ref) (w'.content ref) := by
  induction h with
  | refl => exact .refl
  | tail h he ih =>
    cases he with
    | @mk r k c hp hc =>
      rw [World.content_setContent]
      split
      · rename_i hr
        obtain ⟨rfl,_⟩ := hr
        exact ih.tail ⟨k,hp,hc⟩
      · exact ih

theorem Altered.kept {q : Aspect → Prop} (h : Altered q c c') :
    c'.address? = c.address? ∧ c'.controller? = c.controller? ∧ c'.isSet = c.isSet := by
  induction h with
  | refl => exact ⟨rfl, rfl, rfl⟩
  | tail h hc ih =>
    obtain ⟨k,_,hc⟩ := hc
    obtain ⟨ha,hr,hs⟩ := hc.kept
    exact ⟨ha.trans ih.1, hr.trans ih.2.1, hs.trans ih.2.2⟩

theorem Edits.address (h : Edits p w w') (ref : Ref) :
    (w'.content ref).address? = (w.content ref).address? := (h.content ref).kept.1

/-- What the action does at `w`, to its end or up to its fault, are edits that `p` allows. -/
def EditsAt (p : Ref → Aspect → Prop) (a : Run α) (w : World) : Prop := Edits p w (a w).2

theorem Reads.edits {a : Run α} (h : Reads a) : EditsAt p a w := by
  unfold EditsAt
  rw [h.world w]

theorem EditsAt.reached {a : Run α} {outcome : Except Fault α} {v : World} (ha : EditsAt p a w)
    (h : a w = (outcome, v)) : Edits p w v := by
  unfold EditsAt at ha
  rwa [h] at ha

theorem EditsAt.bind {a : Run α} {f : α → Run β} (ha : EditsAt p a w)
    (hf : ∀ x v, a w = (.ok x, v) → EditsAt p (f x) v) : EditsAt p (a >>= f) w := by
  unfold EditsAt at ha ⊢
  rw [bind_run]
  cases h : a w with
  | mk outcome v =>
    rw [h] at ha
    cases outcome with
    | error fault => exact ha
    | ok x => exact ha.trans (hf x v h)

/-- What is made of the answer edits nothing. -/
theorem EditsAt.answer {a : Run α} (h : EditsAt p a w) (g : α → β) :
    EditsAt p (a >>= fun x => pure (g x)) w :=
  h.bind fun _ _ _ => (Reads.pure _).edits

/-- What was read can be used of the world that it was read from. -/
theorem EditsAt.read {a : Run α} {f : α → Run β} (ha : Reads a)
    (hf : ∀ x, (a w).1 = .ok x → EditsAt p (f x) w) : EditsAt p (a >>= f) w := by
  refine ha.edits.bind fun x v h => ?_
  obtain ⟨hx,rfl⟩ := ha.ok h
  exact hf x hx

theorem EditsAt.ite {c : Prop} [Decidable c] {a b : Run α} (ha : c → EditsAt p a w)
    (hb : ¬ c → EditsAt p b w) : EditsAt p (if c then a else b) w := by
  split
  · exact ha ‹c›
  · exact hb ‹¬ c›

theorem EditsAt.guard {c : Prop} [Decidable c] {fault : Fault} {f : β → Run α} {b : Run α}
    (hb : ¬ c → EditsAt p b w) : EditsAt p (if c then throw fault >>= f else b) w :=
  .ite (fun _ => (Reads.throw fault).edits) hb

/-- A loop edits as its body does in every world that the loop can reach. -/
theorem EditsAt.forM {xs : List α} {f : α → Run Unit}
    (hf : ∀ x ∈ xs, ∀ v, Edits p w v → EditsAt p (f x) v) : EditsAt p (xs.forM f) w := by
  induction xs generalizing w with
  | nil => exact ReflTransGen.refl
  | cons x xs ih =>
    have hfirst := hf x (by simp) w .refl
    refine hfirst.bind fun _ v hx => ih fun y hy u hu => ?_
    exact hf y (by simp [hy]) u ((hfirst.reached hx).trans hu)

theorem EditsAt.mapM {xs : List α} {f : α → Run β}
    (hf : ∀ x ∈ xs, ∀ v, Edits p w v → EditsAt p (f x) v) : EditsAt p (xs.mapM f) w := by
  induction xs generalizing w with
  | nil => exact ReflTransGen.refl
  | cons x xs ih =>
    have hfirst := hf x (by simp) w .refl
    rw [List.mapM_cons]
    refine hfirst.bind fun _ v hx => EditsAt.answer (ih fun y hy u hu => ?_) _
    exact hf y (by simp [hy]) u ((hfirst.reached hx).trans hu)

theorem setContent_edits {ref : Ref} {k : Aspect} {c : Contract} (hp : p ref k)
    (h : Change k (w.content ref) c) : EditsAt p (setContent ref c) w :=
  ReflTransGen.single (.mk hp h)

end Basketry.Chain
