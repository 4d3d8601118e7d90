import Basketry.Proofs.Snapshots

namespace Basketry.Chain
open Relation

/-- A contract as it is created. -/
inductive Contract.Newborn : Contract → Prop
  | registry (a : Address) : Newborn (.registry ⟨a, {}⟩)
  | controller (a registry : Address) : Newborn (.controller ⟨a, registry, [], []⟩)
  | token (a : Address) (name symbol : String) (decimals : Int) :
      Newborn (.token ⟨a, name, symbol, decimals, 0, {}⟩)
  | claimAdapter (a : Address) (name symbol : String) (decimals : Int) :
      Newborn (.claimAdapter ⟨⟨a, name, symbol, decimals, 0, {}⟩, 0⟩)
  | claimModule (a : Address) (controller : Ref) : Newborn (.claimModule ⟨a, controller, {}, []⟩)
  | setDraft (a : Address) (controller : Ref) : Newborn (.setDraft ⟨a, controller, none⟩)
  | morphoAdapter (m : Morpho.ClaimAdapter) : Newborn (.morphoAdapter m)

/-- One move, of an aspect that `p` allows if it is an edit. -/
inductive Move (p : Ref → Aspect → Prop) (floor : Nat) : World → World → Prop
  | edited {w v : World} (h : Edit p w v) : Move p floor w v
  | made {w : World} {c : Contract} (h : c.Newborn) : Move p floor w (w.allocate c).2
  | drawn (w : World) : Move p floor w { w with drawn := w.drawn + 1 }
  | placed (w : World) (a : Address) (ref : Ref) : Move p floor w (w.register a ref)
  | taken (w : World) : Move p floor w w.snapshot.2
  | restored {w : World} {id : Nat} {s : Snapshot} (hid : floor ≤ id)
      (h : w.snapshots[id]? = some s) :
      Move p floor w ({ w with snapshots := w.snapshots.take id }.restore s)
  | dropped (w : World) {n : Nat} (hn : floor ≤ n) :
      Move p floor w { w with snapshots := w.snapshots.take n }

abbrev Moves (p : Ref → Aspect → Prop) (floor : Nat) : World → World → Prop :=
  ReflTransGen (Move p floor)

variable {p q : Ref → Aspect → Prop} {floor : Nat} {w v : World}

theorem Edits.moves (h : Edits p w v) : Moves p floor w v :=
  ReflTransGen.mono (fun _ _ he => .edited he) _ _ h

theorem Moves.mono (hpq : ∀ ref k, p ref k → q ref k) (h : Moves p floor w v) :
    Moves q floor w v := by
  refine ReflTransGen.mono (fun _ _ hm => ?_) _ _ h
  cases hm with
  | edited he =>
    cases he with
    | mk hp hc => exact .edited (.mk (hpq _ _ hp) hc)
  | made hn => exact .made hn
  | drawn => exact .drawn _
  | placed => exact .placed _ _ _
  | taken => exact .taken _
  | restored hid hs => exact .restored hid hs
  | dropped hn => exact .dropped _ hn

namespace World

theorem snapshots_restore (w : World) (s : Snapshot) : (w.restore s).snapshots = w.snapshots := by
  rw [(w.restore_others s).1]

theorem content_allocate (w : World) (c : Contract) (ref : Ref) :
    (w.allocate c).2.content ref = if ref = w.objects.length then c else w.content ref := by
  unfold allocate content
  simp only [List.getD_eq_getElem?_getD, List.getElem?_append]
  rcases Nat.lt_trichotomy ref w.objects.length with h | h | h
  · simp [h, Nat.ne_of_lt h]
  · simp [h]
  · have hs : ref - w.objects.length ≠ 0 := Nat.sub_ne_zero_of_lt h
    simp [Nat.not_lt.mpr (Nat.le_of_lt h), Nat.ne_of_gt h, hs]

end World

/-- No object is ever lost. -/
theorem Moves.objects (h : Moves p floor w v) : w.objects.length ≤ v.objects.length := by
  induction h with
  | refl => exact Nat.le_refl _
  | tail _ hm ih =>
    refine Nat.le_trans ih ?_
    cases hm with
    | edited he => exact Nat.le_of_eq (Edits.others (.single he)).2.symm
    | made => simp [World.allocate]
    | restored _ _ => simp [(World.restore_others _ _).2]
    | _ => exact Nat.le_refl _

theorem Moves.below (h : Moves p floor w v) (hf : floor ≤ w.snapshots.length) :
    floor ≤ v.snapshots.length ∧ v.snapshots.take floor = w.snapshots.take floor := by
  induction h with
  | refl => exact ⟨hf, rfl⟩
  | @tail u u' _ hm ih =>
    obtain ⟨hl,ht⟩ := ih
    have htake : ∀ n, floor ≤ n → floor ≤ (u.snapshots.take n).length ∧
        (u.snapshots.take n).take floor = w.snapshots.take floor := by
      intro n hn
      rw [List.take_take, Nat.min_eq_left hn, List.length_take]
      exact ⟨Nat.le_min.mpr ⟨hn, hl⟩, ht⟩
    cases hm with
    | edited he =>
      rw [Edits.snapshots (.single he)]
      exact ⟨hl, ht⟩
    | taken =>
      simp only [World.snapshot]
      rw [List.take_append_of_le_length hl, List.length_append]
      exact ⟨Nat.le_add_right_of_le hl, ht⟩
    | restored hid _ =>
      rw [World.snapshots_restore]
      exact htake _ hid
    | dropped hn => exact htake _ hn
    | _ => exact ⟨hl, ht⟩

/-- Every content is good, in the objects and in the snapshots. -/
structure World.Everywhere (good : Contract → Prop) (w : World) : Prop where
  objects : ∀ ref, good (w.content ref)
  contents : ∀ s ∈ w.snapshots, ∀ e ∈ s.contents, good e.2
  strays : ∀ s ∈ w.snapshots, ∀ e ∈ s.strays, good e.2

/-- What holds of contracts from their creation on. -/
structure Lasting (good : Contract → Prop) : Prop where
  chain : good .chain
  newborn : ∀ {c}, c.Newborn → good c
  redirect : ∀ {c} f, good c → good (c.redirect f)
  change : ∀ {k c c'}, Change k c c' → good c → good c'

/-- It is enough that the edits in question keep contents good. -/
theorem World.Everywhere.move {good : Contract → Prop} (hn : ∀ {c}, c.Newborn → good c)
    (hr : ∀ {c} f, good c → good (c.redirect f))
    (he : ∀ {ref k c c'}, p ref k → Change k c c' → good c → good c') (hw : w.Everywhere good)
    (h : Move p floor w v) : v.Everywhere good := by
  obtain ⟨ho,hc,hs⟩ := hw
  cases h with
  | edited h =>
    cases h with
    | @mk ref k c hp hk =>
      refine ⟨fun r => ?_, hc, hs⟩
      rw [World.content_setContent]
      split
      · exact he hp hk (ho ref)
      · exact ho r
  | @made c hc' =>
    refine ⟨fun r => ?_, hc, hs⟩
    rw [World.content_allocate]
    split
    · exact hn hc'
    · exact ho r
  | drawn => exact ⟨ho, hc, hs⟩
  | placed => exact ⟨ho, hc, hs⟩
  | taken =>
    have hof : ∀ refs, ∀ e ∈ w.contentsOf refs, good e.2 := by
      intro refs e he
      rw [(World.mem_contentsOf.mp (show (e.1, e.2) ∈ _ from he)).2]
      exact ho e.1
    refine ⟨ho, fun s hm => ?_, fun s hm => ?_⟩
    · rcases List.mem_append.mp hm with hm | hm
      · exact hc s hm
      · rw [List.mem_singleton.mp hm]
        exact hof _
    · rcases List.mem_append.mp hm with hm | hm
      · exact hs s hm
      · rw [List.mem_singleton.mp hm]
        exact hof _
  | @restored id s _ hid =>
    have hm := List.mem_of_getElem? hid
    have hcases := World.content_restore_cases { w with snapshots := w.snapshots.take id } s
    refine ⟨fun r => ?_, ?_, ?_⟩
    · rcases hcases r with h | ⟨c,hs',h⟩ | ⟨_,e,he',h⟩
      · rw [h]
        exact ho r
      · rw [h]
        exact hr _ (hc s hm _ hs')
      · rw [h]
        exact hs s hm e he'
    · rw [World.snapshots_restore]
      exact fun t ht => hc t (List.mem_of_mem_take ht)
    · rw [World.snapshots_restore]
      exact fun t ht => hs t (List.mem_of_mem_take ht)
  | dropped =>
    refine ⟨ho, fun t ht => ?_, fun t ht => ?_⟩
    · exact hc t (List.mem_of_mem_take ht)
    · exact hs t (List.mem_of_mem_take ht)

theorem Moves.kept {good : Contract → Prop} (hn : ∀ {c}, c.Newborn → good c)
    (hr : ∀ {c} f, good c → good (c.redirect f))
    (he : ∀ {ref k c c'}, p ref k → Change k c c' → good c → good c') (h : Moves p floor w v)
    (hw : w.Everywhere good) : v.Everywhere good := by
  induction h with
  | refl => exact hw
  | tail _ hm ih => exact ih.move hn hr he hm

theorem Moves.everywhere {good : Contract → Prop} (hg : Lasting good) (h : Moves p floor w v)
    (hw : w.Everywhere good) : v.Everywhere good :=
  h.kept hg.newborn hg.redirect (fun _ => hg.change) hw

/-- What became of a content, whatever was brought back on the way: changes of aspects in `q`, and
a new place of the controller. -/
abbrev Grown (q : Aspect → Prop) : Contract → Contract → Prop :=
  ReflTransGen fun c c' => (∃ k, q k ∧ Change k c c') ∨ ∃ f, c' = c.redirect f

/-- The contents at `v`, and those of the snapshots taken since `w`, come from the contents at
`w`. -/
structure Since (p : Ref → Aspect → Prop) (floor : Nat) (w v : World) : Prop where
  contents : ∀ ref < w.objects.length, Grown (p ref) (w.content ref) (v.content ref)
  taken : ∀ s ∈ v.snapshots.drop floor, ∀ e ∈ s.contents, e.1 < w.objects.length →
    Grown (p e.1) (w.content e.1) e.2

theorem Since.taken_take (h : Since p floor w v) (n : Nat) : ∀ s ∈ (v.snapshots.take n).drop floor,
    ∀ e ∈ s.contents, e.1 < w.objects.length → Grown (p e.1) (w.content e.1) e.2 := by
  intro s hs
  rw [List.drop_take] at hs
  exact h.taken s (List.mem_of_mem_take hs)

theorem Since.move {u : World} (h : Since p floor w v) (hl : w.objects.length ≤ v.objects.length)
    (hm : Move p floor v u) : Since p floor w u := by
  cases hm with
  | edited he =>
    cases he with
    | @mk ref k c hp hk =>
      refine ⟨fun r hr => ?_, h.taken⟩
      rw [World.content_setContent]
      split
      · rename_i hr'
        obtain ⟨rfl,_⟩ := hr'
        exact (h.contents r hr).tail (.inl ⟨k,hp,hk⟩)
      · exact h.contents r hr
  | made =>
    refine ⟨fun r hr => ?_, h.taken⟩
    rw [World.content_allocate, if_neg (Nat.ne_of_lt (Nat.lt_of_lt_of_le hr hl))]
    exact h.contents r hr
  | drawn => exact ⟨h.contents, h.taken⟩
  | placed => exact ⟨h.contents, h.taken⟩
  | taken =>
    refine ⟨h.contents, fun s hs e he hr => ?_⟩
    rcases List.mem_append.mp (List.drop_append ▸ hs) with hs | hs
    · exact h.taken s hs e he hr
    · have hs := List.mem_singleton.mp (List.mem_of_mem_drop hs)
      subst hs
      rw [(World.mem_contentsOf.mp (show (e.1, e.2) ∈ _ from he)).2]
      exact h.contents e.1 hr
  | @restored id s hid hs =>
    have hd : s ∈ v.snapshots.drop floor := by
      have hi : (v.snapshots.drop floor)[id - floor]? = some s := by
        rw [List.getElem?_drop, Nat.add_sub_cancel' hid, hs]
      exact List.mem_of_getElem? hi
    have hcases := World.content_restore_cases { v with snapshots := v.snapshots.take id } s
    refine ⟨fun r hr => ?_, ?_⟩
    · rcases hcases r with hc | ⟨c,hc,he⟩ | ⟨hle,_⟩
      · rw [hc]
        exact h.contents r hr
      · rw [he]
        exact (h.taken s hd _ hc hr).tail (.inr ⟨_, rfl⟩)
      · exact absurd (Nat.lt_of_lt_of_le hr hl) (Nat.not_lt.mpr hle)
    · rw [World.snapshots_restore]
      exact h.taken_take id
  | dropped => exact ⟨h.contents, h.taken_take _⟩

theorem Moves.since (h : Moves p floor w v) (hf : w.snapshots.length ≤ floor) :
    Since p floor w v := by
  induction h with
  | refl => exact ⟨fun _ _ => .refl, by simp [List.drop_eq_nil_of_le hf]⟩
  | tail hw hm ih => exact ih.move (Moves.objects hw) hm

end Basketry.Chain
