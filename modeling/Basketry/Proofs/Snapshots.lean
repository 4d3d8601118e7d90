import Basketry.Proofs.Edits

namespace Basketry.Chain

theorem Contract.redirect_self (c : Contract) (h : ∀ r, c.controller? = some r → f r = r) :
    c.redirect f = c := by
  cases c with
  | setToken s => simp [Contract.redirect, h s.controller rfl]
  | setDraft d => simp [Contract.redirect, h d.controller rfl]
  | claimModule m => simp [Contract.redirect, h m.controller rfl]
  | _ => rfl

namespace World

variable {w v : World} {ref : Ref} {contents : List (Ref × Contract)}

theorem setContents_cons (w : World) (e : Ref × Contract) (contents : List (Ref × Contract)) :
    w.setContents (e :: contents) = (w.setContent e.1 e.2).setContents contents := rfl

theorem setContents_others (w : World) (contents : List (Ref × Contract)) :
    w.setContents contents = { w with objects := (w.setContents contents).objects } ∧
      (w.setContents contents).objects.length = w.objects.length := by
  induction contents generalizing w with
  | nil => exact ⟨rfl, rfl⟩
  | cons e contents ih =>
    obtain ⟨hw,hl⟩ := ih (w.setContent e.1 e.2)
    rw [setContents_cons]
    refine ⟨?_, hl.trans (by simp [setContent])⟩
    rw [hw]
    rfl

/-- An object keeps its content unless one is listed for it. -/
theorem content_setContents (w : World) (contents : List (Ref × Contract)) (ref : Ref) :
    (w.setContents contents).content ref = w.content ref ∨
      (ref,(w.setContents contents).content ref) ∈ contents := by
  induction contents generalizing w with
  | nil => exact .inl rfl
  | cons e contents ih =>
    rw [setContents_cons]
    rcases ih (w.setContent e.1 e.2) with h | h
    · rw [h, content_setContent]
      split
      · rename_i hr
        exact .inr (by simp [hr.1])
      · exact .inl rfl
    · exact .inr (List.mem_cons_of_mem _ h)

theorem listed_setContents (hl : ref < w.objects.length) (h : (ref,c) ∈ contents) :
    (ref,(w.setContents contents).content ref) ∈ contents := by
  induction contents generalizing w with
  | nil => cases h
  | cons e contents ih =>
    have hlen : ref < (w.setContent e.1 e.2).objects.length := by simpa [setContent] using hl
    rw [setContents_cons]
    rcases List.mem_cons.mp h with rfl | h
    · rcases content_setContents (w.setContent ref c) contents ref with hc | hc
      · rw [hc, content_setContent, if_pos ⟨rfl, hl⟩]
        exact List.mem_cons_self
      · exact List.mem_cons_of_mem _ hc
    · exact List.mem_cons_of_mem _ (ih hlen h)

theorem mem_contentsOf {refs : List Ref} :
    (ref,c) ∈ w.contentsOf refs ↔ ref ∈ refs ∧ c = w.content ref := by
  unfold contentsOf
  rw [List.mem_map]
  constructor
  · rintro ⟨r,hr,he⟩
    cases he
    exact ⟨hr, rfl⟩
  · rintro ⟨hr,rfl⟩
    exact ⟨ref, hr, rfl⟩

theorem restore_others (w : World) (s : Snapshot) :
    w.restore s = { w with registered := s.registered, objects := (w.restore s).objects } ∧
      (w.restore s).objects.length = w.objects.length + s.strays.length := by
  obtain ⟨hw,hl⟩ := w.setContents_others (s.contents.map fun e => (e.1, e.2.redirect (w.moved s)))
  refine ⟨?_, by simp [restore, hl]⟩
  unfold restore
  rw [hw]

/-- The objects that were there keep their places, and the copies of the strays follow them. -/
theorem content_restore (w : World) (s : Snapshot) (ref : Ref) :
    (w.restore s).content ref =
      if ref < w.objects.length then
        (w.setContents (s.contents.map fun e => (e.1, e.2.redirect (w.moved s)))).content ref
      else (s.strays.map (·.2)).getD (ref - w.objects.length) .chain := by
  have hl := (w.setContents_others (s.contents.map fun e => (e.1, e.2.redirect (w.moved s)))).2
  unfold restore content
  simp only [List.getD_eq_getElem?_getD, List.getElem?_append, hl]
  split <;> rfl

/-- An object has the content of the snapshot after it, its own from before it, or that of a
stray. -/
theorem content_restore_cases (w : World) (s : Snapshot) (ref : Ref) :
    (w.restore s).content ref = w.content ref ∨
      (∃ c, (ref,c) ∈ s.contents ∧ (w.restore s).content ref = c.redirect (w.moved s)) ∨
      (w.objects.length ≤ ref ∧ ∃ e ∈ s.strays, (w.restore s).content ref = e.2) := by
  have hback := content_setContents w (s.contents.map fun e => (e.1, e.2.redirect (w.moved s))) ref
  rw [content_restore]
  split
  · rcases hback with h | h
    · exact .inl h
    · obtain ⟨e,he,hc⟩ := List.mem_map.mp h
      obtain ⟨h1,h2⟩ := Prod.mk.inj hc
      exact .inr (.inl ⟨e.2, h1 ▸ he, h2.symm⟩)
  · rename_i hl
    rw [List.getD_eq_getElem?_getD]
    cases hs : (s.strays.map (·.2))[ref - w.objects.length]? with
    | none =>
      left
      simp [content, List.getElem?_eq_none (Nat.le_of_not_lt hl)]
    | some c =>
      obtain ⟨e,he,rfl⟩ := List.mem_map.mp (List.mem_of_getElem? hs)
      exact .inr (.inr ⟨Nat.le_of_not_lt hl, e, he, rfl⟩)

/-- The state of a registered object is brought back, whatever was done to it. -/
theorem content_restore_shot (hm : ref ∈ w.registered.values) (hl : ref < v.objects.length) :
    (v.restore w.shot).content ref = (w.content ref).redirect (v.moved w.shot) := by
  have hs : (ref,(w.content ref).redirect (v.moved w.shot)) ∈
      w.shot.contents.map fun e => (e.1, e.2.redirect (v.moved w.shot)) :=
    List.mem_map.mpr ⟨(ref, w.content ref), mem_contentsOf.mpr ⟨hm, rfl⟩, rfl⟩
  obtain ⟨e,he,hc⟩ := List.mem_map.mp (listed_setContents hl hs)
  obtain ⟨h1,h2⟩ := Prod.mk.inj hc
  rw [content_restore, if_pos hl, ← h2, ← h1, (mem_contentsOf.mp (show (e.1, e.2) ∈ _ from he)).2]

/-- Only the strays move. -/
theorem moved_of_not_mem {s : Snapshot} (h : ref ∉ s.strays.map (·.1)) : w.moved s ref = ref := by
  have hn : (s.strays.map (·.1)).idxOf? ref = none := List.idxOf?_eq_none_iff.mpr h
  unfold moved
  rw [hn]
  rfl

/-- Where a stray moves to, its content is found again. -/
theorem content_moved (hs : ref ∈ w.strays) :
    (v.restore w.shot).content (v.moved w.shot ref) = w.content ref := by
  have hrefs : w.shot.strays.map (·.1) = w.strays := by simp [shot, contentsOf, Function.comp_def]
  obtain ⟨i,hi⟩ := Option.isSome_iff_exists.mp (List.isSome_idxOf?.mpr hs)
  obtain ⟨hlt,he,_⟩ := List.idxOf?_eq_some_iff.mp hi
  have hget : (w.shot.strays.map (·.2))[i]? = some (w.content ref) := by
    simp [shot, contentsOf, List.getElem?_eq_getElem hlt, he]
  have hm : v.moved w.shot ref = v.objects.length + i := by simp [moved, hrefs, hi]
  have hn : ¬ v.objects.length + i < v.objects.length := by omega
  rw [hm, content_restore, if_neg hn, Nat.add_sub_cancel_left, List.getD_eq_getElem?_getD, hget]
  rfl

/-- Where every controller in use stands at an address, nothing moves. -/
theorem strays_eq_nil (h : ∀ ref ∈ w.registered.values, ∀ c, (w.content ref).controller? = some c →
    w.isRegistered c = true) : w.strays = [] := by
  unfold strays
  rw [List.filter_eq_nil_iff]
  intro c hc
  obtain ⟨ref,hr,hcontroller⟩ := List.mem_filterMap.mp (List.mem_eraseDups.mp hc)
  simp [h ref hr c hcontroller]

end World

end Basketry.Chain
