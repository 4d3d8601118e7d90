import Basketry.Proofs.Placement

namespace Basketry.Chain

variable {p : Ref → Aspect → Prop} {u v w : World} {ref : Ref}

/-- Every contract that has an address stands at it. -/
def World.Standing (w : World) : Prop :=
  ∀ ref a, (w.content ref).address? = some a → w.find a = some ref

instance (w : World) : Decidable w.Standing :=
  decidable_of_iff (∀ ref < w.objects.length, ∀ a ∈ (w.content ref).address?, w.find a = some ref)
    ⟨fun h ref a ha => h ref (World.lt_of_address ha) a ha, fun h ref _ a ha => h ref a ha⟩

theorem Edits.standing (h : Edits p w v) (hw : w.Standing) : v.Standing := by
  intro ref a ha
  rw [World.find, h.registered]
  exact hw ref a (h.address ref ▸ ha)

/-- Before contracts other than the new one, the new one stands at an account that was free. -/
theorem StructureChange.keeps_standing (h : StructureChange w v) (hw : w.Placed) (hf : v.Fresh)
    (hs : w.Standing) : v.Standing := by
  intro ref a ha
  cases h with
  | @created make hn hmake =>
    rw [World.content_create_eq] at ha
    rw [World.find_create]
    split at ha
    · rename_i hr
      have haddress := (hmake (w.accounts w.drawn)).symm.trans ha
      rw [if_pos (Option.some.inj haddress).symm, hr]
    · have hne : a ≠ w.accounts w.drawn := by
        rintro rfl
        exact hf.not_drawn (hw.drawn ref _ ha)
      rw [if_neg hne]
      exact hs ref a ha
  | laid m =>
    rw [World.content_allocate] at ha
    split at ha
    · cases ha
    · exact hs ref a ha
  | placed _ hfree =>
    have hfound := hs ref a ha
    rw [World.find_register, if_neg]
    · exact hfound
    · rintro rfl
      rw [hfree] at hfound
      cases hfound
  | _ => exact hs ref a ha

/-- A refusal brings a contract back as it was, but for the place of its controller. What had no
address has none now, the copies that come with the refusal included. -/
theorem Undone.back (h : Undone p w v) (hs : w.Standing) (ref : Ref) :
    (∃ place, v.content ref = (w.content ref).redirect place) ∨
      ((w.content ref).address? = none ∧ (v.content ref).address? = none) := by
  obtain ⟨u,hu,rfl⟩ := h
  let back : World := { u with snapshots := w.snapshots }
  have hlength : u.objects.length = w.objects.length := hu.others.2
  cases ha : (w.content ref).address? with
  | some a =>
    have hlt : ref < w.objects.length := World.lt_of_address ha
    exact .inl ⟨_, World.content_restore_shot (v := back) (World.mem_values (hs ref a ha))
      (Nat.lt_of_lt_of_eq hlt hlength.symm)⟩
  | none =>
    refine .inr ⟨rfl, ?_⟩
    rcases World.content_back back w ref with h | ⟨_,h⟩ | ⟨_,stray,hstray,h⟩
    · rw [h]
      exact (hu.address ref).trans ha
    · rw [h, World.redirect_address]
      exact ha
    · rw [h]
      cases hc : (w.content stray).address? with
      | none => rfl
      | some a => exact absurd (hs stray a hc) (World.not_found_of_stray hstray a)

theorem Undone.keeps_standing (h : Undone p w v) (hs : w.Standing) : v.Standing := by
  intro ref a ha
  rcases h.back hs ref with ⟨_,hc⟩ | ⟨_,hn⟩
  · rw [hc, World.redirect_address] at ha
    obtain ⟨u,_,rfl⟩ := h
    rw [World.find_restore]
    exact hs ref a ha
  · rw [hn] at ha
    cases ha

theorem Effect.keeps_standing (h : Effect p w v) (hw : w.Placed) (hf : v.Fresh)
    (hs : w.Standing) : v.Standing := by
  obtain ⟨u,hd,he⟩ := h
  have hl := World.Later.edits he
  exact he.standing (hd.keeps_standing hw (hf.before hl.accounts hl.drawn) hs)

theorem Operation.keeps_standing {o : Operation} (hp : o.Proper w) (hn : ∀ id, o ≠ .revert id)
    (hs : Settled (o.run w).1) (hw : w.Placed) (hf : (o.run w).2.Fresh) (hstanding : w.Standing) :
    (o.run w).2.Standing := by
  rcases (o.effect hp hn).settled hs with h | h
  · exact h.keeps_standing hw hf hstanding
  · exact h.keeps_standing hstanding

theorem World.Standing.new (accounts : Nat → Address) : World.Standing { accounts } :=
  fun _ _ h => by cases h

end Basketry.Chain
