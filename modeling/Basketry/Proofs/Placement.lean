import Basketry.Proofs.Authority
import Basketry.Proofs.Effects

namespace Basketry.Chain

variable {p : Ref → Aspect → Prop} {u v w : World} {ref : Ref} {a : Address}

/-- No pool is listed for the set, and only its manager may claim. -/
def ClaimSettings.Idle (c : ClaimSettings) (set : Address) : Prop :=
  c.poolList set = [] ∧ c.anyoneMayClaim set = false

/-- An account that creation has drawn. -/
def World.Drawn (w : World) (a : Address) : Prop := ∃ i < w.drawn, w.accounts i = a

/-- Creation has drawn no account twice. Each comes from a new random key. -/
def World.Fresh (w : World) : Prop :=
  ∀ i < w.drawn, ∀ j < w.drawn, w.accounts i = w.accounts j → i = j

instance (w : World) : Decidable w.Fresh :=
  inferInstanceAs (Decidable (∀ i < w.drawn, ∀ j < w.drawn, w.accounts i = w.accounts j → i = j))

/-- Whatever stands at an address stands there under it and alone, addresses are drawn accounts, and
no module keeps anything for any other address. -/
structure World.Placed (w : World) : Prop where
  made : ∀ a ref, w.find a = some ref → ref < w.objects.length
  own : ∀ a ref b, w.find a = some ref → (w.content ref).address? = some b → b = a
  drawn : ∀ ref a, (w.content ref).address? = some a → w.Drawn a
  unique : ∀ a ref ref', w.find a = some ref → (w.content ref).address? = some a →
    (w.content ref').address? = some a → ref' = ref
  known : ∀ ref m a, w.content ref = .claimModule m → w.Drawn a ∨ m.settings.Idle a

/-- `v` comes after `w`: nothing is lost and nothing that has an address leaves it. -/
structure World.Later (w v : World) : Prop where
  accounts : v.accounts = w.accounts
  drawn : w.drawn ≤ v.drawn
  objects : w.objects.length ≤ v.objects.length
  address : ∀ ref < w.objects.length, (v.content ref).address? = (w.content ref).address?
  found : ∀ a ref, w.find a = some ref → (w.content ref).address? = some a → v.find a = some ref

theorem ClaimSettings.Idle.same {c c' : ClaimSettings} (h : c.Idle a) (hs : SameFor a c c') :
    c'.Idle a :=
  ⟨hs.pools.trans h.1, hs.anyone.trans h.2⟩

namespace World

theorem lt_of_address (h : (w.content ref).address? = some a) : ref < w.objects.length := by
  apply lt_of_content
  intro hc
  rw [hc] at h
  cases h

theorem Later.refl (w : World) : w.Later w :=
  ⟨rfl, Nat.le_refl _, Nat.le_refl _, fun _ _ => rfl, fun _ _ h _ => h⟩

theorem Later.trans (h : w.Later v) (h' : v.Later u) : w.Later u := by
  refine ⟨h'.accounts.trans h.accounts, Nat.le_trans h.drawn h'.drawn,
    Nat.le_trans h.objects h'.objects, fun ref hr => ?_, fun a ref hf ha => ?_⟩
  · rw [h'.address ref (Nat.lt_of_lt_of_le hr h.objects), h.address ref hr]
  · have hr := lt_of_address ha
    exact h'.found a ref (h.found a ref hf ha) ((h.address ref hr).trans ha)

theorem Later.snapshots (h : w.Later v) (snapshots : List Snapshot) :
    w.Later { v with snapshots := snapshots } :=
  ⟨h.accounts, h.drawn, h.objects, h.address, h.found⟩

theorem Placed.snapshots (h : w.Placed) (snapshots : List Snapshot) :
    ({ w with snapshots := snapshots } : World).Placed :=
  ⟨h.made, h.own, h.drawn, h.unique, h.known⟩

theorem Drawn.later (h : w.Drawn a) (hl : w.Later v) : v.Drawn a := by
  obtain ⟨i,hi,ha⟩ := h
  exact ⟨i, Nat.lt_of_lt_of_le hi hl.drawn, by rw [hl.accounts, ha]⟩

/-- What was drawn fresh in the end was drawn fresh before. -/
theorem Fresh.before (h : v.Fresh) (ha : v.accounts = w.accounts) (hd : w.drawn ≤ v.drawn) :
    w.Fresh := by
  intro i hi j hj he
  refine h i (Nat.lt_of_lt_of_le hi hd) j (Nat.lt_of_lt_of_le hj hd) ?_
  rw [ha, he]

theorem find_register (w : World) (a b : Address) (ref : Ref) :
    (w.register a ref).find b = if b = a then some ref else w.find b :=
  Table.get?_put _ _ _ _

end World

section Edited

/-- A module was one before its changes, and its settings are the same for a set that they may not
touch. -/
theorem Altered.module_back {q : Aspect → Prop} {m' : ClaimModule}
    (h : Altered q c (.claimModule m')) :
    ∃ m, c = .claimModule m ∧ m'.address = m.address ∧
      ∀ a, ¬ q (.settings a) → ClaimSettings.SameFor a m.settings m'.settings := by
  generalize hc' : Contract.claimModule m' = c' at h
  induction h generalizing m' with
  | refl => exact ⟨m', hc'.symm, rfl, fun a _ => .refl a _⟩
  | tail _ hs ih =>
    obtain ⟨k,hq,hs⟩ := hs
    subst hc'
    cases hs with
    | @settings m set d hr =>
      obtain ⟨m₀,rfl,ha,hsame⟩ := ih rfl
      refine ⟨m₀, rfl, ha, fun a hn => (hsame a hn).trans (hr.others ?_)⟩
      rintro rfl
      exact hn hq
    | event m e =>
      obtain ⟨m₀,rfl,ha,hsame⟩ := ih rfl
      exact ⟨m₀, rfl, ha, hsame⟩

/-- A set was one before its changes, or it was founded by them. -/
theorem Altered.set_back {q : Aspect → Prop} {s' : SetToken} (h : Altered q c (.setToken s')) :
    (∃ s, c = .setToken s ∧ s'.address = s.address ∧
      (¬ q .states → s'.moduleStates = s.moduleStates)) ∨ q .founding := by
  generalize hc' : Contract.setToken s' = c' at h
  induction h generalizing s' with
  | refl => exact .inl ⟨s', hc'.symm, rfl, fun _ => rfl⟩
  | tail _ hs ih =>
    obtain ⟨k,hq,hs⟩ := hs
    subst hc'
    cases hs with
    | filled => exact .inr hq
    | basket s components units =>
      rcases ih rfl with ⟨s₀,rfl,ha,hk⟩ | hf
      · exact .inl ⟨s₀, rfl, ha, hk⟩
      · exact .inr hf
    | manager s a =>
      rcases ih rfl with ⟨s₀,rfl,ha,hk⟩ | hf
      · exact .inl ⟨s₀, rfl, ha, hk⟩
      · exact .inr hf
    | state s b state =>
      rcases ih rfl with ⟨s₀,rfl,ha,_⟩ | hf
      · exact .inl ⟨s₀, rfl, ha, fun hn => absurd hq hn⟩
      · exact .inr hf

namespace World

theorem Later.edits (h : Edits p w v) : w.Later v := by
  refine ⟨by rw [h.others.1], Nat.le_of_eq (by rw [h.others.1]), Nat.le_of_eq h.others.2.symm,
    fun ref _ => h.address ref, fun a ref hf _ => ?_⟩
  rw [find, h.registered]
  exact hf

theorem Placed.edits (h : w.Placed) (he : Edits p w v)
    (hp : ∀ ref a, p ref (.settings a) → w.Drawn a) : v.Placed := by
  have hl := Later.edits he
  have hfind : ∀ a, v.find a = w.find a := by
    intro a
    rw [find, he.registered]
    rfl
  refine ⟨fun a ref hf => ?_, fun a ref b hf ha => ?_, fun ref a ha => ?_,
    fun a ref ref' hf ha ha' => ?_, fun ref m a hm => ?_⟩
  · rw [he.others.2]
    exact h.made a ref (hfind a ▸ hf)
  · rw [he.address] at ha
    exact h.own a ref b (hfind a ▸ hf) ha
  · rw [he.address] at ha
    exact (h.drawn ref a ha).later hl
  · rw [he.address] at ha ha'
    exact h.unique a ref ref' (hfind a ▸ hf) ha ha'
  · have hc := he.content ref
    rw [hm] at hc
    obtain ⟨m₀,hm₀,_,hsame⟩ := hc.module_back
    by_cases ht : p ref (.settings a)
    · exact .inl ((hp ref a ht).later hl)
    · exact (h.known ref m₀ a hm₀).imp (·.later hl) fun hi => hi.same (hsame a ht)

end World

end Edited

namespace World

section Creation
variable {make : Address → Contract}

theorem content_create_eq (w : World) (make : Address → Contract) (ref : Ref) :
    (w.create make).2.content ref =
      if ref = w.objects.length then make (w.accounts w.drawn) else w.content ref :=
  content_allocate w _ ref

theorem find_create (w : World) (make : Address → Contract) (b : Address) :
    (w.create make).2.find b =
      if b = w.accounts w.drawn then some w.objects.length else w.find b :=
  find_register _ _ _ _

/-- The account that is drawn next was not drawn before. -/
theorem Fresh.not_drawn (h : (w.create make).2.Fresh) : ¬ w.Drawn (w.accounts w.drawn) := by
  rintro ⟨i,hi,he⟩
  have hlt : i < (w.create make).2.drawn := Nat.lt_succ_of_lt hi
  have heq := h i hlt w.drawn (Nat.lt_succ_self _) he
  omega

theorem Later.create (h : w.Placed) (hf : (w.create make).2.Fresh) :
    w.Later (w.create make).2 := by
  refine ⟨rfl, Nat.le_succ _, by simp [World.create, World.allocate, World.register],
    fun ref hr => ?_, fun a ref hw ha => ?_⟩
  · rw [content_create_eq, if_neg (Nat.ne_of_lt hr)]
  · rw [find_create, if_neg, hw]
    rintro rfl
    exact hf.not_drawn (h.drawn ref _ ha)

theorem Placed.create (h : w.Placed) (hf : (w.create make).2.Fresh) (hn : ∀ a, (make a).Newborn)
    (ha : ∀ a, (make a).address? = some a) : (w.create make).2.Placed := by
  have hl := Later.create h hf
  have hobjects : (w.create make).2.objects.length = w.objects.length + 1 := by
    simp [World.create, World.allocate, World.register]
  have hnew : (w.create make).2.Drawn (w.accounts w.drawn) := ⟨w.drawn, Nat.lt_succ_self _, rfl⟩
  refine ⟨fun a ref hr => ?_, fun a ref b hr hb => ?_, fun ref a hr => ?_,
    fun a ref ref' hr hb hb' => ?_, fun ref m a hm => ?_⟩
  · rw [find_create] at hr
    rw [hobjects]
    split at hr
    · cases hr
      exact Nat.lt_succ_self _
    · exact Nat.lt_succ_of_lt (h.made a ref hr)
  · rw [find_create] at hr
    rw [content_create_eq] at hb
    split at hr
    · rename_i he
      cases hr
      rw [if_pos rfl, ha] at hb
      cases hb
      exact he.symm
    · rw [if_neg (Nat.ne_of_lt (h.made a ref hr))] at hb
      exact h.own a ref b hr hb
  · rw [content_create_eq] at hr
    split at hr
    · rw [ha] at hr
      cases hr
      exact hnew
    · exact (h.drawn ref a hr).later hl
  · rw [find_create] at hr
    rw [content_create_eq] at hb hb'
    by_cases he : a = w.accounts w.drawn
    · rw [if_pos he] at hr
      cases hr
      by_contra hne
      rw [if_neg hne, he] at hb'
      exact hf.not_drawn (h.drawn ref' _ hb')
    · rw [if_neg he] at hr
      rw [if_neg (Nat.ne_of_lt (h.made a ref hr))] at hb
      split at hb'
      · rw [ha] at hb'
        cases hb'
        exact absurd rfl he
      · exact h.unique a ref ref' hr hb hb'
  · rw [content_create_eq] at hm
    split at hm
    · have hnewborn := hn (w.accounts w.drawn)
      rw [hm] at hnewborn
      cases hnewborn
      exact .inr ⟨rfl, rfl⟩
    · exact (h.known ref m a hm).imp_left (·.later hl)

end Creation

section Others
variable {m : Morpho.ClaimAdapter}

theorem Later.spent (w : World) : w.Later { w with drawn := w.drawn + 1 } :=
  ⟨rfl, Nat.le_succ _, Nat.le_refl _, fun _ _ => rfl, fun _ _ h _ => h⟩

/-- An account is drawn at which nothing comes to stand. -/
theorem Placed.spent (h : w.Placed) : ({ w with drawn := w.drawn + 1 } : World).Placed :=
  ⟨h.made, h.own, fun ref a ha => (h.drawn ref a ha).later (.spent w), h.unique,
    fun ref m a hm => (h.known ref m a hm).imp_left (·.later (.spent w))⟩

theorem Later.laid (w : World) (m : Morpho.ClaimAdapter) :
    w.Later (w.allocate (.morphoAdapter m)).2 := by
  refine ⟨rfl, Nat.le_refl _, by simp [World.allocate], fun ref hr => ?_, fun _ _ h _ => h⟩
  rw [content_allocate, if_neg (Nat.ne_of_lt hr)]

theorem Placed.laid (h : w.Placed) (m : Morpho.ClaimAdapter) :
    (w.allocate (.morphoAdapter m)).2.Placed := by
  have hold : ∀ ref b, ((w.allocate (.morphoAdapter m)).2.content ref).address? = some b →
      (w.content ref).address? = some b := by
    intro ref b hb
    rw [content_allocate] at hb
    split at hb
    · cases hb
    · exact hb
  refine ⟨fun a ref hr => ?_, fun a ref b hr hb => h.own a ref b hr (hold ref b hb),
    fun ref a ha => h.drawn ref a (hold ref a ha),
    fun a ref ref' hr hb hb' => h.unique a ref ref' hr (hold ref a hb) (hold ref' a hb'),
    fun ref m' a hm => ?_⟩
  · simp only [World.allocate, List.length_append]
    exact Nat.lt_succ_of_lt (h.made a ref hr)
  · rw [content_allocate] at hm
    split at hm
    · cases hm
    · exact h.known ref m' a hm

theorem Later.placed (ha : w.find a = none) (ref : Ref) : w.Later (w.register a ref) := by
  refine ⟨rfl, Nat.le_refl _, Nat.le_refl _, fun _ _ => rfl, fun b r hb _ => ?_⟩
  rw [find_register, if_neg, hb]
  rintro rfl
  rw [ha] at hb
  cases hb

theorem Placed.placed (h : w.Placed) (hm : w.content ref = .morphoAdapter m) (a : Address) :
    (w.register a ref).Placed := by
  have hnone : (w.content ref).address? = none := by
    rw [hm]
    rfl
  have hold : ∀ b r, (w.register a ref).find b = some r → r = ref ∨ w.find b = some r := by
    intro b r hb
    rw [find_register] at hb
    split at hb
    · exact .inl (Option.some.inj hb).symm
    · exact .inr hb
  refine ⟨fun b r hb => ?_, fun b r c hb hc => ?_, h.drawn, fun b r r' hb hc hc' => ?_, h.known⟩
  · rcases hold b r hb with rfl | hb
    · have hlt : r < w.objects.length := lt_of_content (by simp [hm])
      exact hlt
    · exact h.made b r hb
  · rcases hold b r hb with rfl | hb
    · exact absurd (hnone.symm.trans hc) (by simp)
    · exact h.own b r c hb hc
  · rcases hold b r hb with rfl | hb
    · exact absurd (hnone.symm.trans hc) (by simp)
    · exact h.unique b r r' hb hc hc'

end Others

section Restored

theorem redirect_address (c : Contract) (f : Ref → Ref) : (c.redirect f).address? = c.address? := by
  cases c <;> rfl

theorem find_restore (v w : World) (a : Address) : (v.restore w.shot).find a = w.find a := by
  rw [find, (v.restore_others w.shot).1]
  rfl

theorem mem_values (h : w.find a = some ref) : ref ∈ w.registered.values :=
  Table.mem_values_of_get? h

/-- An object that is in the chain after a past world was brought back has its content from then or
from before, or it is the copy of a stray from then. -/
theorem content_back (v w : World) (ref : Ref) :
    (v.restore w.shot).content ref = v.content ref ∨
      (ref ∈ w.registered.values ∧
        (v.restore w.shot).content ref = (w.content ref).redirect (v.moved w.shot)) ∨
      (v.objects.length ≤ ref ∧ ∃ stray ∈ w.strays,
        (v.restore w.shot).content ref = w.content stray) := by
  rcases content_restore_cases v w.shot ref with h | ⟨c,hc,h⟩ | ⟨hl,e,he,h⟩
  · exact .inl h
  · obtain ⟨hm,rfl⟩ := mem_contentsOf.mp hc
    exact .inr (.inl ⟨hm, h⟩)
  · obtain ⟨hm,hc⟩ := mem_contentsOf.mp (show (e.1, e.2) ∈ w.contentsOf w.strays from he)
    exact .inr (.inr ⟨hl, e.1, hm, h.trans hc⟩)

/-- A stray stands nowhere. -/
theorem not_found_of_stray {stray : Ref} (h : stray ∈ w.strays) (a : Address) :
    w.find a ≠ some stray := by
  intro hf
  unfold strays at h
  have hn := (List.mem_filter.mp h).2
  simp [isRegistered, mem_values hf] at hn

theorem Later.restored (hl : w.Later v) : w.Later (v.restore w.shot) := by
  obtain ⟨hothers,hlength⟩ := v.restore_others w.shot
  refine ⟨by rw [hothers]; exact hl.accounts, by rw [hothers]; exact hl.drawn, ?_,
    fun ref hr => ?_, fun a ref hf _ => (find_restore v w a).trans hf⟩
  · rw [hlength]
    exact Nat.le_trans hl.objects (Nat.le_add_right _ _)
  · rcases content_back v w ref with h | ⟨_,h⟩ | ⟨hn,_⟩
    · rw [h, hl.address ref hr]
    · rw [h, redirect_address]
    · exact absurd (Nat.lt_of_lt_of_le hr hl.objects) (Nat.not_lt.mpr hn)

theorem Placed.restored (hw : w.Placed) (hv : v.Placed) (hl : w.Later v) :
    (v.restore w.shot).Placed := by
  have hback := Later.restored hl
  have hdrawn : ∀ a, v.Drawn a → (v.restore w.shot).Drawn a := by
    intro a ha
    rw [(v.restore_others w.shot).1]
    exact ha
  have hfound : ∀ a ref, (v.restore w.shot).find a = some ref → w.find a = some ref :=
    fun a ref h => (find_restore v w a).symm.trans h
  refine ⟨fun a ref hf => ?_, fun a ref b hf hb => ?_, fun ref a ha => ?_,
    fun a ref ref' hf ha ha' => ?_, fun ref m a hm => ?_⟩
  · exact Nat.lt_of_lt_of_le (hw.made a ref (hfound a ref hf)) hback.objects
  · rw [hback.address ref (hw.made a ref (hfound a ref hf))] at hb
    exact hw.own a ref b (hfound a ref hf) hb
  · rcases content_back v w ref with h | ⟨_,h⟩ | ⟨_,stray,_,h⟩
    · exact hdrawn a (hv.drawn ref a (by rwa [h] at ha))
    · exact (hw.drawn ref a (by rwa [h, redirect_address] at ha)).later hback
    · exact (hw.drawn stray a (by rwa [h] at ha)).later hback
  · have hf := hfound a ref hf
    rw [hback.address ref (hw.made a ref hf)] at ha
    rcases content_back v w ref' with h | ⟨_,h⟩ | ⟨_,stray,hs,h⟩
    · refine hv.unique a ref ref' (hl.found a ref hf ha) ?_ (by rwa [h] at ha')
      rw [hl.address ref (hw.made a ref hf), ha]
    · exact hw.unique a ref ref' hf ha (by rwa [h, redirect_address] at ha')
    · have he := hw.unique a ref stray hf ha (by rwa [h] at ha')
      subst he
      exact absurd hf (not_found_of_stray hs a)
  · rcases content_back v w ref with h | ⟨_,h⟩ | ⟨_,stray,_,h⟩
    · exact (hv.known ref m a (h.symm.trans hm)).imp_left (hdrawn a)
    · rw [h] at hm
      cases hc : w.content ref with
      | claimModule m₀ =>
        rw [hc] at hm
        cases hm
        exact (hw.known ref m₀ a hc).imp_left (·.later hback)
      | _ =>
        rw [hc] at hm
        cases hm
    · exact (hw.known stray m a (h.symm.trans hm)).imp_left (·.later hback)

end Restored

end World

section Operations

/-- The settings that an operation may touch are those of a set, whose address is drawn. -/
theorem Operation.touches_drawn {o : Operation} (hw : w.Placed)
    (h : o.touches w ref (.settings a)) : w.Drawn a := by
  cases settings_touched h with
  | manager _ _ ha => exact hw.drawn _ a (setAddress_ok ha).2
  | forget _ ha => exact hw.drawn _ a (setAddress_ok ha).2
  | remove _ ha => exact hw.drawn _ a (setAddress_ok ha).2

theorem StructureChange.keeps_placed (h : StructureChange w v) (hw : w.Placed) (hf : v.Fresh) :
    v.Placed ∧ w.Later v := by
  cases h with
  | nothing => exact ⟨hw, .refl v⟩
  | spent => exact ⟨hw.spent, .spent w⟩
  | created hn ha => exact ⟨.create hw hf hn ha, .create hw hf⟩
  | laid m => exact ⟨hw.laid m, .laid w m⟩
  | placed hm ha => exact ⟨hw.placed hm _, .placed ha _⟩
  | taken => exact ⟨hw.snapshots _, (World.Later.refl w).snapshots _⟩
  | dropped n => exact ⟨hw.snapshots _, (World.Later.refl w).snapshots _⟩

theorem StructureChange.drawn (h : StructureChange w v) :
    v.accounts = w.accounts ∧ w.drawn ≤ v.drawn := by
  cases h with
  | created | spent => exact ⟨rfl, Nat.le_succ _⟩
  | _ => exact ⟨rfl, Nat.le_refl _⟩

theorem Effect.fresh (h : Effect p w v) (hf : v.Fresh) : w.Fresh := by
  obtain ⟨u,hd,he⟩ := h
  have hl := World.Later.edits he
  exact (hf.before hl.accounts hl.drawn).before hd.drawn.1 hd.drawn.2

theorem Effect.keeps_placed (h : Effect p w v) (hp : ∀ ref a, p ref (.settings a) → w.Drawn a)
    (hw : w.Placed) (hf : v.Fresh) : v.Placed ∧ w.Later v := by
  obtain ⟨u,hd,he⟩ := h
  have hl := World.Later.edits he
  obtain ⟨hu,hwu⟩ := hd.keeps_placed hw (hf.before hl.accounts hl.drawn)
  exact ⟨hu.edits he fun ref a h => (hp ref a h).later hwu, hwu.trans hl⟩

theorem Undone.keeps_placed (h : Undone p w v) (hp : ∀ ref a, p ref (.settings a) → w.Drawn a)
    (hw : w.Placed) : v.Placed ∧ w.Later v := by
  obtain ⟨u,hu,rfl⟩ := h
  have hback := hu.elsewhere w.snapshots
  have hl : w.Later { u with snapshots := w.snapshots } := .edits hback
  exact ⟨.restored hw (hw.edits hback hp) hl, hl.restored⟩

theorem Operation.keeps_placed {o : Operation} (hp : o.Proper w) (hn : ∀ id, o ≠ .revert id)
    (hs : Settled (o.run w).1) (hw : w.Placed) (hf : (o.run w).2.Fresh) :
    (o.run w).2.Placed ∧ w.Later (o.run w).2 := by
  have ht : ∀ ref a, o.touches w ref (.settings a) → w.Drawn a := fun _ _ h => touches_drawn hw h
  rcases (o.effect hp hn).settled hs with h | h
  · exact h.keeps_placed ht hw hf
  · exact h.keeps_placed ht hw

end Operations

section Deployed

/-- Creation only ever draws on. -/
theorem Moves.drawn {floor : Nat} (h : Moves p floor w v) :
    v.accounts = w.accounts ∧ w.drawn ≤ v.drawn := by
  induction h with
  | refl => exact ⟨rfl, Nat.le_refl _⟩
  | tail _ hm ih =>
    obtain ⟨ha,hd⟩ := ih
    cases hm with
    | edited he =>
      have hl := World.Later.edits (.single he)
      exact ⟨hl.accounts.trans ha, Nat.le_trans hd hl.drawn⟩
    | drawn => exact ⟨ha, Nat.le_succ_of_le hd⟩
    | restored _ _ =>
      rw [(World.restore_others _ _).1]
      exact ⟨ha, hd⟩
    | _ => exact ⟨ha, hd⟩

theorem World.Placed.new (accounts : Nat → Address) : World.Placed { accounts } := by
  constructor <;> intros <;> contradiction

end Deployed

end Basketry.Chain
