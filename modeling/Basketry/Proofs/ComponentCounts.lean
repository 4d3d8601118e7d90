import Basketry.Proofs.ComponentListing
import Basketry.Proofs.LifeCycles

namespace Basketry.Chain
open Relation

variable {p : Ref → Aspect → Prop} {w v : World} {set ref : Ref} {given : List Address}
  {s s' : SetToken} {c : Address} {caller component : Value} {o : Operation} {order : SetOrder}

namespace SetToken

/-- A component is listed as often as it was given at most, or once. -/
def ListsFrom (given : List Address) (s : SetToken) : Prop :=
  ∀ a, s.components.count a ≤ max 1 (given.count a)

theorem ListsFrom.nodup (h : s.ListsFrom given) (hgiven : given.Nodup) : s.components.Nodup := by
  rw [List.nodup_iff_count_le_one] at hgiven ⊢
  intro a
  have hlisted := h a
  have honce := hgiven a
  omega

theorem ListsFrom.added (h : s.ListsFrom given) (hs' : s.addComponent c = .ok s') :
    s'.ListsFrom given := by
  unfold addComponent at hs'
  split at hs'
  · cases hs'
  · rename_i hc
    cases hs'
    intro a
    have hnone : s.components.count c = 0 := by
      rw [List.count_eq_zero]
      simpa [isComponent] using hc
    have ha := h a
    rw [List.count_append, List.count_singleton]
    split
    · rename_i heq
      obtain rfl : c = a := by simpa using heq
      omega
    · exact ha

theorem ListsFrom.removed (h : s.ListsFrom given) (hs' : s.removeComponent c = .ok s') :
    s'.ListsFrom given := by
  unfold removeComponent at hs'
  split at hs'
  · cases hs'
    exact fun a => Nat.le_trans (List.erase_sublist.count_le a) (h a)
  · cases hs'

theorem not_mem_erase (h : s.components.count c ≤ 1) : c ∉ s.components.erase c := by
  rw [← List.count_eq_zero, List.count_erase_self]
  omega

/-- What was listed once is not listed any more when it is dropped. -/
theorem removeComponent_ok (h : s.components.count c ≤ 1) (hs' : s.removeComponent c = .ok s') :
    c ∉ s'.components ∧ s'.unit c = 0 := by
  unfold removeComponent at hs'
  split at hs'
  · cases hs'
    exact ⟨not_mem_erase h, by simp [SetToken.unit]⟩
  · cases hs'

/-- A component that is left without a unit is not listed, and loses the unit where it was. -/
theorem reposition_zero (h : s.components.count c ≤ 1) :
    c ∉ (s.reposition c 0).components ∧
      (s.reposition c 0).unit c = if c ∈ s.components then 0 else s.unit c := by
  unfold reposition
  rw [if_neg (Int.lt_irrefl 0)]
  by_cases hc : c ∈ s.components
  · rw [if_pos ⟨rfl, hc⟩, if_pos hc]
    exact ⟨not_mem_erase h, by simp [SetToken.unit]⟩
  · rw [if_neg fun hz => hc hz.2, if_neg hc]
    exact ⟨hc, rfl⟩

end SetToken

section Kept

/-- A set that lists what it was given. Nothing is said of what is no set, except that none is still to be
filled in. -/
inductive Contract.ListsFrom (given : List Address) : Contract → Prop
  | set {s : SetToken} (h : s.ListsFrom given) : ListsFrom given (.setToken s)
  | absent : ListsFrom given .chain

/-- The set lists what it was given, now and wherever a snapshot leads back to. -/
structure World.Lists (set : Ref) (given : List Address) (w : World) : Prop where
  made : set < w.objects.length
  now : (w.content set).ListsFrom given
  again : ∀ shot ∈ w.snapshots, ∀ c, (set,c) ∈ shot.contents → c.ListsFrom given

theorem Change.components {k : Aspect} {c : Contract} (h : Change k (.setToken s) c)
    (hk : k ≠ .basket) : ∃ s', c = .setToken s' ∧ s'.components = s.components := by
  cases h with
  | basket => exact absurd rfl hk
  | _ => exact ⟨_, rfl, rfl⟩

theorem Contract.ListsFrom.change {k : Aspect} {c c' : Contract} (hc : c.ListsFrom given)
    (h : Change k c c') (hk : k ≠ .basket) : c'.ListsFrom given := by
  cases hc with
  | absent => cases h
  | @set s hs =>
    obtain ⟨s',rfl,hsame⟩ := h.components hk
    refine .set fun a => ?_
    rw [hsame]
    exact hs a

theorem Contract.ListsFrom.redirect {c : Contract} (hc : c.ListsFrom given) (f : Ref → Ref) :
    (c.redirect f).ListsFrom given := by
  cases hc with
  | absent => exact .absent
  | set hs => exact .set hs

theorem World.Lists.edited (hw : w.Lists set given) {c : Contract}
    (hc : ref = set → (w.content ref).ListsFrom given → c.ListsFrom given) :
    (w.setContent ref c).Lists set given := by
  refine ⟨by simpa [World.setContent] using hw.made, ?_, hw.again⟩
  rw [World.content_setContent]
  split
  · rename_i h
    obtain ⟨rfl,_⟩ := h
    exact hc rfl hw.now
  · exact hw.now

theorem World.Lists.move (hp : ∀ k, p set k → k ≠ .basket) (hw : w.Lists set given)
    (h : Move p 0 w v) : v.Lists set given := by
  obtain ⟨hmade,hnow,hagain⟩ := hw
  cases h with
  | edited h =>
    cases h with
    | @mk ref k c hk hc =>
      refine World.Lists.edited ⟨hmade, hnow, hagain⟩ ?_
      rintro rfl hbefore
      exact hbefore.change hc (hp k hk)
  | made =>
    refine ⟨Nat.lt_of_lt_of_le hmade (by simp [World.allocate]), ?_, hagain⟩
    rwa [World.content_allocate, if_neg (Nat.ne_of_lt hmade)]
  | drawn => exact ⟨hmade, hnow, hagain⟩
  | placed => exact ⟨hmade, hnow, hagain⟩
  | taken =>
    refine ⟨hmade, hnow, fun shot hshot c hc => ?_⟩
    rcases List.mem_append.mp hshot with hshot | hshot
    · exact hagain shot hshot c hc
    · rw [List.mem_singleton.mp hshot] at hc
      rw [(World.mem_contentsOf.mp hc).2]
      exact hnow
  | @restored id s _ hid =>
    have hs := List.mem_of_getElem? hid
    have hlength := (World.restore_others { w with snapshots := w.snapshots.take id } s).2
    refine ⟨by rw [hlength]; exact Nat.lt_add_right _ hmade, ?_, ?_⟩
    · obtain h | ⟨c,hc,h⟩ | ⟨hge,_⟩ :=
        World.content_restore_cases { w with snapshots := w.snapshots.take id } s set
      · rw [h]
        exact hnow
      · rw [h]
        exact (hagain s hs c hc).redirect _
      · exact absurd hmade (Nat.not_lt.mpr hge)
    · rw [World.snapshots_restore]
      exact fun t ht => hagain t (List.mem_of_mem_take ht)
  | dropped => exact ⟨hmade, hnow, fun t ht => hagain t (List.mem_of_mem_take ht)⟩

/-- What reaches no basket leaves the components as they are. -/
theorem lists_of_moves (hp : ∀ k, p set k → k ≠ .basket) (h : Moves p 0 w v)
    (hw : w.Lists set given) : v.Lists set given := by
  induction h with
  | refl => exact hw
  | tail _ hm ih => exact ih.move hp hm

theorem lists_carried : Carried (World.Lists set given) := by
  have kept : ∀ {w v : World}, Move (fun _ _ => False) 0 w v → w.Lists set given →
      v.Lists set given := fun h hw => hw.move (fun _ hp => hp.elim) h
  exact ⟨kept (.taken _), fun hs => kept (.restored (Nat.zero_le _) hs),
    fun n => kept (.dropped _ (Nat.zero_le n))⟩

theorem EditsAt.lists {a : Run α} (h : EditsAt p a w) (hp : ∀ k, p set k → k ≠ .basket) :
    KeepsAt (World.Lists set given) a w := fun hw => lists_of_moves hp (Edits.moves h) hw

end Kept

section Baskets

/-- How a module lists a component, drops one and sets its unit. -/
theorem components_kept {f : SetToken → Address → Except Fault SetToken}
    (hf : ∀ {s c s'}, f s c = .ok s' → s.ListsFrom given → s'.ListsFrom given) :
    KeepsAt (World.Lists set given) (do
      onlyModule ref caller
      let c ← Address.ofValue component
      setContent ref (.setToken (← f (← setAt ref) c))) w := by
  refine .read (onlyModule_reads ref caller) fun _ _ => ?_
  refine .read (.lift _) fun c _ => ?_
  refine .read (setAt_reads ref) fun s hs => ?_
  refine .read (.lift _) fun s' hs' hw => ?_
  refine hw.edited fun _ hbefore => ?_
  rw [setAt_ok hs] at hbefore
  cases hbefore with
  | set h => exact .set (hf hs' h)

theorem addComponent_kept : KeepsAt (World.Lists set given) (addComponent ref caller component) w :=
  components_kept (f := SetToken.addComponent) fun hs' h => h.added hs'

theorem removeComponent_kept :
    KeepsAt (World.Lists set given) (removeComponent ref caller component) w :=
  components_kept (f := SetToken.removeComponent) fun hs' h => h.removed hs'

theorem setUnit_kept (unit : Int) :
    KeepsAt (World.Lists set given) (setUnit ref caller component unit) w := by
  refine components_kept (f := fun s c => .ok (s.setUnit c unit)) fun hs' h => ?_
  cases hs'
  exact h

theorem listComponent_kept (unit : Int) :
    KeepsAt (World.Lists set given) (listComponent ref caller component unit) w := by
  have last : ∀ {v : World}, KeepsAt (World.Lists set given)
      (if 0 < unit then setUnit ref caller component unit else pure ()) v :=
    .ite (fun _ => setUnit_kept unit) fun _ => (Reads.pure _).keeps
  refine .read (isComponent_reads ref component) fun listed _ => .ite (fun _ => ?_) fun _ => ?_
  · exact addComponent_kept.bind fun _ _ _ => last
  · refine .ite (fun _ => ?_) fun _ => last
    exact removeComponent_kept.bind fun _ _ _ => last

theorem recalculate_kept (before : Int) :
    KeepsAt (World.Lists set given) (recalculate ref caller component before) w := by
  refine .read (setAddress_reads ref) fun _ _ => ?_
  refine .read (balanceOf_reads component _) fun _ _ => ?_
  refine .read (positionUnit_reads ref component) fun _ _ => ?_
  refine .read (setAt_reads ref) fun _ _ => ?_
  refine .read (.lift _) fun unit _ => ?_
  exact (listComponent_kept unit).answer _

/-- A call on behalf of a set reaches the tokens only. -/
theorem invoke_kept (caller target data : Value) :
    KeepsAt (World.Lists set given) (invoke ref caller target data) w :=
  (invoke_edits (p := fun _ k => k = .ledger) caller (fun _ => rfl) target data).lists (by simp)

theorem claimOne_kept {module holder : Ref} (pool : Value) (name : String) (claimData : Value) :
    KeepsAt (World.Lists set given) (claimOne module holder pool name claimData) w := by
  refine .read (isRewardPool_reads module _ pool) fun _ _ => ?_
  refine .guard fun _ => ?_
  refine .read (registeredAdapter_reads module _ pool name) fun adapter _ => ?_
  refine .read (moduleAt_reads module) fun m _ => ?_
  refine .read (setAddress_reads holder) fun address _ => ?_
  refine .read (rewardToken_reads adapter pool) fun token _ => ?_
  refine .read (balanceOf_reads _ _) fun before _ => ?_
  refine .read (claimCall_reads adapter address pool claimData) fun c _ => ?_
  refine (invoke_kept _ _ _).bind fun _ v _ => ?_
  refine .read (balanceOf_reads _ _) fun now _ => ?_
  refine (recalculate_kept before).bind fun _ u _ => ?_
  refine .read (.lift _) fun _ _ => ?_
  refine .read (.lift _) fun _ _ => ?_
  refine .read (moduleAt_reads module) fun m hm => ?_
  refine KeepsAt.bind (fun hw => hw.edited fun _ hbefore => ?_) fun _ _ _ =>
    ((Reads.lift _).bind fun _ => .pure _).keeps
  rw [moduleAt_ok hm] at hbefore
  cases hbefore

namespace Operation

/-- The operations that reach a basket. -/
def IsBasketCall : Operation → Prop
  | .addComponent .. | .removeComponent .. | .setUnit .. | .recalculate .. | .claim ..
  | .batchClaim .. => True
  | _ => False

theorem touches_no_basket {k : Aspect} (h : ¬ o.IsBasketCall) (hk : o.touches w ref k) :
    k ≠ .basket := by
  cases o <;> simp [touches, managed, named, fresh, IsBasketCall] at h hk ⊢ <;> grind

theorem lists (o : Operation) : KeepsAt (World.Lists set given) o.run w := by
  by_cases hb : o.IsBasketCall
  · cases o with
    | addComponent => exact addComponent_kept.answer _
    | removeComponent => exact removeComponent_kept.answer _
    | setUnit _ _ _ unit => exact (setUnit_kept unit).answer _
    | recalculate _ _ _ before => exact (recalculate_kept before).answer _
    | claim module caller named pool name data =>
      refine KeepsAt.answer (.atomically lists_carried ?_) _
      refine .read (claimableSet_reads module caller named) fun holder _ => ?_
      exact claimOne_kept pool name data
    | batchClaim module caller named pools names data =>
      refine KeepsAt.answer (.atomically lists_carried ?_) _
      refine .read (claimableSet_reads module caller named) fun holder _ => ?_
      refine .read (checkArrays_reads pools names) fun _ _ => ?_
      refine .guard fun _ => ?_
      exact .mapM fun e _ v => claimOne_kept e.1.1 e.1.2 e.2
    | _ => exact hb.elim
  · intro hw
    have hmoves : Moves (o.touches w) 0 w (o.run w).2 := o.run_moves o.spares_zero (Nat.zero_le _)
    exact lists_of_moves (fun _ hk => touches_no_basket hb hk) hmoves hw

end Operation

end Baskets

section Creation

theorem Altered.components {q : Aspect → Prop} {c : Contract} (h : Altered q (.setToken s) c)
    (hq : ∀ k, q k → k ≠ .basket) : ∃ s', c = .setToken s' ∧ s'.components = s.components := by
  induction h with
  | refl => exact ⟨s, rfl, rfl⟩
  | tail _ hc ih =>
    obtain ⟨s',rfl,hsame⟩ := ih
    obtain ⟨k,hk,hc⟩ := hc
    obtain ⟨s'',rfl,hsame'⟩ := hc.components (hq k hk)
    exact ⟨s'', rfl, hsame'.trans hsame⟩

theorem mapM_lift {f : α → Except Fault β} (xs : List α) (w : World) :
    (xs.mapM fun x => (liftM (f x) : Run β)) w = (xs.mapM f, w) := by
  induction xs with
  | nil => rfl
  | cons x xs ih =>
    rw [List.mapM_cons, List.mapM_cons]
    cases hx : f x with
    | error fault => rfl
    | ok y =>
      change ((xs.mapM fun x => (liftM (f x) : Run β)) >>= fun ys => pure (y :: ys)) w = _
      rw [answer_run, ih]
      cases xs.mapM f <;> rfl

/-- A draft that is filled in. What follows is only the modules that are pending in it. -/
theorem fill_ok {d : SetDraft} (hd : w.content ref = .setDraft d)
    (h : (do
      setContent ref (.setToken s)
      order.modules.forM (addPending ref)
      return ref) w = (.ok set, v)) :
    set = ref ∧ v.objects.length = w.objects.length ∧ v.snapshots = w.snapshots ∧
      ∃ s', v.content ref = .setToken s' ∧ s'.components = s.components := by
  change (order.modules.forM (addPending ref) >>= fun _ => pure ref)
    (w.setContent ref (.setToken s)) = _ at h
  obtain ⟨_,t,ht,hdone⟩ := bind_ok h
  cases hdone
  have hpending : EditsAt (fun _ k => k = .states) (order.modules.forM (addPending set))
      (w.setContent set (.setToken s)) :=
    .forM fun module _ _ _ => addPending_edits rfl module
  have hedits := hpending.reached ht
  have hcontent := Edits.content hedits set
  rw [World.content_setContent_self hd nofun] at hcontent
  refine ⟨rfl, ?_, hedits.snapshots, hcontent.components (by simp)⟩
  rw [hedits.others.2]
  simp [World.setContent]

/-- The components of a new set are those of its order. -/
theorem createSet_ok {controller : Ref} (h : createSet controller order w = (.ok set, v)) :
    w.objects.length = set ∧ set < v.objects.length ∧ v.snapshots = w.snapshots ∧ ∃ s,
      v.content set = .setToken s ∧
      order.components.mapM Address.ofValue = .ok s.components := by
  obtain ⟨_,h⟩ := guard_ok h
  obtain ⟨ref,u,hu,h⟩ := bind_ok h
  obtain ⟨a,ha⟩ := content_create (fun a => .setDraft ⟨a, controller, none⟩) w
  cases hu
  have hlt : w.objects.length < _ := World.lt_of_content (ha.trans_ne nofun)
  obtain ⟨address,_,h⟩ := (setAddress_reads _).bind_ok h
  obtain ⟨manager,_,h⟩ := (Reads.lift (Address.ofValue order.manager)).bind_ok h
  obtain ⟨_,t,ht,h⟩ := bind_ok h
  cases ht
  obtain ⟨components,t,ht,h⟩ := bind_ok h
  rw [mapM_lift] at ht
  obtain ⟨hgiven,rfl⟩ := Prod.mk.inj ht
  obtain ⟨rfl,hlength,hsnapshots,s,hs,hsame⟩ :=
    fill_ok (World.content_setContent_self ha nofun) h
  refine ⟨rfl, ?_, hsnapshots, s, hs, by rw [hgiven, hsame]⟩
  rw [hlength]
  simpa [World.setContent] using hlt

theorem createEnabledSet_ok {controller : Ref}
    (h : createEnabledSet controller order w = (.ok set, v)) :
    w.objects.length = set ∧ set < v.objects.length ∧ v.snapshots = w.snapshots ∧ ∃ s,
      v.content set = .setToken s ∧
      order.components.mapM Address.ofValue = .ok s.components := by
  obtain ⟨ref,u,hu,h⟩ := bind_ok h
  obtain ⟨hnew,hlt,hsnapshots,s,hs,hgiven⟩ := createSet_ok hu
  obtain ⟨address,_,h⟩ := (setAddress_reads _).bind_ok h
  obtain ⟨k,hk,h⟩ := (controllerAt_reads controller).bind_ok h
  obtain ⟨k',_,h⟩ := (Reads.lift (k.addSet address)).bind_ok h
  obtain ⟨_,t,ht,h⟩ := bind_ok h
  cases ht
  cases h
  have hne : set ≠ controller := by
    rintro rfl
    cases hs.symm.trans (controllerAt_ok hk)
  refine ⟨hnew, by simpa [World.setContent] using hlt, hsnapshots, s, ?_, hgiven⟩
  rw [World.content_setContent_of_ne hne]
  exact hs

end Creation

section Histories

/-- Snapshots keep nothing of an object that is still to be made. -/
def World.LooksBack (w : World) : Prop :=
  ∀ shot ∈ w.snapshots, ∀ ref c, (ref,c) ∈ shot.contents → w.objects.length ≤ ref → c = .chain

theorem World.LooksBack.move {floor : Nat} (hw : w.LooksBack) (h : Move p floor w v) :
    v.LooksBack := by
  have hl : w.objects.length ≤ v.objects.length := Moves.objects (ReflTransGen.single h)
  have older : (∀ shot ∈ v.snapshots, shot ∈ w.snapshots) → v.LooksBack :=
    fun hs shot hshot ref c hc hle => hw shot (hs shot hshot) ref c hc (Nat.le_trans hl hle)
  cases h with
  | edited he =>
    apply older
    rw [Edits.snapshots (.single he)]
    exact fun _ => id
  | taken =>
    intro shot hshot ref c hc hle
    rcases List.mem_append.mp hshot with hshot | hshot
    · exact hw shot hshot ref c hc hle
    · rw [List.mem_singleton.mp hshot] at hc
      rw [(World.mem_contentsOf.mp hc).2]
      exact World.content_past hle
  | restored =>
    apply older
    rw [World.snapshots_restore]
    exact fun _ => List.mem_of_mem_take
  | dropped => exact older fun _ => List.mem_of_mem_take
  | _ => exact older fun _ => id

theorem World.after_looksBack (accounts : Nat → Address) (owner : Option String)
    (history : List Step) : ((World.deployed accounts owner).2.after history).LooksBack := by
  have kept : ∀ {w v : World}, Moves anything 0 w v → w.LooksBack → v.LooksBack := by
    intro w v h hw
    induction h with
    | refl => exact hw
    | tail _ hm ih => exact ih.move hm
  exact kept (World.after_moves _ history) (kept (World.deployed_moves accounts owner) nofun)

/-- The operations that make a set to an order. -/
inductive Operation.Builds (order : SetOrder) : Operation → Prop
  | set (controller : Ref) : Builds order (.createSet controller order)
  | enabledSet (controller : Ref) : Builds order (.createEnabledSet controller order)

/-- A new set lists what it was given. -/
theorem Operation.Builds.lists (ho : o.Builds order) (hw : w.LooksBack)
    (h : o.run w = (.ok (.object (some set)), v)) : ∃ given,
      order.components.mapM Address.ofValue = .ok given ∧ v.Lists set given := by
  obtain ⟨hnew,hlt,hsnapshots,s,hs,hgiven⟩ : w.objects.length = set ∧ set < v.objects.length ∧
      v.snapshots = w.snapshots ∧ ∃ s, v.content set = .setToken s ∧
      order.components.mapM Address.ofValue = .ok s.components := by
    cases ho with
    | set controller =>
      obtain ⟨ref,u,hu,hdone⟩ := bind_ok h
      cases hdone
      exact createSet_ok hu
    | enabledSet controller =>
      obtain ⟨ref,u,hu,hdone⟩ := bind_ok h
      cases hdone
      exact createEnabledSet_ok hu
  refine ⟨s.components, hgiven, hlt, ?_, fun shot hshot c hc => ?_⟩
  · rw [hs]
    exact .set fun a => Nat.le_max_right 1 _
  · rw [hsnapshots] at hshot
    rw [hw shot hshot set c hc (Nat.le_of_eq hnew)]
    exact .absent

theorem World.Lists.after (hw : w.Lists set given) (history : List Step) :
    (w.after history).Lists set given :=
  World.after_always lists_carried (fun _ => Operation.lists) history hw

/-- A component that the set does not list, and how much of it the set counts, however it is written. -/
structure World.Lacks (w : World) (set : Ref) (c : Address) (unit : Int) : Prop where
  unlisted : ∀ component, Address.ofValue component = .ok c →
    isComponent set component w = (.ok false, w)
  counted : ∀ component, Address.ofValue component = .ok c →
    positionUnit set component w = (.ok unit, w)

theorem lacks_setContent (hs : w.content set = .setToken s) (hc : c ∉ s'.components) :
    (w.setContent set (.setToken s')).Lacks set c (s'.unit c) := by
  have hs' : (w.setContent set (.setToken s')).content set = .setToken s' :=
    World.content_setContent_self hs nofun
  refine ⟨fun component h => ?_, fun component h => positionUnit_run hs' h⟩
  rw [isComponent_run hs' h]
  simp [SetToken.isComponent, hc]

theorem removeComponent_lacks (hs : w.content set = .setToken s)
    (hc : Address.ofValue component = .ok c) (honce : s.components.count c ≤ 1)
    (h : removeComponent set caller component w = (.ok (), v)) : v.Lacks set c 0 := by
  obtain ⟨_,_,h⟩ := (onlyModule_reads set caller).bind_ok h
  obtain ⟨a,ha,h⟩ := (Reads.lift (Address.ofValue component)).bind_ok h
  obtain ⟨t,ht,h⟩ := (setAt_reads set).bind_ok h
  obtain ⟨s',hs',h⟩ := (Reads.lift (t.removeComponent a)).bind_ok h
  cases h
  cases ha.symm.trans hc
  cases hs.symm.trans (setAt_ok ht)
  obtain ⟨hunlisted,hzero⟩ := SetToken.removeComponent_ok honce hs'
  rw [← hzero]
  exact lacks_setContent hs hunlisted

theorem recalculate_lacks {before : Int} (hs : w.content set = .setToken s)
    (hc : Address.ofValue component = .ok c) (honce : s.components.count c ≤ 1)
    (h : recalculate set caller component before w = (.ok 0, v)) :
    v.Lacks set c (if c ∈ s.components then 0 else s.unit c) := by
  obtain ⟨_,hfault,_⟩ | ⟨now,unit,_,_,hunit,rfl⟩ := recalculate_ends hs hc h
  · cases hfault
  · cases hunit
    obtain ⟨hunlisted,hleft⟩ := SetToken.reposition_zero honce
    rw [← hleft]
    exact lacks_setContent hs hunlisted

/-- In every state that a set comes to, it lists a component as often as it was given it at most, or once,
so that it lists none twice where it was given none twice. A component that it was not given twice is gone
once a module has dropped it, and its unit is zero. It is gone as well where its unit is derived as zero;
but the unit of a component that was not listed then stays what it was. -/
theorem components_listed_as_given {accounts : Nat → Address} {owner : Option String}
    {earlier later : List Step} (ho : o.Builds order)
    (hbuilt : o.run ((World.deployed accounts owner).2.after earlier) =
      (.ok (.object (some set)), v))
    (hs : (v.after later).content set = .setToken s) :
    ∃ given, order.components.mapM Address.ofValue = .ok given ∧
      (∀ a, s.components.count a ≤ max 1 (given.count a)) ∧
      (given.Nodup → s.components.Nodup) ∧
      ∀ component c, Address.ofValue component = .ok c → given.count c ≤ 1 →
        (∀ caller u, removeComponent set caller component (v.after later) = (.ok (), u) →
          u.Lacks set c 0) ∧
        ∀ caller previous u,
          recalculate set caller component previous (v.after later) = (.ok 0, u) →
          u.Lacks set c (if c ∈ s.components then 0 else s.unit c) := by
  obtain ⟨given,hgiven,hlists⟩ := ho.lists (World.after_looksBack accounts owner earlier) hbuilt
  have hnow := (hlists.after later).now
  rw [hs] at hnow
  cases hnow with
  | set hlisted =>
    refine ⟨given, hgiven, hlisted, hlisted.nodup, fun component c hc hone => ?_⟩
    have honce : s.components.count c ≤ 1 := Nat.le_trans (hlisted c) (by omega)
    exact ⟨fun caller u => removeComponent_lacks hs hc honce,
      fun caller previous u => recalculate_lacks hs hc honce⟩

namespace Sample

/-- An order of wrapped ether twice, in two spellings, and of another token. -/
def doubled : SetOrder :=
  { components := [pool, .text (account 2).lowerText, (account 3).toValue], units := [1, 2, 3],
    modules := [manager], manager }

/-- The module drops the other token and lists it again, and lists a third. -/
def relisted : List Step :=
  [.operation (.initializeModule 6 manager), .operation (.removeComponent 6 manager (account 3).toValue),
    .operation (.addComponent 6 manager (account 4).toValue),
    .operation (.addComponent 6 manager (account 3).toValue)]

end Sample

theorem components_listed_as_given_twice :
    let w := (World.deployed Sample.account (some Sample.owner)).2
    let v := (createSet 1 Sample.doubled w).2
    ∃ s, (v.after Sample.relisted).content 6 = .setToken s ∧
      s.components.count (Sample.account 2) = 2 ∧
      (∀ a, s.components.count a ≤
        max 1 ([Sample.account 2, Sample.account 2, Sample.account 3].count a)) ∧
      ∀ u, removeComponent 6 Sample.manager (Sample.account 3).toValue (v.after Sample.relisted) =
        (.ok (), u) → u.Lacks 6 (Sample.account 3) 0 := by
  intro w v
  have hmade : (createSet 1 Sample.doubled w).1 = .ok 6 := by decide +kernel
  have hbuilt : (Operation.createSet 1 Sample.doubled).run (w.after []) =
      (.ok (.object (some 6)), v) := by
    change (createSet 1 Sample.doubled >>= fun ref => pure (Answer.object (some ref))) w = _
    rw [bind_of_ok (run_of_answer hmade)]
    rfl
  obtain ⟨s,hs,htwice⟩ : ∃ s, (v.after Sample.relisted).content 6 = .setToken s ∧
      s.components.count (Sample.account 2) = 2 := by
    refine ⟨⟨Sample.account 6, 1, ⟨Sample.account 60, "SetToken", "SET", Units.preciseUnit⟩,
      [Sample.account 2, Sample.account 2, Sample.account 4, Sample.account 3],
      ⟨[(Sample.account 2, 2)]⟩, ⟨[(Sample.account 60, .initialized)]⟩⟩, ?_, by decide⟩
    decide +kernel
  have hgiven : Sample.doubled.components.mapM Address.ofValue =
      .ok [Sample.account 2, Sample.account 2, Sample.account 3] := by decide +kernel
  obtain ⟨given,hgiven',hlisted,-,hdropped⟩ := components_listed_as_given (.set 1) hbuilt hs
  cases hgiven.symm.trans hgiven'
  obtain ⟨hremoved,-⟩ := hdropped _ _ (Address.ofValue_toValue (Sample.account 3)) (by decide)
  exact ⟨s, hs, htwice, hlisted, hremoved Sample.manager⟩

/-- A component that was given twice is still there once it is dropped; and a unit that was set for what is
no component stays, although a new one of zero is answered. -/
theorem dropped_components_remain :
    let built := fun components units => (World.deployed Sample.account (some Sample.owner)).2.after
      [.operation (.createSet 1 { Sample.doubled with components, units }),
        .operation (.initializeModule 6 Sample.manager)]
    let other := (Sample.account 3).toValue
    (let w := built [Sample.pool, .text (Sample.account 2).lowerText] [1, 2]
      let v := (removeComponent 6 Sample.manager Sample.pool w).2
      (removeComponent 6 Sample.manager Sample.pool w).1 = .ok () ∧
        (isComponent 6 Sample.pool v).1 = .ok true) ∧
      let w := ((built [Sample.pool] [1]).after [.operation (.setUnit 6 Sample.manager other 5)])
      let v := (recalculate 6 Sample.manager other 0 w).2
      (recalculate 6 Sample.manager other 0 w).1 = .ok 0 ∧
        (isComponent 6 other v).1 = .ok false ∧ (positionUnit 6 other v).1 = .ok 5 := by
  decide +kernel

end Histories

end Basketry.Chain
