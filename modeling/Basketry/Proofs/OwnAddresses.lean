import Basketry.Proofs.Keeping
import Basketry.Proofs.Placement

namespace Basketry.Chain

variable {p : Ref → Aspect → Prop} {w v : World} {ref : Ref} {a : Address}

namespace World

/-- Every entry leads to an object, and to none whose own address is another. -/
def LeadsToOwn (w : World) (registered : Table Address Ref) : Prop :=
  ∀ e ∈ registered.entries, e.2 < w.objects.length ∧
    ∀ b, (w.content e.2).address? = some b → b = e.1

/-- The controller that a contract refers to is an object that is there. -/
def Knows (w : World) (c : Contract) : Prop := ∀ r, c.controller? = some r → r < w.objects.length

/-- Addresses lead to the contracts that have them, now and wherever a snapshot leads back to. -/
structure OwnAddresses (w : World) : Prop where
  registered : w.LeadsToOwn w.registered
  snapshots : ∀ s ∈ w.snapshots, w.LeadsToOwn s.registered
  contents : ∀ s ∈ w.snapshots, ∀ e ∈ s.contents,
    e.1 < w.objects.length ∧ e.2.address? = (w.content e.1).address?
  known : w.Everywhere w.Knows

theorem OwnAddresses.found (h : w.OwnAddresses) (hf : w.find a = some ref) :
    ref < w.objects.length ∧ ∀ b, (w.content ref).address? = some b → b = a :=
  h.registered (a,ref) (Table.mem_entries_of_get? hf)

theorem OwnAddresses.there (h : w.OwnAddresses) (hr : ref ∈ w.registered.values) :
    ref < w.objects.length := by
  obtain ⟨e,he,rfl⟩ := List.mem_map.mp hr
  exact (h.registered e he).1

section Kept
variable (hl : w.objects.length ≤ v.objects.length)
  (ha : ∀ ref < w.objects.length, (v.content ref).address? = (w.content ref).address?)
include hl

theorem Knows.later {c : Contract} (h : w.Knows c) : v.Knows c :=
  fun r hr => Nat.lt_of_lt_of_le (h r hr) hl

include ha

theorem LeadsToOwn.later {registered : Table Address Ref} (h : w.LeadsToOwn registered) :
    v.LeadsToOwn registered := by
  intro e he
  obtain ⟨hlt,hown⟩ := h e he
  refine ⟨Nat.lt_of_lt_of_le hlt hl, fun b hb => hown b ?_⟩
  rwa [ha e.2 hlt] at hb

/-- As long as objects keep their addresses and no snapshot is added, what is at stake is where the
addresses lead and what the contents refer to. -/
theorem OwnAddresses.later (h : w.OwnAddresses) (hr : v.LeadsToOwn v.registered)
    (hs : ∀ s ∈ v.snapshots, s ∈ w.snapshots) (hk : ∀ ref, v.Knows (v.content ref)) :
    v.OwnAddresses := by
  refine ⟨hr, fun s hm => (h.snapshots s (hs s hm)).later hl ha, fun s hm e he => ?_, hk,
    fun s hm e he => (h.known.contents s (hs s hm) e he).later hl,
    fun s hm e he => (h.known.strays s (hs s hm) e he).later hl⟩
  obtain ⟨hlt,haddress⟩ := h.contents s (hs s hm) e he
  exact ⟨Nat.lt_of_lt_of_le hlt hl, haddress.trans (ha e.1 hlt).symm⟩

end Kept

theorem OwnAddresses.edits (h : w.OwnAddresses) (he : Edits p w v) : v.OwnAddresses := by
  have hl : w.objects.length ≤ v.objects.length := Nat.le_of_eq he.others.2.symm
  have ha : ∀ ref < w.objects.length, (v.content ref).address? = (w.content ref).address? :=
    fun ref _ => he.address ref
  refine h.later hl ha ?_ (by rw [he.snapshots]; exact fun _ hs => hs) fun ref r hr => ?_
  · rw [he.registered]
    exact h.registered.later hl ha
  · rw [(he.content ref).kept.2.1] at hr
    exact (h.known.objects ref).later hl r hr

theorem OwnAddresses.made (h : w.OwnAddresses) {c : Contract} (hc : w.Knows c) :
    (w.allocate c).2.OwnAddresses := by
  have hl : w.objects.length ≤ (w.allocate c).2.objects.length := by simp [allocate]
  have ha : ∀ ref < w.objects.length,
      ((w.allocate c).2.content ref).address? = (w.content ref).address? := by
    intro ref hr
    rw [content_allocate, if_neg (Nat.ne_of_lt hr)]
  refine h.later hl ha (h.registered.later hl ha) (fun _ hs => hs) fun ref => ?_
  rw [content_allocate]
  split
  · exact hc.later hl
  · exact (h.known.objects ref).later hl

theorem OwnAddresses.placed (h : w.OwnAddresses) (hr : ref < w.objects.length)
    (ha : ∀ b, (w.content ref).address? = some b → b = a) : (w.register a ref).OwnAddresses := by
  refine ⟨fun e he => ?_, h.snapshots, h.contents, h.known.objects, h.known.contents,
    h.known.strays⟩
  rcases Table.mem_entries_put he with rfl | he
  · exact ⟨hr, ha⟩
  · exact h.registered e he

theorem OwnAddresses.spent (h : w.OwnAddresses) :
    ({ w with drawn := w.drawn + 1 } : World).OwnAddresses :=
  ⟨h.registered, h.snapshots, h.contents, h.known.objects, h.known.contents, h.known.strays⟩

theorem OwnAddresses.create (h : w.OwnAddresses) {make : Address → Contract}
    (hk : ∀ a, w.Knows (make a)) (ha : ∀ a, (make a).address? = some a) : (w.create make).2.OwnAddresses := by
  refine OwnAddresses.placed (h.made (hk _)).spent (by simp) fun b hb => ?_
  have hc := content_allocate w (make (w.accounts w.drawn)) w.objects.length
  rw [if_pos rfl] at hc
  change ((w.allocate _).2.content w.objects.length).address? = some b at hb
  rw [hc, ha] at hb
  exact (Option.some.inj hb).symm

theorem OwnAddresses.taken (h : w.OwnAddresses) : w.snapshot.2.OwnAddresses := by
  have hof : ∀ refs, ∀ e ∈ w.contentsOf refs, e.1 ∈ refs ∧ e.2 = w.content e.1 :=
    fun refs e he => mem_contentsOf.mp (show (e.1, e.2) ∈ _ from he)
  refine ⟨h.registered, fun s hs => ?_, fun s hs => ?_, h.known.objects, fun s hs => ?_,
    fun s hs => ?_⟩
  all_goals rcases List.mem_append.mp hs with hs | hs
  · exact h.snapshots s hs
  · rw [List.mem_singleton.mp hs]
    exact h.registered
  · exact h.contents s hs
  · rw [List.mem_singleton.mp hs]
    intro e he
    obtain ⟨hm,hc⟩ := hof _ e he
    exact ⟨h.there hm, congrArg Contract.address? hc⟩
  · exact h.known.contents s hs
  · rw [List.mem_singleton.mp hs]
    intro e he
    rw [(hof _ e he).2]
    exact h.known.objects e.1
  · exact h.known.strays s hs
  · rw [List.mem_singleton.mp hs]
    intro e he
    rw [(hof _ e he).2]
    exact h.known.objects e.1

theorem OwnAddresses.dropped (h : w.OwnAddresses) (n : Nat) :
    ({ w with snapshots := w.snapshots.take n } : World).OwnAddresses :=
  OwnAddresses.later (w := w) (Nat.le_refl _) (fun _ _ => rfl) h h.registered
    (fun _ => List.mem_of_mem_take) h.known.objects

/-- What a reference leads to is there again, be it at a new place. -/
theorem moved_lt (w : World) (s : Snapshot) {r : Ref} (hr : r < w.objects.length) :
    w.moved s r < w.objects.length + s.strays.length := by
  unfold moved
  cases hi : (s.strays.map (·.1)).idxOf? r with
  | none => exact Nat.lt_of_lt_of_le hr (Nat.le_add_right _ _)
  | some i =>
    obtain ⟨hlt,_⟩ := List.idxOf?_eq_some_iff.mp hi
    rw [List.length_map] at hlt
    exact Nat.add_lt_add_left hlt _

theorem controller_redirect (c : Contract) (f : Ref → Ref) :
    (c.redirect f).controller? = c.controller?.map f := by
  cases c <;> rfl

theorem OwnAddresses.restored (h : w.OwnAddresses) {n : Nat} {s : Snapshot}
    (hn : w.snapshots[n]? = some s) :
    ({ w with snapshots := w.snapshots.take n }.restore s).OwnAddresses := by
  have hs : s ∈ w.snapshots := List.mem_of_getElem? hn
  have hcases := content_restore_cases { w with snapshots := w.snapshots.take n } s
  obtain ⟨hothers,hlength⟩ := restore_others { w with snapshots := w.snapshots.take n } s
  have hl : w.objects.length ≤ (restore _ s).objects.length := Nat.le.intro hlength.symm
  have ha : ∀ ref < w.objects.length,
      (({ w with snapshots := w.snapshots.take n }.restore s).content ref).address? =
        (w.content ref).address? := by
    intro ref hr
    rcases hcases ref with hc | ⟨c,hm,hc⟩ | ⟨hge,_⟩
    · rw [hc]
      rfl
    · rw [hc, redirect_address]
      exact (h.contents s hs _ hm).2
    · exact absurd hr (Nat.not_lt.mpr hge)
  refine OwnAddresses.later (w := w) hl ha h ?_ ?_ fun ref => ?_
  · rw [show (restore _ s).registered = s.registered by rw [hothers]]
    exact (h.snapshots s hs).later hl ha
  · rw [snapshots_restore]
    exact fun _ => List.mem_of_mem_take
  · rcases hcases ref with hc | ⟨c,hm,hc⟩ | ⟨_,e,he,hc⟩
    · rw [hc]
      exact (h.known.objects ref).later hl
    · intro r hr
      rw [hc, controller_redirect] at hr
      obtain ⟨r₀,hr₀,rfl⟩ := Option.map_eq_some_iff.mp hr
      rw [hlength]
      exact moved_lt _ s (h.known.contents s hs _ hm r₀ hr₀)
    · rw [hc]
      exact (h.known.strays s hs e he).later hl

theorem ownAddresses_carried : Carried World.OwnAddresses := 
  ⟨OwnAddresses.taken, fun hn h => h.restored hn, fun n h => h.dropped n⟩

end World

section Operations

/-- Contracts are registered at their own addresses only. The objects that an operation is given are
there. -/
def Operation.OwnAddressesOnly (w : World) : Operation → Prop
  | .register ref given => ref < w.objects.length ∧
    ∀ a b, Address.ofValue given = .ok a → (w.content ref).address? = some b → b = a
  | .createClaimModule controller | .createSet controller _
  | .createEnabledSet controller _ => controller < w.objects.length
  | _ => True

theorem EditsAt.ownAddresses {a : Run α} (h : EditsAt p a w) : KeepsAt World.OwnAddresses a w :=
  fun hw => hw.edits h

theorem Block.ownAddresses {f : Footprint} {a : Run α} (h : Block f a) :
    KeepsAt World.OwnAddresses a w := by
  obtain ⟨b,rfl,hb⟩ := h
  exact .atomically World.ownAddresses_carried (hb w).ownAddresses

theorem create_ownAddresses {make : Address → Contract} (hk : ∀ a, w.Knows (make a))
    (ha : ∀ a, (make a).address? = some a) : KeepsAt World.OwnAddresses (create make) w :=
  fun hw => hw.create hk ha

/-- Only sets and modules refer to a controller. -/
theorem createAlone_ownAddresses (make : Address → Contract) (hk : ∀ a, (make a).controller? = none)
    (ha : ∀ a, (make a).address? = some a) : KeepsAt World.OwnAddresses (create make) w :=
  create_ownAddresses (fun a _ hr => absurd ((hk a).symm.trans hr) nofun) ha

theorem createController_ownAddresses (registry : Ref) :
    KeepsAt World.OwnAddresses (createController registry) w :=
  .read (registryAt_reads registry) fun r _ =>
    createAlone_ownAddresses (fun a => .controller ⟨a, r.address, [], []⟩) (fun _ => rfl) fun _ => rfl

theorem createToken_ownAddresses (name symbol : String) (decimals : Int) :
    KeepsAt World.OwnAddresses (createToken name symbol decimals) w :=
  createAlone_ownAddresses (fun a => .token ⟨a, name, symbol, decimals, 0, {}⟩) (fun _ => rfl)
    fun _ => rfl

theorem createSet_ownAddresses {controller : Ref} (hc : controller < w.objects.length)
    (order : SetOrder) : KeepsAt World.OwnAddresses (createSet controller order) w := by
  have hk : ∀ a, w.Knows (.setDraft ⟨a, controller, none⟩) := fun a r hr => Option.some.inj hr ▸ hc
  refine .guard fun _ => (create_ownAddresses hk fun _ => rfl).bind fun ref v hv => ?_
  obtain ⟨a,ha⟩ := content_create (fun a => .setDraft ⟨a, controller, none⟩) w
  cases hv
  exact (furnish_edits (p := anything) order ha trivial trivial).ownAddresses

theorem createEnabledSet_ownAddresses {controller : Ref} (hc : controller < w.objects.length)
    (order : SetOrder) : KeepsAt World.OwnAddresses (createEnabledSet controller order) w := by
  refine (createSet_ownAddresses hc order).bind fun ref v _ => EditsAt.ownAddresses (p := anything) ?_
  refine .read (setAddress_reads ref) fun a _ => ?_
  refine .read (controllerAt_reads controller) fun c hc => ?_
  refine .read (.lift _) fun c' h => ?_
  refine EditsAt.answer (setContent_edits (k := .listing) trivial ?_) _
  rw [controllerAt_ok hc]
  exact .listing (.setAdded h)

theorem register_ownAddresses {given : Value} (h : (Operation.register ref given).OwnAddressesOnly w) :
    KeepsAt World.OwnAddresses (register ref given) w := by
  obtain ⟨hr,hown⟩ := h
  have placed : ∀ a : Address, (∀ b, (w.content ref).address? = some b → b = a) →
      KeepsAt World.OwnAddresses (do modify (·.register a ref); return a) w :=
    fun a ha hw => hw.placed hr ha
  unfold register
  split
  · refine .read (content_reads ref) fun c hc => ?_
    cases hc
    cases ha : (w.content ref).address? with
    | none => exact (Reads.throw _).keeps
    | some own =>
      refine .read (.pure own) fun a he => placed a fun b hb => ?_
      cases he
      exact Option.some.inj (hb.symm.trans ha)
  · exact .read (.lift _) fun a ha => placed a fun b hb => hown a b ha hb

theorem removeModule_ownAddresses (set : Ref) (caller module : Value) :
    KeepsAt World.OwnAddresses (removeModule set caller module) w := by
  refine .read (onlyManager_reads set caller) fun _ _ => ?_
  refine .read (moduleState_reads set module) fun _ _ => .guard fun _ => ?_
  refine .read (find_reads module) fun found _ => ?_
  cases found with
  | none => exact (Reads.throw _).keeps
  | some m =>
    refine .read (content_reads m) fun c _ => ?_
    cases c with
    | claimModule _ =>
      exact forgetSet_block.ownAddresses.bind fun _ _ _ =>
        (setState_edits (p := anything) module trivial .none).ownAddresses
    | _ => exact (Reads.throw _).keeps

theorem revertTo_ownAddresses (id : Int) : KeepsAt World.OwnAddresses (revertTo id) w := by
  intro hw
  rcases revertTo_ends id w with hv | ⟨_,s,hs,hv⟩
  · rwa [hv]
  · rw [hv]
    exact hw.restored hs

theorem Operation.ownAddresses {o : Operation} (h : o.OwnAddressesOnly w) :
    KeepsAt World.OwnAddresses o.run w := by
  cases o with
  | snapshot => exact KeepsAt.answer (fun hw => hw.taken) _
  | revert id => exact (revertTo_ownAddresses id).answer _
  | release id => exact KeepsAt.answer (a := modify (·.release id)) (World.OwnAddresses.dropped · _) _
  | register ref given => exact (register_ownAddresses h).answer _
  | createRegistry =>
    exact (createAlone_ownAddresses (fun a => .registry ⟨a, {}⟩) (fun _ => rfl) fun _ => rfl).answer _
  | createController registry => exact (createController_ownAddresses registry).answer _
  | createToken name symbol decimals =>
    exact (createToken_ownAddresses name symbol decimals).answer _
  | createClaimAdapter =>
    exact (createAlone_ownAddresses (fun a => .claimAdapter ⟨⟨a, _, _, _, 0, {}⟩, 0⟩) (fun _ => rfl)
      fun _ => rfl).answer _
  | createClaimModule controller =>
    exact (create_ownAddresses (fun a r hr => Option.some.inj hr ▸ h) fun _ => rfl).answer _
  | createMorphoAdapter distributor =>
    exact KeepsAt.answer (.read (.lift _) fun m _ hw => hw.made nofun) _
  | createSet controller order => exact (createSet_ownAddresses h order).answer _
  | createEnabledSet controller order => exact (createEnabledSet_ownAddresses h order).answer _
  | removeModule set caller module => exact (removeModule_ownAddresses set caller module).answer _
  | activate | updateAnyoneClaim | addClaim | batchAddClaim | removeClaim | batchRemoveClaim
  | forgetSet | claim | batchClaim => exact (Operation.block (by trivial)).ownAddresses
  | _ => exact (Operation.run_edits (by trivial)).ownAddresses

end Operations

section Deployment

theorem World.deployed_ownAddresses (accounts : Nat → Address) (owner : Option String) :
    (World.deployed accounts owner).2.OwnAddresses := by
  have hnew : World.OwnAddresses { accounts } :=
    ⟨nofun, nofun, nofun, fun _ => nofun, nofun, nofun⟩
  have hdeploying : Deploying World.OwnAddresses :=
    ⟨createAlone_ownAddresses (fun a => .registry ⟨a, {}⟩) (fun _ => rfl) fun _ => rfl,
      createController_ownAddresses, createToken_ownAddresses, fun hw => hw.spent,
      fun _ _ _ _ => (mint_edits (p := anything) trivial _ _).ownAddresses⟩
  exact hdeploying.deployed accounts owner hnew

/-- Where contracts are registered at their own addresses only, every state that a deployment comes
to leads from an address to the contract that has it. -/
theorem World.after_ownAddresses {accounts : Nat → Address} {owner : Option String} {history : List Step}
    (h : (World.deployed accounts owner).2.Throughout Operation.OwnAddressesOnly history) :
    ((World.deployed accounts owner).2.after history).OwnAddresses :=
  World.after_keeps ownAddresses_carried (fun _ _ => Operation.ownAddresses) h
    (deployed_ownAddresses accounts owner)

end Deployment

end Basketry.Chain
