import Basketry.Proofs.Keeping

namespace Basketry.Chain
open Relation

variable {p q : Ref → Aspect → Prop} {w v u : World}

/-- Contracts stand at addresses of their own. Only an adapter without one is registered by hand,
and only where nothing stands. -/
def Operation.Proper (w : World) : Operation → Prop
  | .register ref given => (∃ m, w.content ref = .morphoAdapter m) ∧
    ∀ a, Address.ofValue given = .ok a → w.find a = none
  | _ => True

/-- What an operation does besides edits, unless it brings a snapshot back by hand. -/
inductive StructureChange (w : World) : World → Prop
  | nothing : StructureChange w w
  | spent : StructureChange w { w with drawn := w.drawn + 1 }
  | created {make : Address → Contract} (hn : ∀ a, (make a).Newborn)
      (ha : ∀ a, (make a).address? = some a) : StructureChange w (w.create make).2
  | laid (m : Morpho.ClaimAdapter) : StructureChange w (w.allocate (.morphoAdapter m)).2
  | placed {ref : Ref} {m : Morpho.ClaimAdapter} {a : Address}
      (hm : w.content ref = .morphoAdapter m) (ha : w.find a = none) :
      StructureChange w (w.register a ref)
  | taken : StructureChange w w.snapshot.2
  | dropped (n : Nat) : StructureChange w { w with snapshots := w.snapshots.take n }

/-- A change of structure and edits that `p` allows. -/
def Effect (p : Ref → Aspect → Prop) (w v : World) : Prop := ∃ u, StructureChange w u ∧ Edits p u v

/-- Edits that `p` allows were made after a snapshot, and the snapshot was brought back. -/
def Undone (p : Ref → Aspect → Prop) (w v : World) : Prop :=
  ∃ u, Edits p w.snapshot.2 u ∧ v = { u with snapshots := w.snapshots }.restore w.shot

/-- What an action does when it succeeds and when it is refused. Nothing is said of other faults. -/
structure EffectAt (p : Ref → Aspect → Prop) (a : Run α) (w : World) : Prop where
  done : ∀ x v, a w = (.ok x, v) → Effect p w v
  refused : ∀ reason v, a w = (.error (.revert reason), v) → Effect p w v ∨ Undone p w v

/-- It succeeds, or a contract refuses it. -/
def Settled (outcome : Except Fault α) : Prop :=
  ∀ fault, outcome = .error fault → ∃ reason, fault = .revert reason

def isRefusal : Fault → Bool
  | .revert _ => true
  | _ => false

theorem isRefusal_iff {fault : Fault} :
    isRefusal fault = true ↔ ∃ reason, fault = .revert reason := by
  cases fault <;> simp [isRefusal]

instance : (outcome : Except Fault α) → Decidable (Settled outcome)
  | .ok _ => .isTrue nofun
  | .error fault => decidable_of_iff (isRefusal fault = true) <| by
    rw [isRefusal_iff]
    exact ⟨fun h _ he => Except.error.inj he ▸ h, fun h => h fault rfl⟩

theorem EffectAt.settled {a : Run α} (h : EffectAt p a w) (hs : Settled (a w).1) :
    Effect p w (a w).2 ∨ Undone p w (a w).2 := by
  cases hr : a w with
  | mk outcome v =>
    cases outcome with
    | ok x => exact .inl (h.done x v hr)
    | error fault =>
      obtain ⟨reason,rfl⟩ := hs fault (by rw [hr])
      exact h.refused reason v hr

theorem Effect.edits (h : Effect p w v) (he : Edits p v u) : Effect p w u := by
  obtain ⟨z,hd,hz⟩ := h
  exact ⟨z, hd, hz.trans he⟩

theorem Edits.effect (h : Edits p w v) : Effect p w v := ⟨w, .nothing, h⟩

theorem EffectAt.bind {a : Run α} {f : α → Run β} (ha : EffectAt p a w)
    (hf : ∀ x v, a w = (.ok x, v) → EditsAt p (f x) v) : EffectAt p (a >>= f) w := by
  have hrun := bind_run a f w
  cases h : a w with
  | mk outcome z =>
    rw [h] at hrun
    cases outcome with
    | error fault =>
      refine ⟨fun x v hv => ?_, fun reason v hv => ?_⟩
      · rw [hrun] at hv
        cases hv
      · rw [hrun] at hv
        cases hv
        exact ha.refused reason z h
    | ok x =>
      have hend : ∀ outcome v, (a >>= f) w = (outcome, v) → Effect p w v := by
        intro outcome v hv
        rw [hrun] at hv
        exact (ha.done x z h).edits ((hf x z h).reached hv)
      exact ⟨fun y v hv => hend _ v hv, fun reason v hv => .inl (hend _ v hv)⟩

theorem EditsAt.effect {a : Run α} (h : EditsAt p a w) : EffectAt p a w :=
  ⟨fun _ _ hv => (h.reached hv).effect, fun _ _ hv => .inl (h.reached hv).effect⟩

theorem EffectAt.answer {a : Run α} (h : EffectAt p a w) (f : α → β) :
    EffectAt p (a >>= fun x => pure (f x)) w :=
  h.bind fun _ _ _ => (Reads.pure _).edits

theorem EffectAt.read {a : Run α} {f : α → Run β} (ha : Reads a)
    (hf : ∀ x, (a w).1 = .ok x → EffectAt p (f x) w) : EffectAt p (a >>= f) w := by
  have hrun := bind_run a f w
  rw [ha.run w] at hrun
  cases h : (a w).1 with
  | ok x =>
    rw [h] at hrun
    have hx := hf x h
    exact ⟨fun y v hv => hx.done y v (hrun.symm.trans hv),
      fun reason v hv => hx.refused reason v (hrun.symm.trans hv)⟩
  | error fault =>
    rw [h] at hrun
    refine ⟨fun y v hv => ?_, fun reason v hv => ?_⟩
    · rw [hrun] at hv
      cases hv
    · rw [hrun] at hv
      cases hv
      exact .inl (Edits.effect .refl)

theorem EffectAt.guard {c : Prop} [Decidable c] {fault : Fault} {f : α → Run β} {b : Run β}
    (hb : EffectAt p b w) : EffectAt p (if c then throw fault >>= f else b) w := by
  split
  · exact (Reads.throw fault).edits.effect
  · exact hb

theorem Edits.mono (hpq : ∀ ref k, p ref k → q ref k) (h : Edits p w v) : Edits q w v := by
  refine ReflTransGen.mono (fun _ _ hs => ?_) _ _ h
  cases hs with
  | mk hp hc => exact .mk (hpq _ _ hp) hc

theorem EffectAt.mono {a : Run α} (hpq : ∀ ref k, p ref k → q ref k) (h : EffectAt p a w) :
    EffectAt q a w := by
  refine ⟨fun x v hv => ?_, fun reason v hv => ?_⟩
  · obtain ⟨u,hd,he⟩ := h.done x v hv
    exact ⟨u, hd, he.mono hpq⟩
  · rcases h.refused reason v hv with ⟨u,hd,he⟩ | ⟨u,hu,rfl⟩
    · exact .inl ⟨u, hd, he.mono hpq⟩
    · exact .inr ⟨u, hu.mono hpq, rfl⟩

/-- Edits go the same way whatever snapshots there are. -/
theorem Edits.elsewhere (h : Edits p w v) (snapshots : List Snapshot) :
    Edits p { w with snapshots := snapshots } { v with snapshots := snapshots } := by
  induction h with
  | refl => exact .refl
  | tail _ hs ih =>
    cases hs with
    | mk hp hc => exact ih.tail (.mk hp hc)

theorem Block.effect {f : Footprint} {a : Run α} (h : Block f a) (w : World) :
    EffectAt (f w) a w := by
  refine ⟨fun x v hv => ?_, fun reason v hv => .inr (h.refused hv)⟩
  obtain ⟨u,hu,⟨y,hy⟩ | ⟨reason,hr⟩ | ⟨fault,_,hf⟩⟩ := h.ends w
  · rw [hv] at hy
    cases hy
    exact (hu.elsewhere w.snapshots).effect
  · rw [hv] at hr
    cases hr
  · rw [hv] at hf
    cases hf

/-- A block that does not break off ends or is undone. -/
theorem Block.settled {f : Footprint} {a : Run α} (h : Block f a) (hs : Settled (a w).1) :
    (∃ x v, a w = (.ok x, v)) ∨
      ∃ reason v, a w = (.error (.revert reason), v) ∧ Undone (f w) w v := by
  cases hr : a w with
  | mk outcome v =>
    cases outcome with
    | ok x => exact .inl ⟨x, v, rfl⟩
    | error fault =>
      obtain ⟨reason,rfl⟩ := hs fault (by rw [hr])
      exact .inr ⟨reason, v, rfl, h.refused hr⟩

section Creation

theorem create_effect {make : Address → Contract} (hn : ∀ a, (make a).Newborn)
    (ha : ∀ a, (make a).address? = some a) : EffectAt p (create make) w :=
  ⟨fun _ _ hv => by cases hv; exact ⟨_, .created hn ha, .refl⟩, fun _ _ hv => by cases hv⟩

theorem createMorphoAdapter_effect (distributor : Value) :
    EffectAt p (createMorphoAdapter distributor) w := by
  refine .read (.lift _) fun m _ => ?_
  exact ⟨fun _ _ hv => by cases hv; exact ⟨_, .laid m, .refl⟩, fun _ _ hv => by cases hv⟩

theorem createSet_effect {controller : Ref} {order : SetOrder}
    (hf : p w.objects.length .founding) (hs : p w.objects.length .states) :
    EffectAt p (createSet controller order) w := by
  refine .guard (EffectAt.bind (create_effect (fun a => .setDraft a controller) fun _ => rfl) ?_)
  intro ref v hv
  obtain ⟨a,ha⟩ := content_create (fun a => .setDraft ⟨a, controller, none⟩) w
  cases hv
  exact furnish_edits order ha hf hs

theorem createEnabledSet_effect {controller : Ref} {order : SetOrder}
    (hf : p w.objects.length .founding) (hs : p w.objects.length .states)
    (hl : p controller .listing) : EffectAt p (createEnabledSet controller order) w := by
  refine (createSet_effect hf hs).bind fun ref v _ => ?_
  refine .read (setAddress_reads ref) fun a _ => ?_
  refine .read (controllerAt_reads controller) fun c hc => ?_
  refine .read (.lift _) fun c' h => ?_
  refine EditsAt.answer (setContent_edits hl ?_) _
  rw [controllerAt_ok hc]
  exact .listing (.setAdded h)

end Creation

section Deployment

/-- One effect after another. -/
abbrev Effects (p : Ref → Aspect → Prop) : World → World → Prop := ReflTransGen (Effect p)

/-- A deployment creates contracts and mints tokens. -/
theorem World.deployed_effects (hp : ∀ ref, p ref .ledger) (accounts : Nat → Address)
    (owner : Option String) : Effects p { accounts } (World.deployed accounts owner).2 := by
  have created : ∀ {make : Address → Contract} {w : World}, (∀ a, (make a).Newborn) →
      (∀ a, (make a).address? = some a) → KeepsAt (Effects p { accounts }) (Chain.create make) w :=
    fun hn ha h => h.tail ⟨_, .created hn ha, .refl⟩
  have hdeploying : Deploying (Effects p { accounts }) := by
    refine ⟨created (fun a => .registry a) fun _ => rfl, fun r => ?_,
      fun _ _ _ => created (fun a => .token a _ _ _) fun _ => rfl,
      fun h => h.tail ⟨_, .spent, .refl⟩, fun token _ _ _ h => ?_⟩
    · exact .read (registryAt_reads r) fun r _ =>
        created (fun a => .controller a r.address) fun _ => rfl
    · exact h.tail (Edits.effect (mint_edits (hp token) _ _))
  exact hdeploying.deployed accounts owner .refl

end Deployment

section Operations

theorem register_effect {ref : Ref} {given : Value}
    (hp : (Operation.register ref given).Proper w) : EffectAt p (register ref given) w := by
  obtain ⟨⟨m,hm⟩,hfree⟩ := hp
  unfold register
  split
  · refine .read (content_reads ref) fun c hc => ?_
    cases hc
    rw [hm]
    exact (Reads.throw _).edits.effect
  · refine .read (.lift _) fun a ha => ?_
    have hplaced : StructureChange w (w.register a ref) := .placed hm (hfree a ha)
    exact ⟨fun _ _ hv => by cases hv; exact ⟨_, hplaced, .refl⟩, fun _ _ hv => by cases hv⟩

theorem removeModule_effect (set : Ref) (caller module : Value) :
    EffectAt ((Operation.removeModule set caller module).touches w)
      (removeModule set caller module) w := by
  refine .read (onlyManager_reads set caller) fun _ _ => ?_
  refine .read (moduleState_reads set module) fun _ _ => .guard ?_
  refine .read (find_reads module) fun found hfound => ?_
  cases found with
  | none => exact (Reads.throw _).edits.effect
  | some m =>
    refine .read (content_reads m) fun c _ => ?_
    cases c with
    | claimModule _ =>
      have forgotten : EffectAt ((Operation.removeModule set caller module).touches w)
          (forgetSet m (.object set)) w :=
        (forgetSet_block.effect w).mono fun _ _ hp => .inl ⟨m, hfound, hp⟩
      exact forgotten.bind fun _ _ _ => setState_edits module (.inr ⟨rfl, rfl⟩) .none
    | _ => exact (Reads.throw _).edits.effect

/-- Everything that an operation can do without breaking off, but for bringing a snapshot back. -/
theorem Operation.effect (o : Operation) (h : o.Proper w) (hn : ∀ id, o ≠ .revert id) :
    EffectAt (o.touches w) o.run w := by
  cases o with
  | snapshot =>
    exact ⟨fun _ _ hv => by cases hv; exact ⟨_, .taken, .refl⟩, fun _ _ hv => by cases hv⟩
  | revert id => exact absurd rfl (hn id)
  | release id =>
    exact ⟨fun _ _ hv => by cases hv; exact ⟨_, .dropped _, .refl⟩, fun _ _ hv => by cases hv⟩
  | register ref a => exact (register_effect h).answer _
  | createRegistry => exact (create_effect (fun a => .registry a) fun _ => rfl).answer _
  | createController registry =>
    refine EffectAt.answer (.read (registryAt_reads registry) fun r _ => ?_) _
    exact create_effect (fun a => .controller a r.address) fun _ => rfl
  | createToken name symbol decimals =>
    exact (create_effect (fun a => .token a name symbol decimals) fun _ => rfl).answer _
  | createClaimAdapter =>
    exact (create_effect (fun a => .claimAdapter a _ _ _) fun _ => rfl).answer _
  | createClaimModule controller =>
    exact (create_effect (fun a => .claimModule a controller) fun _ => rfl).answer _
  | createMorphoAdapter distributor => exact (createMorphoAdapter_effect distributor).answer _
  | createSet controller order =>
    exact (createSet_effect ⟨Nat.le_refl _, .inl rfl⟩ ⟨Nat.le_refl _, .inr rfl⟩).answer _
  | createEnabledSet controller order =>
    exact (createEnabledSet_effect (.inl ⟨Nat.le_refl _, .inl rfl⟩)
      (.inl ⟨Nat.le_refl _, .inr rfl⟩) (.inr ⟨rfl, rfl⟩)).answer _
  | removeModule s caller module => exact (removeModule_effect s caller module).answer _
  | activate | updateAnyoneClaim | addClaim | batchAddClaim | removeClaim | batchRemoveClaim
  | forgetSet | claim | batchClaim => exact (Operation.block (by trivial)).effect w
  | _ => exact (Operation.run_edits (by trivial)).effect

end Operations

end Basketry.Chain
