import Basketry.Proofs.Blocks

namespace Basketry.Chain

variable {p : Ref → Aspect → Prop} {floor : Nat} {w v : World}

/-- A set that is named by a caller who manages it. -/
def Manages (caller given : Value) (w : World) (set : Ref) : Prop :=
  (resolveSet given w).1 = .ok set ∧ (onlySetManager set caller w).1 = .ok ()

/-- The settings of a set that its manager names. -/
def managed (module : Ref) (caller given : Value) : Footprint := fun w ref k =>
  ref = module ∧ ∃ set a, Manages caller given w set ∧ (w.content set).address? = some a ∧
    k = .settings a

/-- The settings of a set that anyone names. -/
def named (module : Ref) (given : Value) : Footprint := fun w ref k =>
  ref = module ∧ ∃ set a, (resolveSet given w).1 = .ok set ∧
    (w.content set).address? = some a ∧ k = .settings a

/-- The tokens, the basket of the set that claims, and the events of the module. -/
def claimed (module : Ref) (caller given : Value) : Footprint := fun w ref k =>
  ∃ set, (claimableSet module caller given w).1 = .ok set ∧
    (k = .ledger ∨ (ref = set ∧ k = .basket) ∨ (ref = module ∧ k = .events))

/-- A new object, whose content is still to be filled in. -/
def fresh : Footprint := fun w ref k => w.objects.length ≤ ref ∧ (k = .founding ∨ k = .states)

namespace Operation

/-- What an operation may change. A snapshot that comes back is not counted. -/
def touches : Operation → Footprint
  | .call _ _ _ | .invoke _ _ _ _ => fun _ _ k => k = .ledger
  | .mint r _ _ | .transfer r _ _ _ => fun _ ref k => ref = r ∧ k = .ledger
  | .setRewards r _ => fun _ ref k => ref = r ∧ k = .rewards
  | .createSet _ _ => fresh
  | .createEnabledSet c _ => fun w ref k => fresh w ref k ∨ (ref = c ∧ k = .listing)
  | .addIntegration r _ _ _ | .editIntegration r _ _ _
  | .removeIntegration r _ _ => fun _ ref k => ref = r ∧ k = .integrations
  | .addSet r _ | .removeSet r _ | .enableModule r _ => fun _ ref k => ref = r ∧ k = .listing
  | .addModule r _ _ | .initializeModule r _ => fun _ ref k => ref = r ∧ k = .states
  | .setManager r _ _ => fun _ ref k => ref = r ∧ k = .manager
  | .addComponent r _ _ | .removeComponent r _ _ | .setUnit r _ _ _
  | .recalculate r _ _ _ => fun _ ref k => ref = r ∧ k = .basket
  | .removeModule set _ module => fun w ref k =>
    (∃ m, (Chain.find module w).1 = .ok (some m) ∧ named m (.object set) w ref k) ∨
      (ref = set ∧ k = .states)
  | .activate module caller set _ _ _ => fun w ref k =>
    managed module caller set w ref k ∨ (Manages caller set w ref ∧ k = .states)
  | .updateAnyoneClaim module caller set _ | .addClaim module caller set _ _
  | .batchAddClaim module caller set _ _ | .removeClaim module caller set _ _
  | .batchRemoveClaim module caller set _ _ => managed module caller set
  | .forgetSet module set => named module set
  | .claim module caller set _ _ _
  | .batchClaim module caller set _ _ _ => claimed module caller set
  | _ => fun _ _ _ => False

/-- The mutating calls of a claim module. Each is one block. -/
def IsModuleCall : Operation → Prop
  | .activate .. | .updateAnyoneClaim .. | .addClaim .. | .batchAddClaim .. | .removeClaim ..
  | .batchRemoveClaim .. | .forgetSet .. | .claim .. | .batchClaim .. => True
  | _ => False

end Operation

section Guarded
variable {module : Ref} {caller given : Value}

/-- What is read at the beginning of a block is read of the world before it. -/
theorem EditsAt.first {a : Run α} {f : α → Run β} (ha : Reads a)
    (hf : ∀ x, (a w).1 = .ok x → EditsAt p (f x) w.snapshot.2) : EditsAt p (a >>= f) w.snapshot.2 :=
  .read ha fun x hx => hf x (by rwa [← ha.answer w])

theorem managedSet_ok {set : Ref} (h : (managedSet module caller given w).1 = .ok set) :
    Manages caller given w set ∧ (onlyInitializedSet module set w).1 = .ok () := by
  have hrun := (managedSet_reads module caller given).run_ok h
  obtain ⟨r,hr,hrun⟩ := (resolveSet_reads given).bind_ok hrun
  obtain ⟨_,hm,hrun⟩ := (onlySetManager_reads r caller).bind_ok hrun
  obtain ⟨_,hi,hrun⟩ := (onlyInitializedSet_reads module r).bind_ok hrun
  cases hrun
  exact ⟨⟨hr,hm⟩, hi⟩

/-- The calls by which a manager changes settings differ in what they do once the set is found. -/
theorem managed_block {change : Ref → Run Unit}
    (hc : ∀ {p : Ref → Aspect → Prop} {w : World} (set : Ref),
      (∀ a, (w.content set).address? = some a → p module (.settings a)) →
      EditsAt p (change set) w) :
    Block (managed module caller given)
      (atomically (managedSet module caller given >>= change)) := by
  refine ⟨_, rfl, fun w => ?_⟩
  apply EditsAt.first (managedSet_reads module caller given)
  intro set hs
  apply hc set
  intro a ha
  have hmanages := (managedSet_ok hs).1
  exact ⟨rfl, set, a, hmanages, ha, rfl⟩

theorem updateAnyoneClaim_block (anyone : Bool) :
    Block (managed module caller given) (updateAnyoneClaim module caller given anyone) :=
  managed_block fun _ hp => setAnyone_edits hp anyone

theorem addClaim_block (pool : Value) (name : String) :
    Block (managed module caller given) (addClaim module caller given pool name) :=
  managed_block fun _ hp => addOne_edits pool name hp

theorem batchAddClaim_block (pools : List Value) (names : List String) :
    Block (managed module caller given) (batchAddClaim module caller given pools names) :=
  managed_block fun _ hp => addAll_edits pools names hp

theorem removeClaim_block (pool : Value) (name : String) :
    Block (managed module caller given) (removeClaim module caller given pool name) :=
  managed_block fun _ hp => removeOne_edits pool name hp

theorem batchRemoveClaim_block (pools : List Value) (names : List String) :
    Block (managed module caller given) (batchRemoveClaim module caller given pools names) :=
  managed_block fun _ hp => removeAll_edits pools names hp

theorem Manages.before {set : Ref} (h : Manages caller given w.snapshot.2 set) :
    Manages caller given w set := by
  obtain ⟨hs,hm⟩ := h
  exact ⟨((resolveSet_reads given).answer w _).symm.trans hs,
    ((onlySetManager_reads set caller).answer w _).symm.trans hm⟩

/-- What a module does before a set takes it as initialized, up to the set and its own address. -/
def arrange (module : Ref) (caller given : Value) (anyone : Bool) (pools : List Value)
    (names : List String) : Run (Ref × Address) := do
  let set ← resolveSet given
  onlySetManager set caller
  onlyPendingSet module set
  addAll module set pools names
  let address ← setAddress set
  updateSettings module fun c => .ok (c.setAnyone address anyone)
  return (set, (← moduleAt module).address)

theorem activate_eq (anyone : Bool) (pools : List Value) (names : List String) :
    activate module caller given anyone pools names =
      atomically (arrange module caller given anyone pools names >>= fun x =>
        initializeModule x.1 x.2.toValue) := by
  unfold activate arrange
  simp only [bind_assoc, pure_bind]

/-- All of it is about settings of a set that the caller manages. -/
theorem arrange_edits (anyone : Bool) (pools : List Value) (names : List String)
    (hp : ∀ set a, Manages caller given w set → (w.content set).address? = some a →
      p module (.settings a)) :
    EditsAt p (arrange module caller given anyone pools names) w := by
  refine .read (resolveSet_reads given) fun set hs => ?_
  refine .read (onlySetManager_reads set caller) fun _ hm => ?_
  refine .read (onlyPendingSet_reads module set) fun _ _ => ?_
  have hset : ∀ a, (w.content set).address? = some a → p module (.settings a) :=
    fun a => hp set a ⟨hs,hm⟩
  have ha := addAll_edits (w := w) pools names hset
  refine ha.bind fun _ v hv => ?_
  have hkept : ∀ a, (v.content set).address? = some a → p module (.settings a) := by
    intro a h
    rw [(ha.reached hv).address set] at h
    exact hset a h
  refine .read (setAddress_reads set) fun a haddress => ?_
  refine (updateSettings_edits (hkept a (setAddress_ok haddress).2) ?_).bind fun _ u _ => ?_
  · intro c c' h
    cases h
    exact .opened c anyone
  · exact .read (moduleAt_reads module) fun m _ => (Reads.pure _).edits

theorem arrange_ok {anyone : Bool} {pools : List Value} {names : List String} {x : Ref × Address}
    (h : arrange module caller given anyone pools names w = (.ok x, v)) :
    Manages caller given w x.1 := by
  obtain ⟨set,hs,h⟩ := (resolveSet_reads given).bind_ok h
  obtain ⟨_,hm,h⟩ := (onlySetManager_reads set caller).bind_ok h
  obtain ⟨_,_,h⟩ := (onlyPendingSet_reads module set).bind_ok h
  obtain ⟨_,_,_,h⟩ := bind_ok h
  obtain ⟨_,_,h⟩ := (setAddress_reads set).bind_ok h
  obtain ⟨_,_,_,h⟩ := bind_ok h
  obtain ⟨m,_,h⟩ := (moduleAt_reads module).bind_ok h
  cases h
  exact ⟨hs,hm⟩

/-- The settings are all in place before the set takes the module as initialized. -/
theorem activate_block (anyone : Bool) (pools : List Value) (names : List String) :
    Block (Operation.touches (.activate module caller given anyone pools names))
      (activate module caller given anyone pools names) := by
  refine ⟨_, activate_eq anyone pools names, fun w => ?_⟩
  refine EditsAt.bind (arrange_edits anyone pools names fun set a hm ha => ?_) fun x v hx => ?_
  · exact .inl ⟨rfl, set, a, hm.before, ha, rfl⟩
  · exact initializeModule_edits _ (.inr ⟨(arrange_ok hx).before, rfl⟩)

theorem forgetSet_block : Block (named module given) (forgetSet module given) := by
  refine ⟨_, rfl, fun w => ?_⟩
  refine .first (resolveSet_reads given) fun set hs => ?_
  refine .read (setAddress_reads set) fun a ha => ?_
  refine updateSettings_edits ?_ fun _ _ h => .cleared h
  exact ⟨rfl, set, a, hs, (setAddress_ok ha).2, rfl⟩

/-- Each claim for the set stays within the footprint, wherever a batch has come to. -/
theorem claim_claimed {set : Ref} {u : World}
    (hs : (claimableSet module caller given w).1 = .ok set) (pool claimData : Value)
    (name : String) :
    EditsAt (claimed module caller given w) (claimOne module set pool name claimData) u := by
  apply claimOne_edits pool claimData name
  · exact fun _ => ⟨set, hs, .inl rfl⟩
  · exact ⟨set, hs, .inr (.inl ⟨rfl, rfl⟩)⟩
  · exact ⟨set, hs, .inr (.inr ⟨rfl, rfl⟩)⟩

theorem claim_block (pool : Value) (name : String) (claimData : Value) :
    Block (claimed module caller given) (claim module caller given pool name claimData) := by
  refine ⟨_, rfl, fun w => ?_⟩
  refine .first (claimableSet_reads module caller given) fun set hs => ?_
  exact claim_claimed hs pool claimData name

theorem batchClaim_block (pools : List Value) (names : List String) (data : List Value) :
    Block (claimed module caller given) (batchClaim module caller given pools names data) := by
  refine ⟨_, rfl, fun w => ?_⟩
  refine .first (claimableSet_reads module caller given) fun set hs => ?_
  refine .read (checkArrays_reads pools names) fun _ _ => ?_
  refine .guard fun _ => ?_
  refine .mapM fun e _ v _ => ?_
  exact claim_claimed hs e.1.1 e.2 e.1.2

end Guarded

theorem Operation.block {o : Operation} (h : o.IsModuleCall) : Block o.touches o.run := by
  cases o with
  | activate module caller set anyone pools names => exact (activate_block anyone pools names).map _
  | updateAnyoneClaim module caller set anyone => exact (updateAnyoneClaim_block anyone).map _
  | addClaim module caller set pool name => exact (addClaim_block pool name).map _
  | batchAddClaim module caller set pools names => exact (batchAddClaim_block pools names).map _
  | removeClaim module caller set pool name => exact (removeClaim_block pool name).map _
  | batchRemoveClaim module caller set pools names =>
    exact (batchRemoveClaim_block pools names).map _
  | forgetSet module set => exact forgetSet_block.map _
  | claim module caller set pool name data => exact (claim_block pool name data).map _
  | batchClaim module caller set pools names data => exact (batchClaim_block pools names data).map _
  | _ => exact h.elim

end Basketry.Chain
