import Basketry.Proofs.WorldsAlike

namespace Basketry.Chain
open World.Alike ClaimSettings

variable {w v : World}

theorem bind_alike {α : Type} {left right : Except Fault World} {f : World → Run α}
    (h : Outcomes World.Alike left right)
    (hf : ∀ u u', u.Alike u' → Parallel World.Alike (f u) (f u')) :
    Parallel World.Alike ((liftM left : Run World) >>= f) ((liftM right : Run World) >>= f) := by
  cases h with
  | ok h => exact hf _ _ h
  | error fault => exact .throw fault

theorem modifyGet_alike {f : World → α × World}
    (h : ∀ w v, w.Alike v → (f v).1 = (f w).1 ∧ (f w).2.Alike (f v).2) :
    Tracked World.Alike (modifyGet f : Run α) :=
  fun w v hw => ⟨congrArg Except.ok (h w v hw).1, (h w v hw).2⟩

namespace World.Alike

/-- A number names a snapshot in both worlds or in none. -/
theorem found (h : w.Alike v) (n : Nat) : w.snapshots[n]? = none ∧ v.snapshots[n]? = none ∨
    ∃ s t, w.snapshots[n]? = some s ∧ v.snapshots[n]? = some t ∧ s.Alike t := by
  obtain ⟨_,_,_,hs,_,_⟩ := h
  generalize w.snapshots = left, v.snapshots = right at hs
  induction hs generalizing n with
  | nil => exact .inl ⟨rfl, rfl⟩
  | @cons s t _ _ hst _ ih =>
    cases n with
    | zero => exact .inr ⟨s, t, rfl, rfl, hst⟩
    | succ n => exact ih n

theorem revert (h : w.Alike v) (id : Int) : Outcomes World.Alike (w.revert id) (v.revert id) := by
  unfold World.revert
  split
  · exact .error _
  · rcases h.found id.toNat with ⟨hw,hv⟩ | ⟨s,t,hw,hv,hst⟩
    · rw [hw, hv]
      exact .error _
    · rw [hw, hv]
      exact .ok ((h.take id.toNat).restore hst)

theorem release (h : w.Alike v) (id : Int) : (w.release id).Alike (v.release id) := by
  unfold World.release
  rw [h.snapshots.length_eq]
  exact h.take _

theorem settle (h : w.Alike v) (id : Nat) (outcome : Except Fault α) :
    (v.settle id outcome).1 = (w.settle id outcome).1 ∧
      (w.settle id outcome).2.Alike (v.settle id outcome).2 := by
  rcases World.outcome_cases outcome with ⟨x,rfl⟩ | ⟨reason,rfl⟩ | ⟨fault,rfl,hf⟩
  · exact ⟨rfl, h.release id⟩
  · rw [World.settle_refusal, World.settle_refusal]
    rcases h.found id with ⟨hw,hv⟩ | ⟨s,t,hw,hv,hst⟩
    · rw [hw, hv]
      exact ⟨rfl, h⟩
    · rw [hw, hv]
      exact ⟨rfl, (h.take id).restore hst⟩
  · rw [World.settle_fault hf, World.settle_fault hf]
    exact ⟨rfl, h⟩

end World.Alike

theorem atomically_alike {b : Run α} (hb : Tracked World.Alike b) :
    Tracked World.Alike (atomically b) := by
  intro w v h
  have hblock := hb _ _ h.snapshot
  rw [atomically_run, atomically_run, hblock.1, h.snapshots.length_eq]
  exact hblock.2.settle _ _

section Creation
variable (controller : Ref) (order : SetOrder)

theorem create_alike (make : Address → Contract) : Tracked World.Alike (create make) := by
  refine modifyGet_alike fun w v h => ⟨h.objects, ?_⟩
  have hmade := (h.allocate (make (w.accounts w.drawn))).draw.register (w.accounts w.drawn)
    w.objects.length
  simpa only [World.create, World.allocate, h.accounts, h.drawn, h.objects] using hmade

theorem createController_alike : Tracked World.Alike (createController controller) :=
  .bind (registryAt_tracked tracks controller) fun _ => create_alike _

theorem createMorphoAdapter_alike (distributor : Value) :
    Tracked World.Alike (createMorphoAdapter distributor) :=
  .bind (.lift _) fun m => modifyGet_alike fun _ _ h => ⟨h.objects, h.allocate (.morphoAdapter m)⟩

theorem addPending_alike (ref : Ref) (module : Value) :
    Tracked World.Alike (addPending ref module) := by
  refine .byKind tracks ref (fun c => ?_) fun _ _ => rfl
  cases c with
  | setToken s => exact .bind (.lift _) fun _ => setContent_tracked tracks ref _
  | _ => exact .throw _

theorem createSet_alike : Tracked World.Alike (createSet controller order) := by
  refine .guard (.bind (create_alike _) fun ref => ?_)
  refine .bind (setAddress_tracked tracks ref) fun a => ?_
  refine .bind (.lift _) fun manager => ?_
  refine .bind (setContent_tracked tracks ref _) fun _ => ?_
  refine .bind (.mapM fun _ => .lift _) fun components => ?_
  refine .bind (setContent_tracked tracks ref _) fun _ => ?_
  exact .bind (.forM fun module => addPending_alike ref module) fun _ => .pure ref

theorem createEnabledSet_alike : Tracked World.Alike (createEnabledSet controller order) := by
  refine .bind (createSet_alike controller order) fun ref => ?_
  refine .bind (setAddress_tracked tracks ref) fun a => ?_
  refine .bind (controllerAt_tracked tracks controller) fun c => ?_
  refine .bind (.lift _) fun c' => ?_
  exact .bind (setContent_tracked tracks controller _) fun _ => .pure ref

theorem register_alike (ref : Ref) (a : Value) : Tracked World.Alike (register ref a) := by
  have placed : ∀ a : Address,
      Tracked World.Alike (do modify (·.register a ref); return a : Run Address) :=
    fun a => .bind (modifyGet_alike fun _ _ h => ⟨rfl, h.register a ref⟩) fun _ => .pure a
  unfold register
  refine .ite ?_ (.bind (.lift _) placed)
  refine .byContent tracks ref (fun c => ?_) fun m c _ => placed m.address
  cases c.address? with
  | none => exact .throw _
  | some own => exact .bind (.pure own) placed

end Creation

section Modules
variable (module set : Ref) (caller given pool claimData : Value) (name : String)
  (pools data : List Value) (names : List String)

theorem setAnyone_tracked (a : Address) (flag : Bool) :
    Tracked World.Alike (updateSettings module fun c => .ok (c.setAnyone a flag)) :=
  updateSettings_tracked tracks module fun _ _ h => .ok (likeness_alike.anyone h a flag)

theorem activate_alike (anyone : Bool) :
    Tracked World.Alike (activate module caller given anyone pools names) :=
  atomically_alike (activation_tracked tracks likeness_alike module given caller pools names anyone)

/-- A manager's call, which does one thing to the set. -/
theorem managed_alike {f : Ref → Run Unit} (hf : ∀ set, Tracked World.Alike (f set)) :
    Tracked World.Alike (atomically do f (← managedSet module caller given)) :=
  atomically_alike (.bind (managedSet_tracked tracks module given caller) hf)

theorem forgetSet_alike : Tracked World.Alike (forgetSet module given) :=
  atomically_alike (forgetting_tracked tracks likeness_alike module given)

theorem claim_alike : Tracked World.Alike (claim module caller given pool name claimData) := by
  refine atomically_alike (.bind (claimableSet_tracked tracks likeness_alike module given caller)
    fun set => ?_)
  exact claimOne_tracked tracks likeness_alike module set pool claimData name

theorem batchClaim_alike :
    Tracked World.Alike (batchClaim module caller given pools names data) := by
  refine atomically_alike (.bind (claimableSet_tracked tracks likeness_alike module given caller)
    fun set => ?_)
  refine .bind (checkArrays_tracked pools names) fun _ => .guard (.mapM fun x => ?_)
  exact claimOne_tracked tracks likeness_alike module set x.1.1 x.2 x.1.2

theorem removeModule_alike (value : Value) :
    Tracked World.Alike (removeModule set caller value) := by
  have dropped : Tracked World.Alike (do
      setContent set (.setToken ((← setAt set).setModuleState (← Address.ofValue value) .none))) :=
    .bind (setAt_tracked tracks set) fun _ => .bind (.lift _) fun _ =>
      setContent_tracked tracks set _
  refine .bind (onlyManager_tracked tracks set caller) fun _ => ?_
  refine .bind (moduleState_tracked tracks set value) fun _ => .guard ?_
  refine .byFound (find_tracked tracks value) (fun ref => ?_) (.throw _)
  refine .byKind tracks ref (fun c => ?_) fun _ _ => rfl
  cases c with
  | claimModule m => exact .bind (forgetSet_alike ref (.object set)) fun _ => dropped
  | _ => exact .throw _

end Modules

section Histories

theorem Parallel.answer {R : World → World → Prop} {a : Run α} (h : Tracked R a) (f : α → β) :
    Tracked R (a >>= fun x => Pure.pure (f x)) :=
  .bind h fun x => .pure (f x)

theorem revertTo_alike (id : Int) : Tracked World.Alike (revertTo id) :=
  .state fun _ _ h => bind_alike (h.revert id) fun _ _ hback _ _ _ => ⟨rfl, hback⟩

theorem Operation.run_alike (o : Operation) : Tracked World.Alike o.run := by
  cases o with
  | snapshot =>
    refine .answer (modifyGet_alike fun w v h => ⟨?_, h.snapshot⟩) _
    exact h.snapshots.length_eq.symm
  | revert id => exact .answer (revertTo_alike id) _
  | release id => exact .answer (modifyGet_alike fun _ _ h => ⟨rfl, h.release id⟩) _
  | register ref a => exact .answer (register_alike ref a) _
  | find a => exact .answer (find_tracked tracks a) _
  | call sender target data => exact .answer (call_tracked tracks sender target data) _
  | balanceOf token holder => exact .answer (balanceOf_tracked tracks token holder) _
  | createRegistry => exact .answer (create_alike _) _
  | createController registry => exact .answer (createController_alike registry) _
  | createToken name symbol decimals => exact .answer (create_alike _) _
  | createClaimAdapter => exact .answer (create_alike _) _
  | createClaimModule controller => exact .answer (create_alike _) _
  | createMorphoAdapter distributor => exact .answer (createMorphoAdapter_alike distributor) _
  | createSet controller order => exact .answer (createSet_alike controller order) _
  | createEnabledSet controller order => exact .answer (createEnabledSet_alike controller order) _
  | addIntegration r module name adapter =>
    exact .answer (integration_tracked tracks r module adapter name Registry.expectAbsent) _
  | editIntegration r module name adapter =>
    exact .answer (integration_tracked tracks r module adapter name Registry.expectPresent) _
  | removeIntegration r module name =>
    exact .answer (removeIntegration_tracked tracks r module name) _
  | integrationAdapter r module name =>
    exact .answer (integrationAdapter_tracked tracks r module name) _
  | isValidIntegration r module name =>
    exact .answer (.answer (integrationAdapter_tracked tracks r module name) _) _
  | addSet c set => exact .answer (listing_tracked tracks c set Controller.addSet) _
  | removeSet c set => exact .answer (listing_tracked tracks c set Controller.removeSet) _
  | enableModule c module => exact .answer (listing_tracked tracks c module Controller.addModule) _
  | isSet c set => exact .answer (isSet_tracked tracks c set) _
  | isModule c module => exact .answer (isModule_tracked tracks c module) _
  | integrationRegistry c => exact .answer (integrationRegistry_tracked tracks c) _
  | tokenBalance t holder =>
    exact .bind (tokenAt_tracked tracks t) fun _ => .bind (.lift _) fun _ => .pure _
  | mint t receiver amount => exact .answer (mint_tracked tracks t receiver amount) _
  | transfer t sender receiver amount =>
    exact .answer (transfer_tracked tracks t sender receiver amount) _
  | setRewards a rewards => exact .answer (setRewards_tracked tracks a rewards) _
  | adapterRewards a => exact .answer (adapterRewards_tracked tracks a) _
  | adapterToken a pool => exact .answer (adapterToken_tracked tracks a pool) _
  | adapterCall a set pool data => exact .answer (adapterCall_tracked tracks a set pool data) _
  | moduleState s module => exact .answer (moduleState_tracked tracks s module) _
  | hasModuleState s module state =>
    exact .answer (hasModuleState_tracked tracks s module state) _
  | modules s => exact .answer (setAt_tracked tracks s) _
  | addModule s caller module => exact .answer (addModule_tracked tracks s caller module) _
  | initializeModule s caller => exact .answer (initializeModule_tracked tracks s caller) _
  | removeModule s caller module => exact .answer (removeModule_alike s caller module) _
  | setManager s caller manager => exact .answer (setManager_tracked tracks s caller manager) _
  | invoke s caller target data => exact .answer (invoke_tracked tracks s caller target data) _
  | components s => exact .answer (setAt_tracked tracks s) _
  | isComponent s component => exact .answer (isComponent_tracked tracks s component) _
  | positionUnit s component => exact .answer (positionUnit_tracked tracks s component) _
  | addComponent s caller component =>
    exact .answer (addComponent_tracked tracks s caller component) _
  | removeComponent s caller component =>
    exact .answer (removeComponent_tracked tracks s caller component) _
  | setUnit s caller component unit =>
    exact .answer (setUnit_tracked tracks s caller component unit) _
  | recalculate s caller component before =>
    exact .answer (recalculate_tracked tracks s caller component before) _
  | activate m caller set anyone pools names =>
    exact .answer (activate_alike m caller set pools names anyone) _
  | updateAnyoneClaim m caller set anyone =>
    exact .answer (managed_alike m caller set fun set =>
      .bind (setAddress_tracked tracks set) fun a => setAnyone_tracked m a anyone) _
  | addClaim m caller set pool name =>
    exact .answer (managed_alike m caller set fun set =>
      addOne_tracked tracks likeness_alike m set pool name) _
  | batchAddClaim m caller set pools names =>
    exact .answer (managed_alike m caller set fun set =>
      addAll_tracked tracks likeness_alike m set pools names) _
  | removeClaim m caller set pool name =>
    exact .answer (managed_alike m caller set fun set =>
      removeOne_tracked tracks likeness_alike m set pool name) _
  | batchRemoveClaim m caller set pools names =>
    exact .answer (managed_alike m caller set fun set =>
      removeAll_tracked tracks likeness_alike m set pools names) _
  | forgetSet m set => exact .answer (forgetSet_alike m set) _
  | claim m caller set pool name data => exact .answer (claim_alike m caller set pool data name) _
  | batchClaim m caller set pools names data =>
    exact .answer (batchClaim_alike m caller set pools data names) _
  | anyoneMayClaim m set => exact .answer (anyoneMayClaim_tracked tracks likeness_alike m set) _
  | rewardPools m set => exact .answer (rewardPools_tracked tracks likeness_alike m set) _
  | rewardPoolAt m set index =>
    exact .answer (rewardPoolAt_tracked tracks likeness_alike m set index) _
  | isRewardPool m set pool =>
    exact .answer (isRewardPool_tracked tracks likeness_alike m set pool) _
  | rewardPoolClaims m set pool =>
    exact .answer (rewardPoolClaims_tracked tracks likeness_alike m set pool) _
  | isClaimRegistered m set pool adapter =>
    exact .answer (isClaimRegistered_tracked tracks likeness_alike m set pool adapter) _
  | isRewardPoolClaim m set pool name =>
    exact .answer (isRewardPoolClaim_tracked tracks likeness_alike m set pool name) _
  | rewardsOf m set pool name =>
    exact .answer (rewardsOf_tracked tracks likeness_alike m set pool name) _

/-- A fault that is caught leaves its world. -/
theorem Parallel.caught {R : World → World → Prop} {a : Run α} {x : α} (ha : Tracked R a) :
    Tracked R (tryCatch a fun _ => Pure.pure x) := by
  intro w v h
  have hrun := ha w v h
  rw [tryCatch_run, tryCatch_run]
  generalize a w = left, a v = right at hrun ⊢
  obtain ⟨outcome,w'⟩ := left
  obtain ⟨outcome',v'⟩ := right
  obtain ⟨rfl,hworld⟩ := hrun
  cases outcome' with
  | ok y => exact ⟨rfl, hworld⟩
  | error fault => exact ⟨rfl, hworld⟩

mutual

theorem Step.run_alike : (s : Step) → Tracked World.Alike s.run
  | .operation o => o.run_alike
  | .fail fault => .throw fault
  | .attempt steps => .caught (.answer (runSteps_alike steps) _)
  | .transaction steps => atomically_alike (.answer (runSteps_alike steps) _)

theorem runSteps_alike : (ss : List Step) → Tracked World.Alike (runSteps ss)
  | [] => .pure []
  | s :: ss => .bind s.run_alike fun _ => .answer (runSteps_alike ss) _

end

/-- What each step of a history answers, or the fault with which it fails. -/
def World.answers (w : World) : List Step → List (Except Fault Answer)
  | [] => []
  | s :: history => (s.run w).1 :: (s.run w).2.answers history

/-- Worlds that are alike cannot be told apart. -/
theorem World.Alike.answers (h : w.Alike v) (history : List Step) :
    v.answers history = w.answers history := by
  induction history generalizing w v with
  | nil => rfl
  | cons s history ih =>
    have hfirst := s.run_alike w v h
    rw [World.answers, World.answers, hfirst.1, ih hfirst.2]

end Histories

end Basketry.Chain
