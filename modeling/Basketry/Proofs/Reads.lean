import Basketry.Chain.Operation

namespace Basketry.Chain

theorem bind_run (a : Run α) (f : α → Run β) (w : World) :
    (a >>= f) w = match a w with
      | (.ok x, w') => f x w'
      | (.error fault, w') => (.error fault, w') := by
  change ExceptT.bindCont f (a w).1 (a w).2 = _
  rcases a w with ⟨_ | x, w'⟩ <;> rfl

theorem bind_of_ok {a : Run α} (h : a w = (.ok x, v)) (f : α → Run β) : (a >>= f) w = f x v := by
  rw [bind_run, h]

theorem bind_ok {a : Run α} {f : α → Run β} {y : β} (h : (a >>= f) w = (.ok y, w')) :
    ∃ x v, a w = (.ok x, v) ∧ f x v = (.ok y, w') := by
  rw [bind_run] at h
  split at h
  · rename_i x v ha
    exact ⟨x, v, ha, h⟩
  · cases h

/-- What is made of the answer of an action. -/
theorem answer_run (a : Run α) (f : α → β) (w : World) :
    (a >>= fun x => pure (f x)) w = ((a w).1.map f, (a w).2) := by
  rw [bind_run]
  rcases a w with ⟨_ | x, v⟩ <;> rfl

/-- An action that neither changes the world nor looks at its snapshots. -/
def Reads (a : Run α) : Prop :=
  ∀ w snapshots, a { w with snapshots := snapshots } = ((a w).1, { w with snapshots := snapshots })

theorem Reads.run {a : Run α} (h : Reads a) (w : World) : a w = ((a w).1, w) := h w w.snapshots

theorem Reads.world {a : Run α} (h : Reads a) (w : World) : (a w).2 = w := by rw [h.run w]

theorem Reads.answer {a : Run α} (h : Reads a) (w : World) (snapshots : List Snapshot) :
    (a { w with snapshots := snapshots }).1 = (a w).1 := by
  rw [h w snapshots]

theorem Reads.ok {a : Run α} (h : Reads a) (hx : a w = (.ok x, w')) :
    (a w).1 = .ok x ∧ w' = w := by
  have hw := h.world w
  rw [hx] at hw ⊢
  exact ⟨rfl, hw⟩

theorem Reads.run_ok {a : Run α} (h : Reads a) (hx : (a w).1 = .ok x) : a w = (.ok x, w) := by
  rw [h.run w, hx]

theorem Reads.pure (x : α) : Reads (pure x : Run α) := fun _ _ => rfl

theorem Reads.throw (fault : Fault) : Reads (throw fault : Run α) := fun _ _ => rfl

theorem Reads.lift (e : Except Fault α) : Reads (liftM e : Run α) := fun _ _ => rfl

theorem Reads.bind {a : Run α} {f : α → Run β} (ha : Reads a) (hf : ∀ x, Reads (f x)) :
    Reads (a >>= f) := by
  intro w snapshots
  rw [bind_run, bind_run, ha w snapshots, ha.run w]
  cases (a w).1 with
  | ok x => exact hf x w snapshots
  | error fault => rfl

theorem Reads.ite {c : Prop} [Decidable c] {a b : Run α} (ha : Reads a) (hb : Reads b) :
    Reads (if c then a else b) := by
  split
  · exact ha
  · exact hb

/-- Something may be found or not, and what is read then differs. -/
theorem Reads.byFound {a : Run (Option α)} {f : Option α → Run β} (ha : Reads a)
    (hf : ∀ x, Reads (f (some x))) (hn : Reads (f none)) : Reads (a >>= f) := by
  apply Reads.bind ha
  intro found
  cases found with
  | none => exact hn
  | some x => exact hf x

theorem Reads.mapM {xs : List α} {f : α → Run β} (hf : ∀ x, Reads (f x)) : Reads (xs.mapM f) := by
  induction xs with
  | nil => exact .pure _
  | cons x xs ih =>
    rw [List.mapM_cons]
    exact .bind (hf x) fun _ => .bind ih fun _ => .pure _

/-- A refusal in front of what is read. -/
theorem Reads.guard {c : Prop} [Decidable c] {fault : Fault} {f : β → Run α} {b : Run α}
    (hb : Reads b) : Reads (if c then MonadExcept.throw fault >>= f else b) :=
  .ite (.throw fault) hb

/-- The whole world may be read as long as its snapshots make no difference. -/
theorem Reads.state {f : World → Run α}
    (hs : ∀ w snapshots, f { w with snapshots := snapshots } = f w)
    (hf : ∀ w, Reads (f w)) : Reads (get >>= f) := by
  intro w snapshots
  change f { w with snapshots := snapshots } { w with snapshots := snapshots } = _
  rw [hs]
  exact hf w w snapshots

theorem Reads.bind_ok {a : Run α} {f : α → Run β} (ha : Reads a) (h : (a >>= f) w = (.ok y, w')) :
    ∃ x, (a w).1 = .ok x ∧ f x w = (.ok y, w') := by
  obtain ⟨x,v,hx,hf⟩ := Chain.bind_ok h
  obtain ⟨hx,rfl⟩ := ha.ok hx
  exact ⟨x, hx, hf⟩

/-- What comes after a reading fails with it, or goes on from the same world. -/
theorem Reads.bind_cases {a : Run α} {f : α → Run β} {outcome : Except Fault β} (ha : Reads a)
    (h : (a >>= f) w = (outcome, v)) :
    (∃ fault, (a w).1 = .error fault ∧ outcome = .error fault ∧ v = w) ∨
      ∃ x, (a w).1 = .ok x ∧ f x w = (outcome, v) := by
  rw [bind_run, ha.run w] at h
  cases hx : (a w).1 with
  | error fault =>
    rw [hx] at h
    cases h
    exact .inl ⟨fault, rfl, rfl, rfl⟩
  | ok x =>
    rw [hx] at h
    exact .inr ⟨x, rfl, h⟩

/-- Whatever came of an action that refuses on a condition, the condition does not hold. -/
theorem guard_ok {c : Prop} [Decidable c] {fault : Fault} {f : β → Run α} {b : Run α}
    (h : (if c then throw fault >>= f else b) w = (.ok y, w')) : ¬ c ∧ b w = (.ok y, w') := by
  split at h
  · cases h
  · exact ⟨‹¬ c›, h⟩

/-- A refusal on a condition changes nothing. -/
theorem guard_cases {c : Prop} [Decidable c] {fault : Fault} {f : β → Run α} {b : Run α}
    {outcome : Except Fault α}
    (h : (if c then throw fault >>= f else b) w = (outcome, v)) :
    v = w ∨ ¬ c ∧ b w = (outcome, v) := by
  split at h
  · cases h
    exact .inl rfl
  · exact .inr ⟨‹¬ c›, h⟩

section Objects
variable (ref : Ref)

theorem content_reads : Reads (content ref) := fun _ _ => rfl

/-- What is read of an object depends on what kind of contract it is. -/
theorem Reads.byContent {f : Contract → Run α} (hf : ∀ c, Reads (f c)) :
    Reads (content ref >>= f) :=
  .bind (content_reads ref) hf

theorem registryAt_reads : Reads (registryAt ref) :=
  .byContent ref fun c => by cases c <;> first | exact .pure _ | exact .throw _

theorem controllerAt_reads : Reads (controllerAt ref) :=
  .byContent ref fun c => by cases c <;> first | exact .pure _ | exact .throw _

theorem moduleAt_reads : Reads (moduleAt ref) :=
  .byContent ref fun c => by cases c <;> first | exact .pure _ | exact .throw _

theorem adapterAt_reads : Reads (adapterAt ref) :=
  .byContent ref fun c => by cases c <;> first | exact .pure _ | exact .throw _

theorem setAt_reads : Reads (setAt ref) :=
  .byContent ref fun c => by cases c <;> first | exact .pure _ | exact .throw _

theorem setAddress_reads : Reads (setAddress ref) :=
  .byContent ref fun c => by cases c <;> first | exact .pure _ | exact .throw _

theorem tokenAt_reads : Reads (tokenAt ref) :=
  .byContent ref fun c => by cases c <;> first | exact .pure _ | exact .throw _

theorem setProfile_reads : Reads (setProfile ref) := by
  refine .byContent ref fun c => ?_
  cases c with
  | setToken s => exact .pure _
  | setDraft d =>
    obtain ⟨a,c,profile⟩ := d
    cases profile with
    | none => exact .throw _
    | some p => exact .pure p
  | _ => exact .throw _

theorem setController_reads : Reads (setController ref) := by
  refine .byContent ref fun c => ?_
  cases c.controller? with
  | none => exact .throw _
  | some r => exact controllerAt_reads r

end Objects

theorem find_reads (a : Value) : Reads (find a) :=
  .bind (.lift _) fun _ => .state (fun _ _ => rfl) fun _ => .pure _

theorem balanceOf_reads (token holder : Value) : Reads (balanceOf token holder) := by
  refine .byFound (find_reads token) (fun ref => .byContent ref fun c => ?_) (.throw _)
  cases c <;> first
    | exact .bind (.lift _) fun _ => .pure _
    | exact .throw _

section Registries
variable (ref : Ref) (a : Value) (name : String)

theorem integrationAdapter_reads : Reads (integrationAdapter ref a name) :=
  .bind (registryAt_reads ref) fun _ => .bind (.lift _) fun _ => .pure _

theorem isValidIntegration_reads : Reads (isValidIntegration ref a name) :=
  .bind (integrationAdapter_reads ref a name) fun _ => .pure _

theorem isSet_reads : Reads (isSet ref a) :=
  .bind (controllerAt_reads ref) fun _ => .bind (.lift _) fun _ => .pure _

theorem isModule_reads : Reads (isModule ref a) :=
  .bind (controllerAt_reads ref) fun _ => .bind (.lift _) fun _ => .pure _

theorem integrationRegistry_reads : Reads (integrationRegistry ref) :=
  .state (fun _ _ => rfl) fun _ => .bind (controllerAt_reads ref) fun _ => .pure _

end Registries

section Sets
variable (set : Ref) (a : Value)

theorem moduleState_reads : Reads (moduleState set a) :=
  .bind (setAt_reads set) fun _ => .bind (.lift _) fun _ => .pure _

theorem hasModuleState_reads (state : ModuleState) : Reads (hasModuleState set a state) :=
  .bind (moduleState_reads set a) fun _ => .pure _

theorem onlyManager_reads : Reads (onlyManager set a) :=
  .bind (.lift _) fun _ => .bind (setProfile_reads set) fun _ => .lift _

theorem onlyModule_reads : Reads (onlyModule set a) :=
  .bind (setAt_reads set) fun _ => .bind (.lift _) fun _ => .lift _

theorem isComponent_reads : Reads (isComponent set a) :=
  .bind (.lift _) fun _ => .bind (setAt_reads set) fun _ => .pure _

theorem positionUnit_reads : Reads (positionUnit set a) :=
  .bind (setAt_reads set) fun _ => .bind (.lift _) fun _ => .pure _

end Sets

section Views
variable (module : Ref) (set pool adapter : Value) (name : String)

theorem resolveSet_reads : Reads (resolveSet set) := by
  have known : ∀ ref, Reads (do
      if (← content ref).isSet then return ref else resolveSet.refuse : Run Ref) :=
    fun ref => .byContent ref fun _ => .ite (.pure _) (.throw _)
  cases set with
  | object ref =>
    apply Reads.byContent ref
    intro c
    apply Reads.ite
    · exact .byFound (.pure _) known (.throw _)
    · exact .byFound (find_reads _) known (.throw _)
  | _ => exact .byFound (find_reads _) known (.throw _)

theorem addressOf_reads : Reads (addressOf set) := by
  cases set with
  | object ref => exact .byContent ref fun _ => .ite (setAddress_reads ref) (.lift _)
  | _ => exact .lift _

theorem anyoneMayClaim_reads : Reads (anyoneMayClaim module set) :=
  .bind (moduleAt_reads module) fun _ => .bind (addressOf_reads set) fun _ => .pure _

theorem rewardPools_reads : Reads (rewardPools module set) :=
  .bind (moduleAt_reads module) fun _ => .bind (addressOf_reads set) fun _ => .pure _

theorem rewardPoolAt_reads (index : Int) : Reads (rewardPoolAt module set index) := by
  apply Reads.bind (rewardPools_reads module set)
  intro pools
  apply Reads.guard
  cases pools[index.toNat]? with
  | none => exact .throw _
  | some pool => exact .pure pool

theorem isRewardPool_reads : Reads (isRewardPool module set pool) := by
  apply Reads.bind (addressOf_reads set)
  intro a
  apply Reads.bind (moduleAt_reads module)
  intro m
  exact .bind (.lift _) fun _ => .pure _

theorem rewardPoolClaims_reads : Reads (rewardPoolClaims module set pool) := by
  apply Reads.bind (addressOf_reads set)
  intro a
  apply Reads.bind (moduleAt_reads module)
  intro m
  exact .bind (.lift _) fun _ => .pure _

theorem isClaimRegistered_reads : Reads (isClaimRegistered module set pool adapter) := by
  apply Reads.bind (addressOf_reads set)
  intro a
  apply Reads.bind (.lift _)
  intro p
  apply Reads.bind (moduleAt_reads module)
  intro m
  exact .bind (.lift _) fun _ => .pure _

theorem controllerOf_reads : Reads (controllerOf module) :=
  .bind (moduleAt_reads module) fun _ => .pure _

theorem namedAdapter_reads : Reads (namedAdapter module name) := by
  apply Reads.bind (controllerOf_reads module)
  intro c
  apply Reads.byFound (integrationRegistry_reads c)
  · intro registry
    apply Reads.bind (moduleAt_reads module)
    intro m
    apply Reads.bind (integrationAdapter_reads registry _ name)
    intro adapter
    exact .guard (.pure _)
  · exact .throw _

theorem isRewardPoolClaim_reads : Reads (isRewardPoolClaim module set pool name) :=
  .bind (namedAdapter_reads module name) fun _ => isClaimRegistered_reads module set pool _

theorem registeredAdapter_reads : Reads (registeredAdapter module set pool name) := by
  apply Reads.bind (namedAdapter_reads module name)
  intro adapter
  apply Reads.bind (isClaimRegistered_reads module set pool _)
  intro registered
  exact .guard (.pure _)

end Views

section Guards
variable (module set : Ref) (caller given : Value)

theorem onlySetManager_reads : Reads (onlySetManager set caller) := by
  apply Reads.bind (.lift _)
  intro a
  apply Reads.bind (setProfile_reads set)
  intro profile
  exact .ite (.throw _) (.pure _)

theorem stateOf_reads : Reads (stateOf module set) :=
  .bind (moduleAt_reads module) fun _ => moduleState_reads set _

theorem isEnabledSet_reads : Reads (isEnabledSet module set) :=
  .bind (controllerOf_reads module) fun _ => .bind (setAddress_reads set) fun _ => isSet_reads _ _

theorem onlyInitializedSet_reads : Reads (onlyInitializedSet module set) := by
  apply Reads.bind (isEnabledSet_reads module set)
  intro enabled
  apply Reads.guard
  apply Reads.bind (stateOf_reads module set)
  intro state
  exact .ite (.throw _) (.pure _)

theorem onlyPendingSet_reads : Reads (onlyPendingSet module set) := by
  apply Reads.bind (isEnabledSet_reads module set)
  intro enabled
  apply Reads.guard
  apply Reads.bind (stateOf_reads module set)
  intro state
  exact .ite (.throw _) (.pure _)

/-- The manager is looked up only where not anyone may claim. -/
theorem onlyValidCaller_reads : Reads (onlyValidCaller module set caller) := by
  apply Reads.bind (anyoneMayClaim_reads module _)
  intro anyone
  apply Reads.ite
  · apply Reads.bind (.lift _)
    intro a
    apply Reads.bind (setProfile_reads set)
    intro profile
    exact .ite (.throw _) (.pure _)
  · exact .pure _

theorem checkArrays_reads (pools : List Value) (others : List α) :
    Reads (checkArrays pools others) :=
  .guard (.ite (.throw _) (.pure _))

theorem managedSet_reads : Reads (managedSet module caller given) := by
  apply Reads.bind (resolveSet_reads given)
  intro set
  apply Reads.bind (onlySetManager_reads set caller)
  intro _
  apply Reads.bind (onlyInitializedSet_reads module set)
  intro _
  exact .pure set

theorem claimableSet_reads : Reads (claimableSet module caller given) := by
  apply Reads.bind (resolveSet_reads given)
  intro set
  apply Reads.bind (onlyValidCaller_reads module set caller)
  intro _
  apply Reads.bind (onlyInitializedSet_reads module set)
  intro _
  exact .pure set

end Guards

section Adapters
variable (adapter set : Address) (pool claimData : Value)

theorem rewardToken_reads : Reads (rewardToken adapter pool) := by
  refine .state (fun _ _ => rfl) fun w => ?_
  cases w.find adapter with
  | none => exact .throw _
  | some ref =>
    apply Reads.byContent ref
    intro c
    cases c <;> first | exact .pure _ | exact .throw _ | exact .lift _

theorem claimCall_reads : Reads (claimCall adapter set pool claimData) := by
  refine .state (fun _ _ => rfl) fun w => ?_
  cases w.find adapter with
  | none => exact .throw _
  | some ref =>
    apply Reads.byContent ref
    intro c
    cases c <;> first | exact .throw _ | exact .lift _

theorem pendingRewards_reads : Reads (pendingRewards adapter) := by
  refine .state (fun _ _ => rfl) fun w => ?_
  cases w.find adapter with
  | none => exact .throw _
  | some ref =>
    apply Reads.byContent ref
    intro c
    cases c <;> first | exact .pure _ | exact .throw _

theorem rewardsOf_reads (module : Ref) (given : Value) (name : String) :
    Reads (rewardsOf module given pool name) := by
  apply Reads.bind (resolveSet_reads given)
  intro set
  apply Reads.bind (registeredAdapter_reads module _ pool name)
  intro adapter
  exact pendingRewards_reads adapter

theorem adapterRewards_reads (ref : Ref) : Reads (adapterRewards ref) :=
  .byContent ref fun c => by cases c <;> first | exact .pure _ | exact .throw _

theorem adapterToken_reads (ref : Ref) : Reads (adapterToken ref pool) := by
  apply Reads.byContent ref
  intro c
  cases c <;> first | exact .pure _ | exact .throw _ | exact .lift _

theorem adapterCall_reads (ref : Ref) (given : Value) :
    Reads (adapterCall ref given pool claimData) := by
  apply Reads.byContent ref
  intro c
  cases c <;> first | exact .bind (.lift _) fun _ => .lift _ | exact .throw _ | exact .lift _

end Adapters

end Basketry.Chain
