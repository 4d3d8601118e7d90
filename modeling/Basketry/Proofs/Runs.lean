import Basketry.Proofs.Calls

namespace Basketry.Chain

variable {p : Ref → Aspect → Prop} {floor : Nat} {w v : World}

section Creation

theorem create_moves {make : Address → Contract} (hm : ∀ a, (make a).Newborn) :
    MovesAt p floor (create make) w := by
  intro _
  have hmade : Moves p floor w (w.allocate (make (w.accounts w.drawn))).2 := .single (.made (hm _))
  exact (hmade.tail (.drawn _)).tail (.placed _ _ _)

theorem content_create (make : Address → Contract) (w : World) :
    ∃ a, (create make w).2.content w.objects.length = make a :=
  ⟨w.accounts w.drawn, (World.content_allocate w _ _).trans (if_pos rfl)⟩

theorem createController_moves (registry : Ref) : MovesAt p floor (createController registry) w :=
  .read (registryAt_reads registry) fun r _ => create_moves fun a => .controller a r.address

theorem createMorphoAdapter_moves (distributor : Value) :
    MovesAt p floor (createMorphoAdapter distributor) w :=
  .read (.lift _) fun m _ => fun _ => .single (.made (.morphoAdapter m))

theorem addPending_edits {ref : Ref} (hp : p ref .states) (module : Value) :
    EditsAt p (addPending ref module) w := by
  refine .read (content_reads ref) fun c hc => ?_
  have hw : w.content ref = c := by cases hc; rfl
  cases c with
  | setToken s =>
    refine .read (.lift _) fun a _ => ?_
    exact setContent_edits hp (by rw [hw]; exact .state s a _)
  | _ => exact (Reads.throw _).edits

/-- What fills a draft in, once it stands on the chain. -/
theorem furnish_edits {ref controller : Ref} {a : Address} (order : SetOrder)
    (hc : w.content ref = .setDraft ⟨a, controller, none⟩) (hf : p ref .founding)
    (hs : p ref .states) :
    EditsAt p (do
      let address ← setAddress ref
      let profile : Profile :=
        ⟨← Address.ofValue order.manager, order.name, order.symbol, order.totalSupply⟩
      setContent ref (.setDraft ⟨address, controller, some profile⟩)
      let components ← order.components.mapM fun c => (Address.ofValue c : Run Address)
      let units := Table.ofList (components.zip order.units)
      setContent ref (.setToken ⟨address, controller, profile, components, units, {}⟩)
      order.modules.forM (addPending ref)
      return ref) w := by
  refine .read (setAddress_reads ref) fun address ha => ?_
  refine .read (.lift _) fun manager _ => ?_
  have he : address = a := by
    have h := (setAddress_ok ha).2
    rw [hc] at h
    exact (Option.some.inj h).symm
  subst he
  have hl : ref < w.objects.length := World.lt_of_content (by simp [hc])
  refine (setContent_edits hf (by rw [hc]; exact .profiled _ _)).bind fun _ v hv => ?_
  cases hv
  refine .read (.mapM fun _ => .lift _) fun components _ => ?_
  refine EditsAt.bind (setContent_edits hf ?_) fun _ u _ => ?_
  · rw [World.content_setContent, if_pos ⟨rfl, hl⟩]
    exact .filled _ _ _ _ _
  · apply EditsAt.answer
    exact .forM fun module _ _ _ => addPending_edits hs module

theorem createSet_moves {controller : Ref} {order : SetOrder} (hf : p w.objects.length .founding)
    (hs : p w.objects.length .states) : MovesAt p floor (createSet controller order) w := by
  refine .guard (MovesAt.bind (create_moves fun a => .setDraft a controller) fun ref v hv => ?_)
  obtain ⟨a,ha⟩ := content_create (fun a => .setDraft ⟨a, controller, none⟩) w
  cases hv
  exact (furnish_edits order ha hf hs).moves

theorem createEnabledSet_moves {controller : Ref} {order : SetOrder}
    (hf : p w.objects.length .founding) (hs : p w.objects.length .states)
    (hl : p controller .listing) : MovesAt p floor (createEnabledSet controller order) w := by
  refine (createSet_moves hf hs).bind fun ref v _ => ?_
  refine .read (setAddress_reads ref) fun a _ => ?_
  refine .read (controllerAt_reads controller) fun c hc => ?_
  refine .read (.lift _) fun c' h => ?_
  refine (EditsAt.answer (setContent_edits hl ?_) _).moves
  rw [controllerAt_ok hc]
  exact .listing (.setAdded h)

end Creation

section Operations

/-- An operation that leaves the snapshots below the floor alone. -/
def Operation.Spares (floor : Nat) : Operation → Prop
  | .revert id => id < 0 ∨ floor ≤ id.toNat
  | .release id => floor = 0 ∨ 0 ≤ id ∧ floor ≤ id.toNat
  | _ => True

theorem Operation.spares_zero (o : Operation) : o.Spares 0 := by
  cases o with
  | revert id => exact .inr (Nat.zero_le _)
  | release id => exact .inl rfl
  | _ => trivial

theorem Operation.spares_of {o : Operation} (hn : ∀ id, o ≠ .revert id)
    (hr : ¬ ∃ id, o = .release id) (floor : Nat) : o.Spares floor := by
  cases o with
  | revert id => exact absurd rfl (hn id)
  | release id => exact absurd ⟨id, rfl⟩ hr
  | _ => trivial

/-- The world stays as it is, or a snapshot that there is comes back. -/
theorem revertTo_ends (id : Int) (w : World) :
    (revertTo id w).2 = w ∨ ¬ id < 0 ∧ ∃ s, w.snapshots[id.toNat]? = some s ∧
      (revertTo id w).2 = { w with snapshots := w.snapshots.take id.toNat }.restore s := by
  have hrun : revertTo id w = ((liftM (w.revert id) : Run World) >>= fun v => set v) w := rfl
  rw [hrun]
  cases hr : w.revert id with
  | error fault => exact .inl rfl
  | ok v =>
    unfold World.revert at hr
    split at hr
    · cases hr
    · rename_i hneg
      split at hr
      · cases hr
      · rename_i s hs
        cases hr
        exact .inr ⟨hneg, s, hs, rfl⟩

theorem revertTo_moves {id : Int} (h : id < 0 ∨ floor ≤ id.toNat) :
    MovesAt p floor (revertTo id) w := by
  intro _
  rcases revertTo_ends id w with hv | ⟨hneg,s,hs,hv⟩
  · rw [hv]
  · rw [hv]
    exact .single (.restored (h.resolve_left hneg) hs)

theorem release_moves {id : Int} (h : floor = 0 ∨ 0 ≤ id ∧ floor ≤ id.toNat) :
    Moves p floor w (w.release id) := by
  refine .single (.dropped w ?_)
  rcases h with rfl | ⟨hid,hf⟩
  · exact Nat.zero_le _
  · rw [if_neg (by omega)]
    exact hf

theorem register_moves (ref : Ref) (a : Value) : MovesAt p floor (register ref a) w := by
  have placed : ∀ a : Address, MovesAt p floor (do modify (·.register a ref); return a) w :=
    fun a _ => .single (.placed w a ref)
  unfold register
  by_cases he : (!a.truth) = true
  · rw [if_pos he]
    refine .read (content_reads ref) fun c _ => ?_
    cases c.address? with
    | none => exact (Reads.throw _).edits.moves
    | some own => exact .read (.pure own) fun a _ => placed a
  · rw [if_neg he]
    exact .read (.lift _) fun a _ => placed a

/-- The module forgets the set in a block of its own, and the set the module after it. -/
theorem removeModule_moves (set : Ref) (caller module : Value) :
    MovesAt ((Operation.removeModule set caller module).touches w) floor
      (removeModule set caller module) w := by
  refine .read (onlyManager_reads set caller) fun _ _ => ?_
  refine .read (moduleState_reads set module) fun _ _ => ?_
  refine .guard ?_
  refine .read (find_reads module) fun found hfound => ?_
  cases found with
  | none => exact (Reads.throw _).edits.moves
  | some m =>
    refine .read (content_reads m) fun c _ => ?_
    cases c with
    | claimModule _ =>
      have forgotten : MovesAt ((Operation.removeModule set caller module).touches w) floor
          (forgetSet m (.object set)) w :=
        fun hl => (forgetSet_block.moves w hl).mono fun _ _ hp => .inl ⟨m, hfound, hp⟩
      exact forgotten.bind fun _ _ _ => (setState_edits module (.inr ⟨rfl, rfl⟩) .none).moves
    | _ => exact (Reads.throw _).edits.moves

theorem EditsAt.done {a : Run Unit} (h : EditsAt p a w) : EditsAt p (done a) w := h.answer _

theorem MovesAt.answer {a : Run α} {f : α → β} (h : MovesAt p floor a w) :
    MovesAt p floor (a >>= fun x => pure (f x)) w :=
  h.bind fun _ _ _ => (Reads.pure _).edits.moves

theorem asked {a : Run α} {f : α → β} (h : Reads a) : EditsAt p (a >>= fun x => pure (f x)) w :=
  h.edits.answer f

/-- The operations that edit objects and nothing else. -/
def Operation.IsPlain : Operation → Prop
  | .snapshot | .revert .. | .release .. | .register .. | .createRegistry | .createController ..
  | .createToken .. | .createClaimAdapter | .createClaimModule .. | .createMorphoAdapter ..
  | .createSet .. | .createEnabledSet .. | .removeModule .. | .activate .. | .updateAnyoneClaim ..
  | .addClaim .. | .batchAddClaim .. | .removeClaim .. | .batchRemoveClaim .. | .forgetSet ..
  | .claim .. | .batchClaim .. => False
  | _ => True

theorem Operation.run_edits {o : Operation} (h : o.IsPlain) : EditsAt (o.touches w) o.run w := by
  cases o with
  | find a => exact asked (find_reads a)
  | call sender target data => exact (call_edits (fun _ => by rfl) sender target data).answer _
  | balanceOf token holder => exact asked (balanceOf_reads token holder)
  | addIntegration r module name adapter =>
    exact (addIntegration_edits module adapter name ⟨rfl, rfl⟩).done
  | editIntegration r module name adapter =>
    exact (editIntegration_edits module adapter name ⟨rfl, rfl⟩).done
  | removeIntegration r module name => exact (removeIntegration_edits module name ⟨rfl, rfl⟩).done
  | integrationAdapter r module name => exact asked (integrationAdapter_reads r module name)
  | isValidIntegration r module name => exact asked (isValidIntegration_reads r module name)
  | addSet c set => exact (addSet_edits ⟨rfl, rfl⟩ set).done
  | removeSet c set => exact (removeSet_edits ⟨rfl, rfl⟩ set).done
  | enableModule c module => exact (enableModule_edits module ⟨rfl, rfl⟩).done
  | isSet c set => exact asked (isSet_reads c set)
  | isModule c module => exact asked (isModule_reads c module)
  | integrationRegistry c => exact asked (integrationRegistry_reads c)
  | tokenBalance t holder =>
    have hreads : Reads (Operation.tokenBalance t holder).run :=
      .bind (tokenAt_reads t) fun _ => .bind (.lift _) fun _ => .pure _
    exact hreads.edits
  | mint t receiver amount => exact (mint_edits ⟨rfl, rfl⟩ receiver amount).done
  | transfer t sender receiver amount =>
    exact (transfer_edits ⟨rfl, rfl⟩ sender receiver amount).done
  | setRewards a rewards => exact (setRewards_edits ⟨rfl, rfl⟩ rewards).done
  | adapterRewards a => exact asked (adapterRewards_reads a)
  | adapterToken a pool => exact asked (adapterToken_reads pool a)
  | adapterCall a set pool data => exact asked (adapterCall_reads pool data a set)
  | moduleState s module => exact asked (moduleState_reads s module)
  | hasModuleState s module state => exact asked (hasModuleState_reads s module state)
  | modules s => exact asked (setAt_reads s)
  | addModule s caller module => exact (addModule_edits caller module ⟨rfl, rfl⟩).done
  | initializeModule s caller => exact (initializeModule_edits caller ⟨rfl, rfl⟩).done
  | setManager s caller manager => exact (setManager_edits caller ⟨rfl, rfl⟩ manager).done
  | invoke s caller target data =>
    exact (invoke_edits caller (fun _ => by rfl) target data).answer _
  | components s => exact asked (setAt_reads s)
  | isComponent s component => exact asked (isComponent_reads s component)
  | positionUnit s component => exact asked (positionUnit_reads s component)
  | addComponent s caller component =>
    exact (addComponent_edits caller component ⟨rfl, rfl⟩).done
  | removeComponent s caller component =>
    exact (removeComponent_edits caller component ⟨rfl, rfl⟩).done
  | setUnit s caller component unit =>
    exact (setUnit_edits caller component ⟨rfl, rfl⟩ unit).done
  | recalculate s caller component before =>
    exact (recalculate_edits caller component ⟨rfl, rfl⟩ before).answer _
  | anyoneMayClaim m set => exact asked (anyoneMayClaim_reads m set)
  | rewardPools m set => exact asked (rewardPools_reads m set)
  | rewardPoolAt m set index => exact asked (rewardPoolAt_reads m set index)
  | isRewardPool m set pool => exact asked (isRewardPool_reads m set pool)
  | rewardPoolClaims m set pool => exact asked (rewardPoolClaims_reads m set pool)
  | isClaimRegistered m set pool adapter =>
    exact asked (isClaimRegistered_reads m set pool adapter)
  | isRewardPoolClaim m set pool name => exact asked (isRewardPoolClaim_reads m set pool name)
  | rewardsOf m set pool name => exact asked (rewardsOf_reads pool m set name)
  | _ => exact h.elim

theorem Operation.run_moves (o : Operation) (h : o.Spares floor) :
    MovesAt (o.touches w) floor o.run w := by
  cases o with
  | snapshot => exact MovesAt.answer fun _ => .single (.taken w)
  | revert id => exact (revertTo_moves h).answer
  | release id => exact MovesAt.answer (a := modify (·.release id)) fun _ => release_moves h
  | register ref a => exact (register_moves ref a).answer
  | createRegistry => exact (create_moves fun a => .registry a).answer
  | createController registry => exact (createController_moves registry).answer
  | createToken name symbol decimals =>
    exact (create_moves fun a => .token a name symbol decimals).answer
  | createClaimAdapter => exact (create_moves fun a => .claimAdapter a _ _ _).answer
  | createClaimModule controller => exact (create_moves fun a => .claimModule a controller).answer
  | createMorphoAdapter distributor => exact (createMorphoAdapter_moves distributor).answer
  | createSet controller order =>
    exact (createSet_moves ⟨Nat.le_refl _, .inl rfl⟩ ⟨Nat.le_refl _, .inr rfl⟩).answer
  | createEnabledSet controller order =>
    exact (createEnabledSet_moves (.inl ⟨Nat.le_refl _, .inl rfl⟩) (.inl ⟨Nat.le_refl _, .inr rfl⟩)
      (.inr ⟨rfl, rfl⟩)).answer
  | removeModule s caller module => exact (removeModule_moves s caller module).answer
  | activate | updateAnyoneClaim | addClaim | batchAddClaim | removeClaim | batchRemoveClaim
  | forgetSet | claim | batchClaim => exact Block.moves (Operation.block (by trivial)) w
  | _ => exact (Operation.run_edits (by trivial)).moves

/-- Every content grows out of what it was, unless a snapshot is brought back: dropping snapshots changes
no content, and any other operation works above the snapshots there are. -/
theorem Operation.grown {o : Operation} {ref : Ref} (hn : ∀ id, o ≠ .revert id)
    (hlt : ref < w.objects.length) :
    Grown (o.touches w ref) (w.content ref) ((o.run w).2.content ref) := by
  by_cases hr : ∃ id, o = .release id
  · obtain ⟨id,rfl⟩ := hr
    exact .refl
  · have hmoves : Moves (o.touches w) w.snapshots.length w (o.run w).2 :=
      o.run_moves (spares_of hn hr _) (Nat.le_refl _)
    exact (hmoves.since (Nat.le_refl _)).contents ref hlt

end Operations

section Histories

/-- Every change of every object. -/
abbrev anything : Ref → Aspect → Prop := fun _ _ => True

mutual

def Step.Spares (floor : Nat) : Step → Prop
  | .operation o => o.Spares floor
  | .fail _ => True
  | .attempt steps => AllSpare floor steps
  | .transaction steps => AllSpare floor steps

def AllSpare (floor : Nat) : List Step → Prop
  | [] => True
  | s :: ss => s.Spares floor ∧ AllSpare floor ss

end

mutual

theorem Step.spares_zero : (s : Step) → s.Spares 0
  | .operation o => o.spares_zero
  | .fail _ => trivial
  | .attempt steps => allSpare_zero steps
  | .transaction steps => allSpare_zero steps

theorem allSpare_zero : (ss : List Step) → AllSpare 0 ss
  | [] => trivial
  | s :: ss => ⟨s.spares_zero, allSpare_zero ss⟩

end

theorem tryCatch_run (a : Run α) (handle : Fault → Run α) (w : World) :
    (tryCatch a handle : Run α) w = match a w with
      | (.ok x, v) => (.ok x, v)
      | (.error fault, v) => handle fault v := by
  change (ExceptT.tryCatch a handle : Run α) w = _
  simp only [ExceptT.tryCatch, ExceptT.mk, bind, StateT.bind]
  rcases a w with ⟨_ | x, v⟩ <;> rfl

theorem MovesAt.caught {a : Run α} {x : α} (ha : MovesAt p floor a w) :
    MovesAt p floor (tryCatch a fun _ => pure x) w := by
  intro hl
  have hm := ha hl
  rw [tryCatch_run]
  cases h : a w with
  | mk outcome v =>
    rw [h] at hm
    cases outcome with
    | ok y => exact hm
    | error fault => exact hm

mutual

/-- A nested block works above its own snapshot, and so above every floor of the block around it. -/
theorem Step.run_moves {floor : Nat} {w : World} : (s : Step) → s.Spares floor →
    MovesAt anything floor s.run w
  | .operation o, h => fun hl => (o.run_moves h hl).mono fun _ _ _ => trivial
  | .fail fault, _ => (Reads.throw fault).edits.moves
  | .attempt steps, h => ((runSteps_moves steps h).answer).caught
  | .transaction steps, h => atomically_moves (runSteps_moves steps h).answer

theorem runSteps_moves {floor : Nat} {w : World} : (ss : List Step) → AllSpare floor ss →
    MovesAt anything floor (runSteps ss) w
  | [], _ => (Reads.pure _).edits.moves
  | s :: ss, h => (s.run_moves h.1).bind fun _ _ _ => (runSteps_moves ss h.2).answer

end

theorem runSteps_cons (s : Step) (ss : List Step) :
    runSteps (s :: ss) = s.run >>= fun a => runSteps ss >>= fun as => pure (a :: as) := by
  rw [runSteps]

theorem World.after_moves (w : World) (history : List Step) :
    Moves anything 0 w (w.after history) := by
  induction history generalizing w with
  | nil => exact .refl
  | cons s history ih =>
    have hfirst : Moves anything 0 w (s.run w).2 := s.run_moves s.spares_zero (Nat.zero_le _)
    exact hfirst.trans (ih _)

end Histories

def fault? : Except Fault α → Option Fault
  | .ok _ => none
  | .error fault => some fault

theorem eq_of_fault? {a : Run α} (h : fault? (a w).1 = some fault) :
    a w = (.error fault, (a w).2) := by
  cases hr : a w with
  | mk outcome v =>
    rw [hr] at h
    cases outcome with
    | ok x => cases h
    | error fault' =>
      cases h
      rfl

theorem ok_of_fault? {a : Run α} (h : fault? (a w).1 = none) : ∃ x v, a w = (.ok x, v) := by
  cases hr : a w with
  | mk outcome v =>
    rw [hr] at h
    cases outcome with
    | ok x => exact ⟨x, v, rfl⟩
    | error fault => cases h

theorem run_of_answer {a : Run α} {y : α} (h : (a w).1 = .ok y) : a w = (.ok y, (a w).2) :=
  Prod.ext h rfl

namespace Sample

def account (n : Nat) : Address := ⟨List.replicate 19 0 ++ [UInt8.ofNat (n + 1)], by simp⟩

def manager : Value := (account 60).toValue

/-- The pool pays in the token at its own address. -/
def pool : Value := (account 2).toValue

def set : Value := (account 7).toValue

def order : SetOrder :=
  { components := [pool], units := [1], modules := [(account 6).toValue], manager }

/-- A set whose claim module is initialized with one adapter for one pool. -/
def history : List Step :=
  [.operation (.createMorphoAdapter (account 90).toValue),
    .operation (.register 6 (account 50).toValue),
    .operation (.createClaimModule 1), .operation (.enableModule 1 (account 6).toValue),
    .operation (.createEnabledSet 1 order),
    .operation (.addIntegration 0 (account 6).toValue "morpho" (account 50).toValue),
    .operation (.activate 7 manager set false [pool] ["morpho"])]

def owner : String := "0x00000000000000000000000000000000000000aa"

def world : World := (World.deployed account (some owner)).2.after history

/-- The set as it is then. -/
def activeSet : SetToken :=
  ⟨account 7, 1, ⟨account 60, "SetToken", "SET", Units.preciseUnit⟩, [account 2],
    ⟨[(account 2, 1)]⟩, ⟨[(account 6, .initialized)]⟩⟩

end Sample

end Basketry.Chain
