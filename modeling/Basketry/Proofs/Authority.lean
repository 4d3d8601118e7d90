import Mathlib.Data.List.Forall2
import Basketry.Proofs.Runs
import Basketry.Proofs.Steady

namespace Basketry.Chain

variable {p : Ref → Aspect → Prop} {w v : World}

section Settings

/-- The calls by which the manager of a set changes its settings: the module, the caller and the
set. -/
def Operation.managing? : Operation → Option (Ref × Value × Value)
  | .activate module caller set _ _ _ | .updateAnyoneClaim module caller set _
  | .addClaim module caller set _ _ | .batchAddClaim module caller set _ _
  | .removeClaim module caller set _ _ | .batchRemoveClaim module caller set _ _ => some (module, caller, set)
  | _ => none

/-- The calls that may change what a module keeps for the set at `a`. -/
inductive MayChange (w : World) (module : Ref) (a : Address) : Operation → Prop
  | manager {o : Operation} {caller given : Value} {set : Ref} {profile : Profile}
      (ho : o.managing? = some (module, caller, given)) (hs : (resolveSet given w).1 = .ok set)
      (ha : (setAddress set w).1 = .ok a) (hp : (setProfile set w).1 = .ok profile)
      (hc : Address.ofValue caller = .ok profile.manager) : MayChange w module a o
  | forget {given : Value} {set : Ref} (hs : (resolveSet given w).1 = .ok set)
      (ha : (setAddress set w).1 = .ok a) : MayChange w module a (.forgetSet module given)
  | remove {set : Ref} {caller given : Value} (hm : (find given w).1 = .ok (some module))
      (ha : (setAddress set w).1 = .ok a) : MayChange w module a (.removeModule set caller given)

theorem resolveSet_isSet {given : Value} {set : Ref} (h : (resolveSet given w).1 = .ok set) :
    (w.content set).isSet = true := by
  have hrun := (resolveSet_reads given).run_ok h
  have known : ∀ ref, (do
      if (← content ref).isSet then return ref else resolveSet.refuse : Run Ref) w = (.ok set, w) →
      (w.content set).isSet = true := by
    intro ref hf
    obtain ⟨c,hc,hf⟩ := (content_reads ref).bind_ok hf
    cases hc
    by_cases hs : (w.content ref).isSet = true
    · rw [if_pos hs] at hf
      cases hf
      exact hs
    · rw [if_neg hs] at hf
      cases hf
  cases given with
  | object ref =>
    obtain ⟨c,hc,hf⟩ := (content_reads ref).bind_ok hrun
    split at hf
    · exact known ref hf
    · obtain ⟨found,hfound,_⟩ := (find_reads (.object ref)).bind_ok hf
      cases hfound
  | _ =>
    obtain ⟨found,_,hf⟩ := (find_reads _).bind_ok hrun
    cases found with
    | none => cases hf
    | some ref => exact known ref hf

theorem resolveSet_object {set set' : Ref} (h : (resolveSet (.object set) w).1 = .ok set') :
    set' = set := by
  have hrun := (resolveSet_reads _).run_ok h
  obtain ⟨c,hc,hf⟩ := (content_reads set).bind_ok hrun
  cases hc
  split at hf
  · rename_i hs
    obtain ⟨found,hfound,hf⟩ := (Reads.pure (some set)).bind_ok hf
    cases hfound
    obtain ⟨c,hc,hf⟩ := (content_reads set).bind_ok hf
    cases hc
    rw [if_pos hs] at hf
    cases hf
    rfl
  · obtain ⟨found,hfound,_⟩ := (find_reads (.object set)).bind_ok hf
    cases hfound

theorem setAddress_of_isSet {set : Ref} {a : Address} (hs : (w.content set).isSet = true)
    (ha : (w.content set).address? = some a) : (setAddress set w).1 = .ok a := by
  unfold setAddress
  rw [content_bind]
  cases hc : w.content set with
  | setToken s => rw [hc] at ha; cases ha; rfl
  | setDraft d => rw [hc] at ha; cases ha; rfl
  | _ => rw [hc] at hs; cases hs

theorem onlySetManager_ok {set : Ref} {caller : Value}
    (h : (onlySetManager set caller w).1 = .ok ()) :
    ∃ profile, (setProfile set w).1 = .ok profile ∧
      Address.ofValue caller = .ok profile.manager := by
  have hrun := (onlySetManager_reads set caller).run_ok h
  obtain ⟨c,hc,hrun⟩ := (Reads.lift _).bind_ok hrun
  obtain ⟨profile,hp,hrun⟩ := (setProfile_reads set).bind_ok hrun
  refine ⟨profile, hp, ?_⟩
  by_cases he : c = profile.manager
  · rw [← he]
    exact hc
  · rw [if_pos he] at hrun
    cases hrun

/-- The settings of a module come from what they were by revisions that the aspects allow. -/
theorem Grown.module {q : Aspect → Prop} {m : ClaimModule} (h : Grown q (.claimModule m) c) :
    ∃ m', c = .claimModule m' ∧
      ∀ a, ¬ q (.settings a) → ClaimSettings.SameFor a m.settings m'.settings := by
  induction h with
  | refl => exact ⟨m, rfl, fun a _ => .refl a _⟩
  | tail _ hs ih =>
    obtain ⟨m',rfl,hsame⟩ := ih
    rcases hs with ⟨k,hq,hc⟩ | ⟨f,rfl⟩
    · cases hc with
      | @settings _ set c h =>
        refine ⟨_, rfl, fun a hn => (hsame a hn).trans (h.others ?_)⟩
        rintro rfl
        exact hn hq
      | event => exact ⟨_, rfl, hsame⟩
    · exact ⟨_, rfl, hsame⟩

theorem Operation.settings_touched {o : Operation} {module : Ref} {a : Address}
    (h : o.touches w module (.settings a)) : MayChange w module a o := by
  have bySelf : ∀ {module' : Ref} {caller given : Value},
      o.managing? = some (module', caller, given) →
      managed module' caller given w module (.settings a) → MayChange w module a o := by
    rintro module' caller given ho ⟨rfl,set,b,⟨hs,hm⟩,hb,he⟩
    cases he
    obtain ⟨profile,hp,hc⟩ := onlySetManager_ok hm
    exact .manager ho hs (setAddress_of_isSet (resolveSet_isSet hs) hb) hp hc
  cases o with
  | activate module' caller given anyone pools names =>
    rcases h with h | ⟨_,h⟩
    · exact bySelf rfl h
    · cases h
  | updateAnyoneClaim => exact bySelf rfl h
  | addClaim => exact bySelf rfl h
  | batchAddClaim => exact bySelf rfl h
  | removeClaim => exact bySelf rfl h
  | batchRemoveClaim => exact bySelf rfl h
  | forgetSet module' given =>
    obtain ⟨rfl,set,b,hs,hb,he⟩ := h
    cases he
    exact .forget hs (setAddress_of_isSet (resolveSet_isSet hs) hb)
  | removeModule set caller given =>
    rcases h with ⟨m,hm,rfl,set',b,hs,hb,he⟩ | ⟨_,h⟩
    · cases he
      have hset := resolveSet_isSet hs
      cases resolveSet_object hs
      exact .remove hm (setAddress_of_isSet hset hb)
    · cases h
  | _ => simp [touches, fresh, claimed] at h

theorem Operation.settings_kept {o : Operation} {module : Ref} {m : ClaimModule}
    (hn : ∀ id, o ≠ .revert id) (hm : w.content module = .claimModule m) :
    ∃ m', (o.run w).2.content module = .claimModule m' ∧
      ∀ a, ClaimSettings.SameFor a m.settings m'.settings ∨ MayChange w module a o := by
  have hlt : module < w.objects.length := World.lt_of_content (by simp [hm])
  have hgrown := o.grown hn hlt
  rw [hm] at hgrown
  obtain ⟨m',hm',hsame⟩ := hgrown.module
  refine ⟨m', hm', fun a => ?_⟩
  by_cases ht : o.touches w module (.settings a)
  · exact .inr (settings_touched ht)
  · exact .inl (hsame a ht)

end Settings

section Claiming

/-- Whom a claim for a set is allowed to, and in which state of the set. -/
structure MayClaim (w : World) (module : Ref) (caller given : Value) (set : Ref) : Prop where
  found : (resolveSet given w).1 = .ok set
  caller : (anyoneMayClaim module (.object set) w).1 = .ok true ∨
    ∃ profile, (setProfile set w).1 = .ok profile ∧ Address.ofValue caller = .ok profile.manager
  enabled : (isEnabledSet module set w).1 = .ok true
  initialized : (stateOf module set w).1 = .ok .initialized

/-- The event of a claim: it names the adapter that the registry knows under the name, and that
adapter is registered for the pool. -/
structure Backed (w : World) (module set : Ref) (pool : Value) (name : String)
    (e : RewardClaimed) : Prop where
  forSet : (setAddress set w).1 = .ok e.setToken
  forPool : Address.ofValue pool = .ok e.pool
  adapter : (namedAdapter module name w).1 = .ok e.adapter
  registered : (isClaimRegistered module (.object set) pool e.adapter.toValue w).1 = .ok true

variable {module set : Ref} {caller given pool claimData : Value} {name : String}

theorem onlyValidCaller_ok (h : (onlyValidCaller module set caller w).1 = .ok ()) :
    (anyoneMayClaim module (.object set) w).1 = .ok true ∨
      ∃ profile, (setProfile set w).1 = .ok profile ∧
        Address.ofValue caller = .ok profile.manager := by
  have hrun := (onlyValidCaller_reads module set caller).run_ok h
  obtain ⟨anyone,ha,hrun⟩ := (anyoneMayClaim_reads module _).bind_ok hrun
  cases anyone with
  | true => exact .inl ha
  | false =>
    right
    obtain ⟨c,hc,hrun⟩ := (Reads.lift (Address.ofValue caller)).bind_ok hrun
    obtain ⟨profile,hp,hrun⟩ := (setProfile_reads set).bind_ok hrun
    refine ⟨profile, hp, ?_⟩
    by_cases he : c = profile.manager
    · rw [← he]
      exact hc
    · rw [if_pos he] at hrun
      cases hrun

theorem onlyInitializedSet_ok (h : (onlyInitializedSet module set w).1 = .ok ()) :
    (isEnabledSet module set w).1 = .ok true ∧ (stateOf module set w).1 = .ok .initialized := by
  have hrun := (onlyInitializedSet_reads module set).run_ok h
  obtain ⟨enabled,he,hrun⟩ := (isEnabledSet_reads module set).bind_ok hrun
  obtain ⟨hn,hrun⟩ := guard_ok hrun
  obtain ⟨state,hs,hrun⟩ := (stateOf_reads module set).bind_ok hrun
  have henabled : enabled = true := by simpa using hn
  by_cases hi : state = .initialized
  · exact ⟨henabled ▸ he, hi ▸ hs⟩
  · rw [if_pos hi] at hrun
    cases hrun

theorem claimableSet_ok (h : (claimableSet module caller given w).1 = .ok set) :
    MayClaim w module caller given set := by
  have hrun := (claimableSet_reads module caller given).run_ok h
  obtain ⟨r,hr,hrun⟩ := (resolveSet_reads given).bind_ok hrun
  obtain ⟨_,hc,hrun⟩ := (onlyValidCaller_reads module r caller).bind_ok hrun
  obtain ⟨_,hi,hrun⟩ := (onlyInitializedSet_reads module r).bind_ok hrun
  cases hrun
  obtain ⟨he,hs⟩ := onlyInitializedSet_ok hi
  exact ⟨hr, onlyValidCaller_ok hc, he, hs⟩

theorem registeredAdapter_ok {a : Address}
    (h : (registeredAdapter module given pool name w).1 = .ok a) :
    (namedAdapter module name w).1 = .ok a ∧
      (isClaimRegistered module given pool a.toValue w).1 = .ok true := by
  have hrun := (registeredAdapter_reads module given pool name).run_ok h
  obtain ⟨b,hb,hrun⟩ := (namedAdapter_reads module name).bind_ok hrun
  obtain ⟨registered,hr,hrun⟩ := (isClaimRegistered_reads module given pool _).bind_ok hrun
  obtain ⟨hn,hrun⟩ := guard_ok hrun
  cases hrun
  have hregistered : registered = true := by simpa using hn
  exact ⟨hb, hregistered ▸ hr⟩

theorem claimOne_ok {e : RewardClaimed}
    (h : claimOne module set pool name claimData w = (.ok e, v)) :
    Backed w module set pool name e := by
  obtain ⟨_,_,h⟩ := (isRewardPool_reads module _ pool).bind_ok h
  obtain ⟨_,h⟩ := guard_ok h
  obtain ⟨adapter,ha,h⟩ := (registeredAdapter_reads module _ pool name).bind_ok h
  obtain ⟨_,_,h⟩ := (moduleAt_reads module).bind_ok h
  obtain ⟨address,hs,h⟩ := (setAddress_reads set).bind_ok h
  obtain ⟨_,_,h⟩ := (rewardToken_reads adapter pool).bind_ok h
  obtain ⟨_,_,h⟩ := (balanceOf_reads _ _).bind_ok h
  obtain ⟨_,_,h⟩ := (claimCall_reads adapter address pool claimData).bind_ok h
  obtain ⟨_,_,_,h⟩ := bind_ok h
  obtain ⟨_,_,h⟩ := (balanceOf_reads _ _).bind_ok h
  obtain ⟨_,_,_,h⟩ := bind_ok h
  obtain ⟨p,hp,h⟩ := (Reads.lift (Address.ofValue pool)).bind_ok h
  obtain ⟨_,_,h⟩ := (Reads.lift (CallData.bytesOfValue claimData)).bind_ok h
  obtain ⟨_,_,h⟩ := (moduleAt_reads module).bind_ok h
  obtain ⟨_,_,_,h⟩ := bind_ok h
  obtain ⟨_,_,h⟩ := (Reads.lift _).bind_ok h
  cases h
  obtain ⟨hn,hr⟩ := registeredAdapter_ok ha
  exact ⟨hs, hp, hn, hr⟩

/-- What backs a claim in the middle of a batch backed it before the batch. -/
theorem Backed.before {e : RewardClaimed} (h : Backed v module set pool name e)
    (hc : ClaimsApart w v) : Backed w module set pool name e := by
  have hset := setAddress_steady set w v hc
  have hadapter := namedAdapter_steady module name w v hc
  have hregistered := isClaimRegistered_steady module set pool e.adapter.toValue w v hc
  exact ⟨hset ▸ h.forSet, h.forPool, hadapter ▸ h.adapter, hregistered ▸ h.registered⟩

theorem mapM_claimOne {items : List ((Value × String) × Value)} {es : List RewardClaimed}
    {u : World} (hc : ClaimsApart w v)
    (h : (items.mapM fun ((pool, name), data) => claimOne module set pool name data : Run _) v =
      (.ok es, u)) :
    List.Forall₂ (fun x e => Backed w module set x.1.1 x.1.2 e) items es := by
  induction items generalizing v es with
  | nil =>
    cases h
    exact .nil
  | cons x items ih =>
    rw [List.mapM_cons] at h
    obtain ⟨e,u,he,h⟩ := bind_ok h
    obtain ⟨rest,u',hrest,h⟩ := bind_ok h
    cases h
    have hone : EditsAt onlyClaims (claimOne module set x.1.1 x.1.2 x.2) v :=
      claimOne_edits x.1.1 x.2 x.1.2 (fun _ => .inl rfl) (.inr (.inl rfl)) (.inr (.inr rfl))
    have hlater : ClaimsApart w u := hc.trans (hone.reached he).claimsApart
    exact .cons ((claimOne_ok he).before hc) (ih hlater hrest)

theorem claimableSet_snapshot (h : (claimableSet module caller given w.snapshot.2).1 = .ok set) :
    MayClaim w module caller given set :=
  claimableSet_ok (by rwa [← (claimableSet_reads module caller given).answer w])

theorem ClaimsApart.snapshot (w : World) : ClaimsApart w w.snapshot.2 := ⟨rfl, fun _ => rfl⟩

theorem claim_ok {e : RewardClaimed}
    (h : claim module caller given pool name claimData w = (.ok e, v)) :
    ∃ set, MayClaim w module caller given set ∧ Backed w module set pool name e := by
  obtain ⟨u,h⟩ := atomically_ok h
  obtain ⟨set,hs,h⟩ := (claimableSet_reads module caller given).bind_ok h
  exact ⟨set, claimableSet_snapshot hs, (claimOne_ok h).before (.snapshot w)⟩

theorem batchClaim_ok {pools data : List Value} {names : List String} {es : List RewardClaimed}
    (h : batchClaim module caller given pools names data w = (.ok es, v)) :
    ∃ set, MayClaim w module caller given set ∧
      List.Forall₂ (fun x e => Backed w module set x.1.1 x.1.2 e) ((pools.zip names).zip data) es := by
  obtain ⟨u,h⟩ := atomically_ok h
  obtain ⟨set,hs,h⟩ := (claimableSet_reads module caller given).bind_ok h
  obtain ⟨_,_,h⟩ := (checkArrays_reads pools names).bind_ok h
  obtain ⟨_,h⟩ := guard_ok h
  exact ⟨set, claimableSet_snapshot hs, mapM_claimOne (.snapshot w) h⟩

end Claiming

/-- What the answer of a claim shows of the world that it was made in. -/
def ClaimsBacked (w : World) : Operation → Answer → Prop
  | .claim module caller given pool name _, answer => ∃ set e, answer = .event e ∧
    MayClaim w module caller given set ∧ Backed w module set pool name e
  | .batchClaim module caller given pools names data, answer => ∃ set es, answer = .events es ∧
    MayClaim w module caller given set ∧
      List.Forall₂ (fun x e => Backed w module set x.1.1 x.1.2 e) ((pools.zip names).zip data) es
  | _, _ => True

/-- Wherever the chain stands: an operation other than bringing a snapshot back, whether it succeeds
or fails, changes what a module keeps for a set only on the word of the manager of the set or where
the set is forgotten, and every claim that succeeds was allowed and is backed by the registry and by
the settings. -/
theorem settings_and_claims_authorised {o : Operation} (hn : ∀ id, o ≠ .revert id) :
    (∀ module m, w.content module = .claimModule m →
      ∃ m', (o.run w).2.content module = .claimModule m' ∧
      ∀ a, ClaimSettings.SameFor a m.settings m'.settings ∨ MayChange w module a o) ∧
    ∀ answer v, o.run w = (.ok answer, v) → ClaimsBacked w o answer := by
  refine ⟨fun module m hm => Operation.settings_kept hn hm, fun answer v h => ?_⟩
  cases o with
  | claim module caller given pool name data =>
    obtain ⟨e,u,he,h⟩ := bind_ok h
    cases h
    obtain ⟨set,hm,hb⟩ := claim_ok he
    exact ⟨set, e, rfl, hm, hb⟩
  | batchClaim module caller given pools names data =>
    obtain ⟨es,u,he,h⟩ := bind_ok h
    cases h
    obtain ⟨set,hm,hb⟩ := batchClaim_ok he
    exact ⟨set, es, rfl, hm, hb⟩
  | _ => trivial

/-- An amount of five and an empty proof. -/
def Sample.claimData : Value :=
  .bytes (BigEndian.ofNat 32 5 ++ BigEndian.ofNat 32 64 ++ BigEndian.ofNat 32 0)

theorem settings_and_claims_authorised_manager :
    let o := Operation.batchClaim 7 Sample.manager Sample.set [Sample.pool] ["morpho"]
      [Sample.claimData]
    ∃ answer v, o.run Sample.world = (.ok answer, v) ∧ ClaimsBacked Sample.world o answer ∧
      ∀ module m, Sample.world.content module = .claimModule m →
        ∃ m', (o.run Sample.world).2.content module = .claimModule m' ∧
          ∀ a, ClaimSettings.SameFor a m.settings m'.settings ∨
            MayChange Sample.world module a o := by
  intro o
  have hn : ∀ id, o ≠ .revert id := by simp [o]
  obtain ⟨answer,v,h⟩ := ok_of_fault? (a := o.run) (w := Sample.world) (by decide +kernel)
  obtain ⟨hsettings,hclaims⟩ := settings_and_claims_authorised (w := Sample.world) hn
  exact ⟨answer, v, h, hclaims answer v h, hsettings⟩

end Basketry.Chain
