import Basketry.Proofs.Frames

namespace Basketry.Chain

/-- The action answers at `v` as the other does at `w`. -/
def Answers (w v : World) (a b : Run α) : Prop := (b v).1 = (a w).1

section Reading
variable {w v : World}

theorem Answers.read {a b : Run α} {f g : α → Run β} (ha : Reads a) (hb : Reads b)
    (h : Answers w v a b) (hf : ∀ x, (a w).1 = .ok x → Answers w v (f x) (g x)) :
    Answers w v (a >>= f) (b >>= g) := by
  unfold Answers at h ⊢
  rw [bind_run, bind_run, ha.run w, hb.run v, h]
  cases hx : (a w).1 with
  | ok x => exact hf x hx
  | error fault => rfl

theorem Answers.same {a : Run α} {f g : α → Run β} (ha : Reads a) (h : Answers w v a a)
    (hf : ∀ x, (a w).1 = .ok x → Answers w v (f x) (g x)) : Answers w v (a >>= f) (a >>= g) :=
  .read ha ha h hf

theorem Answers.lift {e : Except Fault α} {f g : α → Run β}
    (hf : ∀ x, (liftM e : Run α) w = (.ok x, w) → Answers w v (f x) (g x)) :
    Answers w v (liftM e >>= f) (liftM e >>= g) :=
  .same (.lift e) rfl fun x hx => hf x ((Reads.lift e).run_ok hx)

theorem Answers.ite {c : Prop} [Decidable c] {a b a' b' : Run α} (ha : Answers w v a a')
    (hb : Answers w v b b') : Answers w v (if c then a else b) (if c then a' else b') := by
  split
  · exact ha
  · exact hb

end Reading

section Named

theorem Contract.address_of_isSet {c : Contract} (h : c.isSet = true) : ∃ a, c.address? = some a := by
  cases c with
  | setToken s => exact ⟨_, rfl⟩
  | setDraft d => exact ⟨_, rfl⟩
  | _ => cases h

variable {w : World} {set : Ref} {given : Value} {b : Address}

theorem addressOf_object_ok (h : (addressOf (.object set) w).1 = .ok b) :
    (w.content set).isSet = true ∧ (w.content set).address? = some b := by
  obtain ⟨c,hc,hrun⟩ := (content_reads set).bind_ok ((addressOf_reads (.object set)).run_ok h)
  cases hc
  split at hrun
  · exact setAddress_ok (congrArg Prod.fst hrun)
  · cases hrun

theorem addressOf_of_isSet (hs : (w.content set).isSet = true)
    (ha : (w.content set).address? = some b) : (addressOf (.object set) w).1 = .ok b := by
  simp only [addressOf]
  rw [content_bind, if_pos hs]
  exact setAddress_of_isSet hs ha

/-- The set that is found is the one whose address was given. -/
theorem resolveSet_address (hw : w.OwnAddresses) (hb : (addressOf given w).1 = .ok b)
    (hs : (resolveSet given w).1 = .ok set) : (addressOf (.object set) w).1 = .ok b := by
  have hset := resolveSet_isSet hs
  cases given with
  | object r =>
    cases resolveSet_object hs
    exact hb
  | _ =>
    obtain ⟨found,hfound,hrun⟩ := (find_reads _).bind_ok ((resolveSet_reads _).run_ok hs)
    cases found with
    | none => cases hrun
    | some r =>
      obtain ⟨d,hd,hfind⟩ := find_ok hfound
      cases hd.symm.trans hb
      obtain ⟨c,hc,hrun⟩ := (content_reads r).bind_ok hrun
      cases hc
      split at hrun
      · cases hrun
        obtain ⟨e,he⟩ := Contract.address_of_isSet hset
        rw [(hw.found hfind).2 e he] at he
        exact addressOf_of_isSet hset he
      · cases hrun

end Named

section Apart
variable {w v : World} {touched : Ref → Prop} {a b : Address} {ref module set : Ref}

theorem Contract.SameBut.isSet {c c' : Contract} (h : c.SameBut a c') : c'.isSet = c.isSet := by
  cases h <;> rfl

theorem Contract.isSet_redirect (c : Contract) (f : Ref → Ref) :
    (c.redirect f).isSet = c.isSet := by
  cases c <;> rfl

namespace World.Apart

variable (h : w.Apart touched a v)
include h

theorem find (d : Address) : v.find d = w.find d := by
  rw [World.find, h.registered]
  rfl

theorem isSet (hr : ref < w.objects.length) :
    (v.content ref).isSet = (w.content ref).isSet := by
  obtain ⟨place,c,_,hsame,_,hv⟩ := h.contents ref hr
  rw [hv, Contract.isSet_redirect, hsame.isSet]

theorem address (hr : ref < w.objects.length) :
    (v.content ref).address? = (w.content ref).address? := by
  obtain ⟨place,c,_,hsame,_,hv⟩ := h.contents ref hr
  rw [hv, redirect_address, hsame.address]

theorem registryAt (hr : ref < w.objects.length) : Answers w v (registryAt ref) (registryAt ref) := by
  obtain ⟨place,c,_,hsame,_,hv⟩ := h.contents ref hr
  unfold Answers Chain.registryAt
  rw [content_bind, content_bind, hv]
  generalize w.content ref = c₀ at hsame
  cases hsame with
  | same => cases c <;> rfl
  | _ => rfl

theorem controllerAt (hr : ref < w.objects.length) :
    Answers w v (controllerAt ref) (controllerAt ref) := by
  obtain ⟨place,c,_,hsame,_,hv⟩ := h.contents ref hr
  unfold Answers Chain.controllerAt
  rw [content_bind, content_bind, hv]
  generalize w.content ref = c₀ at hsame
  cases hsame with
  | same => cases c <;> rfl
  | _ => rfl

theorem controllerAt_place {place : Ref → Ref} (hp : w.Leads v place)
    (hr : ref < w.objects.length) :
    Answers w v (Chain.controllerAt ref) (Chain.controllerAt (place ref)) := by
  rcases hp ref with he | hc
  · rw [he]
    exact h.controllerAt hr
  · unfold Answers Chain.controllerAt
    rw [content_bind, content_bind, hc]
    cases w.content ref <;> rfl

end World.Apart

/-- A module and what became of it, as far as other sets than the one at `a` can see. -/
structure ClaimModule.Twin (a : Address) (w v : World) (m m' : ClaimModule) : Prop where
  address : m'.address = m.address
  settings : ∀ b, b ≠ a → ClaimSettings.SameFor b m.settings m'.settings
  controller : Answers w v (controllerAt m.controller) (controllerAt m'.controller)

section Views
variable (h : w.Apart touched a v) (hw : w.OwnAddresses)
include h hw

theorem Answers.byModule (hm : module < w.objects.length) {f g : ClaimModule → Run α}
    (hf : ∀ m m', ClaimModule.Twin a w v m m' → Answers w v (f m) (g m')) :
    Answers w v (moduleAt module >>= f) (moduleAt module >>= g) := by
  obtain ⟨place,c,hplace,hsame,_,hv⟩ := h.contents module hm
  have hknown := hw.known.objects module
  rw [moduleAt, bind_assoc, bind_assoc]
  change (_ : Except Fault α) = _
  rw [content_bind, content_bind, hv]
  generalize w.content module = c₀ at hsame hknown
  cases hsame with
  | same =>
    cases c with
    | claimModule m =>
      exact hf m _ ⟨rfl, fun b _ => .refl b _, h.controllerAt_place hplace (hknown _ rfl)⟩
    | _ => rfl
  | @module m m' ha hc hs =>
    refine hf m _ ⟨ha, hs, ?_⟩
    change Answers w v _ (controllerAt (place m'.controller))
    rw [hc]
    exact h.controllerAt_place hplace (hknown m.controller rfl)
  | _ => rfl

omit hw in
theorem integrationRegistry_answers {c c' : Ref}
    (hc : Answers w v (controllerAt c) (controllerAt c')) :
    Answers w v (integrationRegistry c) (integrationRegistry c') := by
  have hrun : ∀ u r, (integrationRegistry r u).1 =
      (controllerAt r u).1.map fun k => u.find k.registry :=
    fun u r => congrArg Prod.fst (answer_run (controllerAt r) (fun k => u.find k.registry) u)
  unfold Answers at hc ⊢
  rw [hrun, hrun, hc]
  exact congrArg (Except.map · _) (funext fun k => h.find k.registry)

theorem namedAdapter_answers (hm : module < w.objects.length) (name : String) :
    Answers w v (namedAdapter module name) (namedAdapter module name) := by
  unfold namedAdapter controllerOf
  simp only [bind_assoc, pure_bind]
  refine .byModule h hw hm fun m m' ht => ?_
  refine .read (integrationRegistry_reads _) (integrationRegistry_reads _)
    (integrationRegistry_answers h ht.controller) fun found hfound => ?_
  cases found with
  | none => rfl
  | some registry =>
    obtain ⟨k,_,hk⟩ := (controllerAt_reads m.controller).bind_ok
      ((integrationRegistry_reads m.controller).run_ok hfound)
    have hr : registry < w.objects.length := (hw.found (Except.ok.inj (Prod.mk.inj hk).1)).1
    refine .byModule h hw hm fun m m' ht => ?_
    rw [ht.address]
    refine .same (integrationAdapter_reads registry _ name) ?_ fun d _ => .ite rfl rfl
    exact .same (registryAt_reads registry) (h.registryAt hr) fun _ _ => .lift fun _ _ => rfl

omit hw in
/-- An address is the same wherever it is read, and a set keeps the one it has. -/
theorem addressOf_answers {given : Value} (hb : (addressOf given w).1 = .ok b) :
    Answers w v (addressOf given) (addressOf given) := by
  unfold Answers
  rw [hb]
  cases given with
  | object r =>
    obtain ⟨hset,ha⟩ := addressOf_object_ok hb
    have hr := World.lt_of_address ha
    exact addressOf_of_isSet ((h.isSet hr).trans hset) ((h.address hr).trans ha)
  | _ => exact hb

omit hw in
theorem find_answers (given : Value) : Answers w v (find given) (find given) :=
  .lift fun d _ => congrArg Except.ok (h.find d)

theorem resolveSet_answers {given : Value} (hb : (addressOf given w).1 = .ok b) :
    Answers w v (resolveSet given) (resolveSet given) := by
  have known {r : Ref} (hr : r < w.objects.length) : Answers w v
      (do if (← content r).isSet then return r else resolveSet.refuse)
      (do if (← content r).isSet then return r else resolveSet.refuse) := by
    unfold Answers
    rw [content_bind, content_bind, h.isSet hr]
    split <;> rfl
  cases given with
  | object r =>
    obtain ⟨hset,ha⟩ := addressOf_object_ok hb
    have hr := World.lt_of_address ha
    simp only [resolveSet]
    unfold Answers
    rw [content_bind, content_bind, h.isSet hr, if_pos hset]
    exact known hr
  | _ =>
    refine .same (find_reads _) (find_answers h _) fun r hr => ?_
    cases r with
    | none => rfl
    | some r =>
      obtain ⟨d,_,hd⟩ := find_ok hr
      exact known (hw.found hd).1

variable {given pool adapter : Value} (hm : module < w.objects.length)
  (hb : (addressOf given w).1 = .ok b) (hne : b ≠ a)
include hm hb hne

theorem anyoneMayClaim_answers :
    Answers w v (anyoneMayClaim module given) (anyoneMayClaim module given) := by
  refine .byModule h hw hm fun m m' ht => ?_
  refine .same (addressOf_reads given) (addressOf_answers h hb) fun b' hb' => ?_
  cases hb.symm.trans hb'
  exact congrArg Except.ok (ht.settings b hne).anyone

theorem rewardPools_answers : Answers w v (rewardPools module given) (rewardPools module given) := by
  refine .byModule h hw hm fun m m' ht => ?_
  refine .same (addressOf_reads given) (addressOf_answers h hb) fun b' hb' => ?_
  cases hb.symm.trans hb'
  exact congrArg Except.ok (ht.settings b hne).pools

theorem rewardPoolAt_answers (index : Int) :
    Answers w v (rewardPoolAt module given index) (rewardPoolAt module given index) := by
  refine .same (rewardPools_reads module given) (rewardPools_answers h hw hm hb hne) fun pools _ => ?_
  refine .ite rfl ?_
  cases pools[index.toNat]? <;> rfl

theorem isRewardPool_answers :
    Answers w v (isRewardPool module given pool) (isRewardPool module given pool) := by
  refine .same (addressOf_reads given) (addressOf_answers h hb) fun b' hb' => ?_
  cases hb.symm.trans hb'
  refine .byModule h hw hm fun m m' ht => .lift fun p _ => ?_
  exact congrArg Except.ok ((ht.settings b hne).flags p)

theorem rewardPoolClaims_answers :
    Answers w v (rewardPoolClaims module given pool) (rewardPoolClaims module given pool) := by
  refine .same (addressOf_reads given) (addressOf_answers h hb) fun b' hb' => ?_
  cases hb.symm.trans hb'
  refine .byModule h hw hm fun m m' ht => .lift fun p _ => ?_
  exact congrArg Except.ok ((ht.settings b hne).adapters p)

theorem isClaimRegistered_answers : Answers w v (isClaimRegistered module given pool adapter)
    (isClaimRegistered module given pool adapter) := by
  refine .same (addressOf_reads given) (addressOf_answers h hb) fun b' hb' => ?_
  cases hb.symm.trans hb'
  refine .lift fun p _ => ?_
  refine .byModule h hw hm fun m m' ht => .lift fun d _ => ?_
  exact congrArg Except.ok ((ht.settings b hne).registered p d)

theorem isRewardPoolClaim_answers (name : String) :
    Answers w v (isRewardPoolClaim module given pool name)
      (isRewardPoolClaim module given pool name) :=
  .same (namedAdapter_reads module name) (namedAdapter_answers h hw hm name) fun _ _ =>
    isClaimRegistered_answers h hw hm hb hne

theorem registeredAdapter_answers (name : String) :
    Answers w v (registeredAdapter module given pool name)
      (registeredAdapter module given pool name) := by
  refine .same (namedAdapter_reads module name) (namedAdapter_answers h hw hm name) fun d _ => ?_
  refine .same (isClaimRegistered_reads module given pool _)
    (isClaimRegistered_answers h hw hm hb hne) fun _ _ => .ite rfl rfl

omit hm hb hne in
theorem pendingRewards_answers (d : Address) :
    Answers w v (pendingRewards d) (pendingRewards d) := by
  unfold Answers pendingRewards
  rw [bind_of_ok (show (get : Run World) v = (.ok v, v) from rfl),
    bind_of_ok (show (get : Run World) w = (.ok w, w) from rfl), h.find]
  cases hf : w.find d with
  | none => rfl
  | some ref =>
    obtain ⟨place,c,_,hsame,_,hv⟩ := h.contents ref (hw.found hf).1
    simp only
    rw [content_bind, content_bind, hv]
    generalize w.content ref = c₀ at hsame
    cases hsame with
    | same => cases c <;> rfl
    | adapter _ hr _ => exact congrArg Except.ok hr
    | _ => rfl

/-- The set that is found is the one whose address was asked about. -/
theorem rewardsOf_answers (name : String) :
    Answers w v (rewardsOf module given pool name) (rewardsOf module given pool name) := by
  refine .same (resolveSet_reads given) (resolveSet_answers h hw hb) fun set hset => ?_
  have hb' := resolveSet_address hw hb hset
  refine .same (registeredAdapter_reads module _ pool name)
    (registeredAdapter_answers h hw hm hb' hne name) fun d _ => ?_
  exact pendingRewards_answers h hw d

end Views

section Holdings
variable (h : w.Apart touched a v)
include h

theorem tokenAt_answers (hr : ref < w.objects.length) (hne : b ≠ a) {f : Token → Run α}
    (hf : ∀ t t', t'.balanceOf b = t.balanceOf b → Answers w v (f t) (f t')) :
    Answers w v (tokenAt ref >>= f) (tokenAt ref >>= f) := by
  obtain ⟨place,c,_,hsame,_,hv⟩ := h.contents ref hr
  rw [tokenAt, bind_assoc]
  change (_ : Except Fault α) = _
  rw [content_bind, content_bind, hv]
  generalize w.content ref = c₀ at hsame
  cases hsame with
  | same =>
    cases c with
    | token t => exact hf t t rfl
    | claimAdapter x => exact hf x.token x.token rfl
    | _ => rfl
  | @adapter x x' _ _ hb => exact hf x.token x'.token (hb b hne)
  | _ => rfl

theorem tokenBalance_answers {holder : Value} (hr : ref < w.objects.length)
    (hb : Address.ofValue holder = .ok b) (hne : b ≠ a) :
    Answers w v (Operation.tokenBalance ref holder).run (Operation.tokenBalance ref holder).run := by
  refine tokenAt_answers h hr hne fun t t' ht => ?_
  rw [hb]
  exact congrArg (fun n => Except.ok (Answer.number n)) ht

theorem balanceOf_answers (hw : w.OwnAddresses) {token holder : Value}
    (hb : Address.ofValue holder = .ok b) (hne : b ≠ a) :
    Answers w v (balanceOf token holder) (balanceOf token holder) := by
  refine .same (find_reads token) (find_answers h token) fun found hf => ?_
  cases found with
  | none => rfl
  | some r =>
    obtain ⟨d,_,hd⟩ := find_ok hf
    obtain ⟨place,c,_,hsame,_,hv⟩ := h.contents r (hw.found hd).1
    unfold Answers
    simp only [hb]
    rw [content_bind, content_bind, hv]
    generalize w.content r = c₀ at hsame
    cases hsame with
    | same => cases c <;> rfl
    | adapter _ _ hbalance => exact congrArg Except.ok (hbalance b hne)
    | _ => rfl

/-- Another set keeps everything but perhaps the place of its controller. -/
theorem setAt_answers (hs : (setAddress set w).1 = .ok b) (hne : b ≠ a) {f : SetToken → Run α}
    (hf : ∀ s r, Answers w v (f s) (f { s with controller := r })) :
    Answers w v (setAt set >>= f) (setAt set >>= f) := by
  obtain ⟨_,haddress⟩ := setAddress_ok hs
  obtain ⟨place,c,_,hsame,_,hv⟩ := h.contents set (World.lt_of_address haddress)
  rw [setAt, bind_assoc]
  change (_ : Except Fault α) = _
  rw [content_bind, content_bind, hv]
  generalize w.content set = c₀ at hsame haddress
  cases hsame with
  | same =>
    cases c with
    | setToken s => exact hf s _
    | _ => rfl
  | set hs _ _ => exact absurd ((Option.some.inj haddress).symm.trans hs) hne
  | _ => rfl

end Holdings

end Apart

section Operations
variable {w v : World} {touched : Ref → Prop} {a b : Address}

/-- What can be asked about the set at an address: about its settings in any module, about the set
itself, and about what it holds. -/
def Operation.Asks (w : World) (b : Address) : Operation → Prop
  | .balanceOf _ holder => Address.ofValue holder = .ok b
  | .tokenBalance token holder => token < w.objects.length ∧ Address.ofValue holder = .ok b
  | .moduleState set _ | .hasModuleState set _ _ | .modules set | .components set
  | .isComponent set _ | .positionUnit set _ => (setAddress set w).1 = .ok b
  | o => ∃ module set, o.viewing? = some (module, set) ∧ module < w.objects.length ∧
    (addressOf set w).1 = .ok b

theorem Operation.answers {q : Operation} (h : w.Apart touched a v) (hw : w.OwnAddresses) (hne : b ≠ a)
    (hq : q.Asks w b) : Answers w v q.run q.run := by
  cases q with
  | balanceOf token holder =>
    exact .same (balanceOf_reads token holder) (balanceOf_answers h hw hq hne) fun _ _ => rfl
  | tokenBalance token holder => exact tokenBalance_answers h hq.1 hq.2 hne
  | moduleState set module =>
    refine .same (moduleState_reads set module) ?_ fun _ _ => rfl
    exact setAt_answers h hq hne fun s r => .lift fun _ _ => rfl
  | hasModuleState set module state =>
    refine .same (hasModuleState_reads set module state) ?_ fun _ _ => rfl
    refine .same (moduleState_reads set module) ?_ fun _ _ => rfl
    exact setAt_answers h hq hne fun s r => .lift fun _ _ => rfl
  | modules set => exact setAt_answers h hq hne fun s r => rfl
  | components set => exact setAt_answers h hq hne fun s r => rfl
  | isComponent set c =>
    refine .same (isComponent_reads set c) ?_ fun _ _ => rfl
    exact .lift fun _ _ => setAt_answers h hq hne fun s r => rfl
  | positionUnit set c =>
    refine .same (positionUnit_reads set c) ?_ fun _ _ => rfl
    exact setAt_answers h hq hne fun s r => .lift fun _ _ => rfl
  | anyoneMayClaim module set =>
    obtain ⟨_,_,he,hm,hb⟩ := hq
    cases he
    exact .same (anyoneMayClaim_reads module set) (anyoneMayClaim_answers h hw hm hb hne) fun _ _ => rfl
  | rewardPools module set =>
    obtain ⟨_,_,he,hm,hb⟩ := hq
    cases he
    exact .same (rewardPools_reads module set) (rewardPools_answers h hw hm hb hne) fun _ _ => rfl
  | rewardPoolAt module set index =>
    obtain ⟨_,_,he,hm,hb⟩ := hq
    cases he
    exact .same (rewardPoolAt_reads module set index) (rewardPoolAt_answers h hw hm hb hne index)
      fun _ _ => rfl
  | isRewardPool module set pool =>
    obtain ⟨_,_,he,hm,hb⟩ := hq
    cases he
    exact .same (isRewardPool_reads module set pool) (isRewardPool_answers h hw hm hb hne) fun _ _ => rfl
  | rewardPoolClaims module set pool =>
    obtain ⟨_,_,he,hm,hb⟩ := hq
    cases he
    exact .same (rewardPoolClaims_reads module set pool) (rewardPoolClaims_answers h hw hm hb hne)
      fun _ _ => rfl
  | isClaimRegistered module set pool adapter =>
    obtain ⟨_,_,he,hm,hb⟩ := hq
    cases he
    exact .same (isClaimRegistered_reads module set pool adapter)
      (isClaimRegistered_answers h hw hm hb hne) fun _ _ => rfl
  | isRewardPoolClaim module set pool name =>
    obtain ⟨_,_,he,hm,hb⟩ := hq
    cases he
    exact .same (isRewardPoolClaim_reads module set pool name)
      (isRewardPoolClaim_answers h hw hm hb hne name) fun _ _ => rfl
  | rewardsOf module set pool name =>
    obtain ⟨_,_,he,hm,hb⟩ := hq
    cases he
    exact .same (rewardsOf_reads pool module set name) (rewardsOf_answers h hw hm hb hne name)
      fun _ _ => rfl
  | _ =>
    obtain ⟨_,_,he,_⟩ := hq
    cases he

/-- A contract is as it was. The controller that it refers to may have been brought back at a new
place. -/
def World.SameContent (w v : World) (ref : Ref) : Prop :=
  ∃ place, w.Leads v place ∧ v.content ref = (w.content ref).redirect place

theorem World.Apart.same {ref : Ref} (h : w.Apart touched a v) (hr : ref < w.objects.length)
    (hn : ¬ touched ref) : w.SameContent v ref := by
  obtain ⟨place,c,hplace,_,ht,hv⟩ := h.contents ref hr
  exact ⟨place, hplace, by rw [hv, ht.resolve_left hn]⟩

theorem World.Apart.same_set {set : Ref} (h : w.Apart touched a v)
    (hs : (setAddress set w).1 = .ok b) (hne : b ≠ a) : w.SameContent v set := by
  obtain ⟨hset,haddress⟩ := setAddress_ok hs
  obtain ⟨place,c,hplace,hsame,_,hv⟩ := h.contents set (World.lt_of_address haddress)
  refine ⟨place, hplace, hv.trans (congrArg (Contract.redirect place) ?_)⟩
  generalize w.content set = c₀ at hsame haddress hset
  cases hsame with
  | same => rfl
  | set hs _ _ => exact absurd ((Option.some.inj haddress).symm.trans hs) hne
  | _ => cases hset

/-- Wherever a deployment has come to with every contract at its own address, a call of a claim
module that names a set reaches the module, the set and the claim adapters it claims from, and no
other contract. Whether it succeeds or fails, every other module and every set at another address is
as it was, and everything that can be asked about such a set is answered as before. -/
theorem sets_are_isolated {accounts : Nat → Address} {owner : Option String} {history : List Step}
    (h : (World.deployed accounts owner).2.Throughout Operation.OwnAddressesOnly history) {o : Operation}
    {module set : Ref} {given : Value} {names : List String} {a : Address} :
    let w := (World.deployed accounts owner).2.after history
    let v := (o.run w).2
    o.naming? = some (module, given, names) → (resolveSet given w).1 = .ok set →
    (setAddress set w).1 = .ok a →
    v.registered = w.registered ∧
    (∀ ref < w.objects.length, w.Reach module set names ref ∨ w.SameContent v ref) ∧
    (∀ other m, w.content other = .claimModule m → other ≠ module → w.SameContent v other) ∧
    (∀ other b, (setAddress other w).1 = .ok b → b ≠ a → w.SameContent v other) ∧
    ∀ (q : Operation) b, q.Asks w b → b ≠ a → (q.run v).1 = (q.run w).1 := by
  intro w v ho hs ha
  have hw : w.OwnAddresses := World.after_ownAddresses h
  have hset := (setAddress_ok ha).1
  have hapart := Operation.apart hw ho hs (setAddress_ok ha).2
  refine ⟨hapart.registered, fun ref hr => ?_, fun other m hm hne => ?_,
    fun other b hb hne => hapart.same_set hb hne,
    fun q b hq hne => Operation.answers hapart hw hne hq⟩
  · by_cases ht : w.Reach module set names ref
    · exact .inl ht
    · exact .inr (hapart.same hr ht)
  · refine hapart.same (World.lt_of_content (by simp [hm])) ?_
    rintro (he | rfl | ⟨_,_,_,_,_,_,hx⟩)
    · exact hne he
    · rw [hm] at hset
      cases hset
    · rw [hm] at hx
      cases hx

namespace Sample

/-- A second set, and an adapter that owes the first one a reward. -/
def neighbours : List Step :=
  history ++ [.operation (.createEnabledSet 1 order), .operation .createClaimAdapter,
    .operation (.setRewards 10 5),
    .operation (.addIntegration 0 (account 6).toValue "rewards" (account 9).toValue),
    .operation (.addClaim 7 manager set pool "rewards")]

theorem neighbours_ownAddresses :
    (World.deployed account (some owner)).2.Throughout Operation.OwnAddressesOnly neighbours := by
  refine ⟨trivial, ⟨by decide +kernel, fun a b _ hb => ?_⟩, ?_⟩
  · cases (show _ = none by decide +kernel).symm.trans hb
  · refine ⟨?_, trivial, ?_, trivial, trivial, ?_, trivial, trivial, trivial, trivial, trivial⟩
    all_goals exact (show _ < _ by decide +kernel)

end Sample

/-- The first claim of the batch pays out before the second one breaks off. The second set, at the
next account, sees nothing of it. -/
theorem sets_are_isolated_broken_batch :
    let w := (World.deployed Sample.account (some Sample.owner)).2.after Sample.neighbours
    let o := Operation.batchClaim 7 Sample.manager Sample.set [Sample.pool, .null]
      ["rewards", "rewards"] [.bytes [], .bytes []]
    let v := (o.run w).2
    v.registered = w.registered ∧
    (∀ ref < w.objects.length, w.Reach 7 8 ["rewards", "rewards"] ref ∨ w.SameContent v ref) ∧
    (∀ other m, w.content other = .claimModule m → other ≠ 7 → w.SameContent v other) ∧
    (∀ other b, (setAddress other w).1 = .ok b → b ≠ Sample.account 7 → w.SameContent v other) ∧
    ∀ (q : Operation) b, q.Asks w b → b ≠ Sample.account 7 → (q.run v).1 = (q.run w).1 := by
  intro w o v
  have hset : (resolveSet Sample.set w).1 = .ok 8 := by decide +kernel
  have haddress : (setAddress 8 w).1 = .ok (Sample.account 7) := by decide +kernel
  have ho : o.naming? = some (7, Sample.set, ["rewards", "rewards"]) := rfl
  clear_value o
  exact sets_are_isolated Sample.neighbours_ownAddresses ho hset haddress

end Operations

end Basketry.Chain
