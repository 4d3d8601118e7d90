import Basketry.Proofs.Accounts
import Basketry.Proofs.Batches
import Basketry.Proofs.Keeping
import Basketry.Proofs.OrderlyHistories

namespace Basketry.Chain

variable {p : Ref → Aspect → Prop} {u v w : World} {adapter module set : Ref} {x : ClaimAdapter}

namespace Contract

/-- What a set lists. -/
def components : Contract → List Address
  | .setToken s => s.components
  | _ => []

/-- A set has units of its components only. -/
def Tidy : Contract → Prop
  | .setToken s => ∀ c, c ∉ s.components → s.unit c = 0
  | _ => True

theorem tidy_of_no_set {c : Contract} (h : ∀ s, c ≠ .setToken s) : c.Tidy := by
  cases c with
  | setToken s => exact absurd rfl (h s)
  | _ => trivial

theorem tidy_past (h : w.objects.length ≤ set) : (w.content set).Tidy := by
  rw [World.content_past h]
  trivial

end Contract

section Founded

theorem setContent_tidy {ref n : Ref} {c : Contract} (hc : (w.content ref).Tidy → c.Tidy) :
    KeepsAt (fun w => (w.content n).Tidy) (setContent ref c) w := by
  intro hw
  change ((w.setContent ref c).content n).Tidy
  rw [World.content_setContent]
  split
  · rename_i h
    exact hc (h.1 ▸ hw)
  · exact hw

/-- The units of a new set are those of its order. -/
theorem createSet_tidy (n controller : Ref) (order : SetOrder) :
    KeepsAt (fun w => (w.content n).Tidy) (createSet controller order) w := by
  have created : KeepsAt (fun w => (w.content n).Tidy)
      (create fun a => .setDraft ⟨a, controller, none⟩) w := by
    intro hw
    change ((w.create fun a => .setDraft ⟨a, controller, none⟩).2.content n).Tidy
    rw [World.content_create_eq]
    split
    · trivial
    · exact hw
  refine .guard fun _ => created.bind fun ref v _ => ?_
  refine .read (setAddress_reads ref) fun address _ => ?_
  refine .read (.lift _) fun manager _ => ?_
  refine KeepsAt.bind (setContent_tidy ?_) fun _ v _ => ?_
  · exact fun _ => trivial
  refine .read (.mapM fun _ => .lift _) fun components _ => ?_
  refine KeepsAt.bind (setContent_tidy ?_) fun _ v _ => ?_
  · exact fun _ c hc => Table.getD_ofList_zip hc 0
  refine KeepsAt.answer (.forM fun module _ v => ?_) _
  refine .read (content_reads ref) fun c hc => ?_
  cases hc
  cases hs : v.content ref with
  | setToken s =>
    refine .read (.lift _) fun a _ => setContent_tidy fun hw => ?_
    rw [hs] at hw
    exact hw
  | _ => exact (Reads.throw _).keeps

theorem createEnabledSet_tidy (n controller : Ref) (order : SetOrder) :
    KeepsAt (fun w => (w.content n).Tidy) (createEnabledSet controller order) w := by
  refine (createSet_tidy n controller order).bind fun ref v _ => ?_
  refine .read (setAddress_reads ref) fun a _ => ?_
  refine .read (controllerAt_reads controller) fun c _ => ?_
  refine .read (.lift _) fun c' _ => ?_
  refine KeepsAt.answer (setContent_tidy ?_) _
  exact fun _ => trivial

theorem setRewards_tidy (n token : Ref) (rewards : Int) :
    KeepsAt (fun w => (w.content n).Tidy) (setRewards token rewards) w := by
  refine KeepsAt.read (adapterAt_reads token) fun x _ => setContent_tidy ?_
  exact fun _ => trivial

end Founded

namespace Operation

/-- An operation after which the rewards of an adapter can be accounted for. Nobody mints or moves
its token other than by claims, promises a negative reward of it, or works on a basket by hand, and
no snapshot is brought back. -/
def Accountable (adapter : Ref) : Operation → Prop
  | .mint token _ _ | .transfer token _ _ _ => token ≠ adapter
  | .setRewards token rewards => token = adapter → 0 ≤ rewards
  | .call .. | .invoke .. | .addComponent .. | .removeComponent .. | .setUnit .. | .recalculate ..
  | .revert .. => False
  | _ => True

instance (adapter : Ref) : DecidablePred (Accountable adapter) := fun o => by
  cases o <;> unfold Accountable <;> infer_instance

/-- An operation that books nothing: neither a claim nor a new promise of the adapter. -/
def IsQuiet (adapter : Ref) : Operation → Prop
  | .claim .. | .batchClaim .. => False
  | .setRewards token _ => token ≠ adapter
  | _ => True

theorem touches_sparesBooks {o : Operation} (ha : o.Accountable adapter) (hq : o.IsQuiet adapter) :
    SparesBooks (o.touches w) adapter w := by
  constructor <;> intros <;> cases o <;>
    simp [touches, managed, named, fresh, Accountable, IsQuiet] at * <;> grind

end Operation

/-- The books go on, and a set that is new begins in step, unless it begins with the token of the
adapter among its components. -/
def World.Proceeds (w : World) (adapter : Ref) (x : ClaimAdapter) (v : World) : Prop :=
  ∃ x', w.Onward adapter x v x' ∧ ∀ set, w.objects.length ≤ set →
    x.token.address ∉ (v.content set).components → v.InStep x' set

section Operations

theorem World.Quiet.proceeds (h : w.Quiet adapter v) (hw : w.Booked adapter x) (hp : v.Placed)
    (hs : v.Standing) (ht : ∀ set, w.objects.length ≤ set → (v.content set).Tidy) :
    w.Proceeds adapter x v := by
  obtain ⟨x',hx',hnew⟩ := h.onward hw hp hs
  refine ⟨x', hx', fun set hl hd s hset _ => ?_⟩
  have htidy := ht set hl
  rw [hset] at hd htidy
  rw [hx'.address, hnew set s hl hset]
  exact ⟨htidy _ hd, iff_of_false hd (Int.lt_irrefl 0)⟩

theorem Undone.proceeds (h : Undone p w v) (hw : w.Booked adapter x) (hp : v.Placed)
    (hs : v.Standing) : w.Proceeds adapter x v :=
  (h.quiet hw.standing).proceeds hw hp hs fun _ hl =>
    Contract.tidy_of_no_set fun _ => h.no_new_set hw.standing hl

/-- Claims that succeed create nothing, and of claims that are refused nothing is left. -/
theorem claims_proceed {call : Run α} {claims : Ref → Run α} {caller given : Value} {f : Footprint}
    (hcall : call = atomically (claimableSet module caller given >>= claims))
    (hignores : ∀ set, IgnoresSnapshots (claims set))
    (hclaims : ∀ set y v, claims set w = (.ok y, v) →
      v.objects.length = w.objects.length ∧ ∃ x', w.Onward adapter x v x')
    (hblock : Block f call) (hs : Settled (call w).1) (hw : w.Booked adapter x)
    (hp : (call w).2.Placed) (hstanding : (call w).2.Standing) :
    w.Proceeds adapter x (call w).2 := by
  rcases hblock.settled hs with ⟨y,u,hrun⟩ | ⟨_,u,hrun,hundone⟩
  · have hreads := claimableSet_reads module caller given
    rw [hrun]
    rw [hcall] at hrun
    obtain ⟨set,_,hset⟩ := hreads.bind_ok ((hreads.ignoresSnapshots.bind hignores).atomically_ok hrun)
    obtain ⟨hlength,x',hx'⟩ := hclaims set y _ hset
    refine ⟨x', hx', fun set hl _ s hset => ?_⟩
    exact absurd hset (World.no_set_past (hlength ▸ hl) s)
  · rw [hrun] at hp hstanding ⊢
    exact hundone.proceeds hw hp hstanding

theorem claim_proceeds {caller given pool data : Value} {name : String}
    (hs : Settled (claim module caller given pool name data w).1) (hw : w.Booked adapter x)
    (hp : (claim module caller given pool name data w).2.Placed)
    (hstanding : (claim module caller given pool name data w).2.Standing) :
    w.Proceeds adapter x (claim module caller given pool name data w).2 := by
  have hcall : claim module caller given pool name data =
      atomically (claimableSet module caller given >>= fun set =>
        claimOne module set pool name data) := rfl
  exact claims_proceed hcall (fun set => claimOne_ignoresSnapshots module set pool name data)
    (fun set e v h => claimOne_onward hw h) (claim_block pool name data) hs hw hp hstanding

theorem batchClaim_proceeds {caller given : Value} {pools data : List Value} {names : List String}
    (hs : Settled (batchClaim module caller given pools names data w).1) (hw : w.Booked adapter x)
    (hp : (batchClaim module caller given pools names data w).2.Placed)
    (hstanding : (batchClaim module caller given pools names data w).2.Standing) :
    w.Proceeds adapter x (batchClaim module caller given pools names data w).2 := by
  have hcall : batchClaim module caller given pools names data =
      atomically (claimableSet module caller given >>= _) := rfl
  have hignores : ∀ set (x : (Value × String) × Value),
      IgnoresSnapshots (claimOne module set x.1.1 x.1.2 x.2) :=
    fun set x => claimOne_ignoresSnapshots module set x.1.1 x.1.2 x.2
  refine claims_proceed hcall (fun set => ?_) (fun set es v h => ?_)
    (batchClaim_block pools names data) hs hw hp hstanding
  · refine (checkArrays_reads pools names).ignoresSnapshots.bind fun _ => ?_
    split
    · exact (Reads.throw _).ignoresSnapshots.bind fun _ => .mapM (hignores set)
    · exact .mapM (hignores set)
  · obtain ⟨_,_,h⟩ := (checkArrays_reads pools names).bind_ok h
    obtain ⟨_,h⟩ := guard_ok h
    exact mapM_onward hw h

/-- What a quiet operation leaves where nothing was is not a set, or it is one as it was ordered. -/
theorem Operation.tidy {o : Operation} (h : Effect (o.touches w) w (o.run w).2)
    (hd : SparesBooks (o.touches w) adapter w) (hf : (o.run w).2.Fresh)
    (hl : w.objects.length ≤ set) : ((o.run w).2.content set).Tidy := by
  have hnone : (w.content set).Tidy := Contract.tidy_past hl
  cases o with
  | createSet controller order => exact (createSet_tidy set controller order).answer _ hnone
  | createEnabledSet controller order =>
    exact (createEnabledSet_tidy set controller order).answer _ hnone
  | _ =>
    refine Contract.tidy_of_no_set fun _ => h.no_new_set hd hf (fun ref hk => ?_) hl
    simp [touches, managed, named, claimed] at hk

theorem Operation.proceeds {o : Operation} (hp : o.Proper w) (ha : o.Accountable adapter)
    (hs : Settled (o.run w).1) (hf : (o.run w).2.Fresh) (hw : w.Booked adapter x) :
    w.Proceeds adapter x (o.run w).2 := by
  have hn : ∀ id, o ≠ .revert id := by
    rintro id rfl
    exact ha
  have hplaced := (Operation.keeps_placed hp hn hs hw.placed hf).1
  have hstanding := Operation.keeps_standing hp hn hs hw.placed hf hw.standing
  by_cases hq : o.IsQuiet adapter
  · have hd := touches_sparesBooks (w := w) ha hq
    rcases (o.effect hp hn).settled hs with h | h
    · exact (h.quiet hd hf).proceeds hw hplaced hstanding fun _ hl => o.tidy h hd hf hl
    · exact h.proceeds hw hplaced hstanding
  · cases o with
    | claim module caller given pool name data =>
      have hrun : (Operation.run (.claim module caller given pool name data) w).2 =
          (Chain.claim module caller given pool name data w).2 :=
        congrArg Prod.snd (answer_run _ Answer.event w)
      rw [hrun] at hplaced hstanding ⊢
      exact claim_proceeds (settled_answer hs) hw hplaced hstanding
    | batchClaim module caller given pools names data =>
      have hrun : (Operation.run (.batchClaim module caller given pools names data) w).2 =
          (Chain.batchClaim module caller given pools names data w).2 :=
        congrArg Prod.snd (answer_run _ Answer.events w)
      rw [hrun] at hplaced hstanding ⊢
      exact batchClaim_proceeds (settled_answer hs) hw hplaced hstanding
    | setRewards token rewards =>
      have htoken : token = adapter := of_not_not hq
      subst htoken
      have hrun : (Operation.run (.setRewards token rewards) w).2 =
          (Chain.setRewards token rewards w).2 :=
        congrArg Prod.snd (answer_run _ (fun _ => Answer.nothing) w)
      have htidy : ∀ set, w.objects.length ≤ set →
          ((Chain.setRewards token rewards w).2.content set).Tidy := fun set hl =>
        setRewards_tidy set token rewards (Contract.tidy_past hl)
      rw [hrun] at hplaced hstanding ⊢
      exact (setRewards_quiet (ha rfl)).proceeds hw hplaced hstanding htidy
    | _ => exact absurd trivial hq

end Operations

section Histories

/-- The components of a set in the first world of the run that has it. -/
def World.initially (w : World) (set : Ref) : List Operation → List Address
  | [] => (w.content set).components
  | o :: run =>
    if set < w.objects.length then (w.content set).components
    else (o.run w).2.initially set run

theorem World.initially_of_lt (h : set < w.objects.length) (run : List Operation) :
    w.initially set run = (w.content set).components := by
  cases run with
  | nil => rfl
  | cons o run => exact if_pos h

/-- By induction over the run. A set is in step from the beginning, or from the world on that has it
for the first time. -/
theorem World.Booked.after {run : List Operation} (hw : w.Booked adapter x)
    (ho : w.Orderly (run.map .operation)) (ha : ∀ o ∈ run, o.Accountable adapter)
    (hf : (w.after (run.map .operation)).Fresh) :
    ∃ x', x'.token.address = x.token.address ∧
      (w.after (run.map .operation)).Booked adapter x' ∧
      ∀ set, (set < w.objects.length ∧ w.InStep x set) ∨
        (w.objects.length ≤ set ∧ x.token.address ∉ w.initially set run) →
        (w.after (run.map .operation)).InStep x' set := by
  induction run generalizing w x with
  | nil =>
    refine ⟨x, rfl, hw, fun set h => ?_⟩
    rcases h with ⟨_,hstep⟩ | ⟨hl,_⟩
    · exact hstep
    · exact fun s hs => absurd hs (World.no_set_past hl s)
  | cons o run ih =>
    obtain ⟨⟨hp,hs⟩,hrest⟩ := ho
    have hnext : (o.run w).2.Fresh := ((o.run w).2.after_moves (run.map .operation)).fresh hf
    obtain ⟨y,hy,hnew⟩ := o.proceeds hp (ha o List.mem_cons_self) hs hnext hw
    have hl : w.objects.length ≤ (o.run w).2.objects.length :=
      (w.after_moves [.operation o]).objects
    obtain ⟨x',haddress,hx',hstep⟩ :=
      ih hy.booked hrest (fun o' h => ha o' (List.mem_cons_of_mem o h)) hf
    refine ⟨x', haddress.trans hy.address, hx', fun set h => hstep set ?_⟩
    rcases h with ⟨hset,hin⟩ | ⟨hset,hd⟩
    · exact .inl ⟨Nat.lt_of_lt_of_le hset hl, hy.inStep set hset hin⟩
    · rw [World.initially, if_neg (Nat.not_lt.mpr hset)] at hd
      rcases Nat.lt_or_ge set (o.run w).2.objects.length with hlt | hge
      · rw [World.initially_of_lt hlt] at hd
        exact .inl ⟨hlt, hnew set hset hd⟩
      · exact .inr ⟨hge, hy.address ▸ hd⟩

/-- No log and no basket mentions the address. -/
def World.DoesNotMention (w : World) (d : Address) : Prop :=
  (∀ e ∈ w.events, e.adapter ≠ d) ∧ ∀ b ∈ w.baskets, d ∉ b.components ∧ b.units.getD d 0 = 0

instance (w : World) (d : Address) : Decidable (w.DoesNotMention d) := by
  unfold World.DoesNotMention
  infer_instance

/-- A new adapter promises nothing, and nobody holds any of its token. -/
theorem createClaimAdapter_ok (hrun : createClaimAdapter u = (.ok adapter, v))
    (hx : v.content adapter = .claimAdapter x) :
    Effect (fun _ _ => False) u v ∧ x.rewards = 0 ∧ (∀ a, x.token.balanceOf a = 0) ∧
      x.token.totalSupply = 0 := by
  have hadapter : u.objects.length = adapter := Except.ok.inj (congrArg Prod.fst hrun)
  have hv : (u.create fun a =>
      .claimAdapter ⟨⟨a, "ClaimAdapter", "CLAIM", 18, 0, {}⟩, 0⟩).2 = v := congrArg Prod.snd hrun
  have heffect : Effect (fun _ _ => False) u v :=
    ⟨v, hv ▸ .created (fun a => .claimAdapter a _ _ _) fun _ => rfl, .refl⟩
  rw [← hv, World.content_create_eq, if_pos hadapter.symm] at hx
  cases hx
  exact ⟨heffect, rfl, fun _ => rfl, rfl⟩

/-- A new adapter begins with empty books. -/
theorem World.Booked.new (hu : u.Placed) (hs : u.Standing) (hf : v.Fresh)
    (hrun : createClaimAdapter u = (.ok adapter, v)) (hx : v.content adapter = .claimAdapter x)
    (hn : u.DoesNotMention x.token.address) :
    v.Booked adapter x ∧ ∀ set, v.InStep x set := by
  obtain ⟨heffect,hrewards,hbalance,hsupply⟩ := createClaimAdapter_ok hrun hx
  have hspares : SparesBooks (fun _ _ => False) adapter u :=
    ⟨fun _ => id, fun _ => id, id, id, fun _ => False.elim⟩
  have hquiet := heffect.quiet hspares hf
  have hnone : ∀ e ∈ v.events, e.adapter ≠ x.token.address := hquiet.events ▸ hn.1
  have hearned : ∀ a, earned v.events x.token.address a = 0 := fun a =>
    earned_eq_zero fun e he hd => absurd hd (hnone e he)
  have hissued : issued v.events x.token.address = 0 :=
    (sum_earned List.nodup_nil fun e he hd => absurd hd (hnone e he)).symm
  have hbooked : v.Booked adapter x :=
    { placed := (heffect.keeps_placed (fun _ _ => False.elim) hu hf).1
      standing := heffect.keeps_standing hu hf hs
      stands := hx
      promised := Int.le_of_eq hrewards.symm
      held := fun a => (hbalance a).trans (hearned a).symm
      solvent := fun a => Int.le_of_eq (hbalance a).symm
      supply := hsupply.trans hissued.symm
      claimants := fun e he hd => absurd hd (hnone e he) }
  refine ⟨hbooked, fun set s hset _ => ?_⟩
  have hold : set < u.objects.length := by
    refine Nat.lt_of_not_le fun hl => ?_
    exact heffect.no_new_set hspares hf (fun _ => id) hl hset
  have hbasket := hquiet.baskets set hold
  rw [hset] at hbasket
  obtain ⟨s₀,hs₀,hb⟩ := Contract.basket_eq hbasket.symm
  obtain ⟨hcomponents,hunit⟩ := hn.2 _ (World.mem_baskets.mpr ⟨set, s₀, hs₀, hb⟩)
  rw [hbalance]
  exact ⟨hunit, iff_of_false hcomponents (Int.lt_irrefl 0)⟩

end Histories

/-- A claim adapter is created where contracts stand at their addresses and nothing mentions the new
one. From then on a run of operations that succeed or are refused leaves the logs, the ledger and
the baskets in agreement. Every set holds of the adapter's token what the claims from the adapter
for the set come to, and the supply is the sum of this over all sets. A set that has one precise
unit in supply, and did not begin with the token, counts its holding as its unit and lists the token
exactly if it holds any. -/
theorem rewards_accounted (accounts : Nat → Address) (owner : Option String) (before : List Step)
    (run : List Operation) (adapter : Ref) (start : World) (new : ClaimAdapter) :
    let deployed := (World.deployed accounts owner).2
    let u := deployed.after before
    let d := new.token.address
    let w := start.after (run.map .operation)
    deployed.Orderly before → u.Standing → createClaimAdapter u = (.ok adapter, start) →
    start.content adapter = .claimAdapter new → u.DoesNotMention d →
    start.Orderly (run.map .operation) → (∀ o ∈ run, o.Accountable adapter) → w.Fresh →
    ∃ x, w.content adapter = .claimAdapter x ∧ x.token.address = d ∧
      x.token.totalSupply = (w.setAddresses.map (earned w.events d)).sum ∧
      ∀ set s, w.content set = .setToken s →
        x.token.balanceOf s.address = earned w.events d s.address ∧
        (s.profile.totalSupply = Units.preciseUnit → d ∉ start.initially set run →
          s.unit d = x.token.balanceOf s.address ∧
          (d ∈ s.components ↔ 0 < x.token.balanceOf s.address)) := by
  intro deployed u d w hbefore hstanding hcreated hnew hunmentioned horderly haccountable hfresh
  have hstart : start.Fresh := (start.after_moves _).fresh hfresh
  have hu : u.Fresh := by
    cases hcreated
    exact hstart.before rfl (Nat.le_succ _)
  have hdeployed : deployed.Fresh := (deployed.after_moves before).fresh hu
  have hplaced := ((World.deployed_sound accounts owner hdeployed).after hbefore hu).placed
  obtain ⟨hbooked,hstep⟩ := World.Booked.new hplaced hstanding hstart hcreated hnew hunmentioned
  obtain ⟨x,haddress,hx,hend⟩ := hbooked.after horderly haccountable hfresh
  have hclaimants := hx.claimants
  have hsupply := hx.supply
  rw [haddress] at hclaimants hsupply
  have hsum := sum_earned hx.standing.setAddresses_nodup hclaimants
  refine ⟨x, hx.stands, haddress, hsupply.trans hsum.symm, fun set s hs => ⟨?_, fun hone hd => ?_⟩⟩
  · rw [hx.held, haddress]
  · have hset : w.InStep x set := by
      refine hend set ?_
      rcases Nat.lt_or_ge set start.objects.length with hl | hl
      · exact .inl ⟨hl, hstep set⟩
      · exact .inr ⟨hl, hd⟩
    have hwhole := hset s hs hone
    rwa [haddress] at hwhole

namespace Sample

/-- The new adapter promises a reward and serves the pool of the first set. A second set is made. -/
def promised : List Operation :=
  [.setRewards 9 5, .addIntegration 0 (account 6).toValue "rewards" (account 8).toValue,
    .addClaim 7 manager Sample.set pool "rewards", .createEnabledSet 1 order]

/-- The second claim of the batch is refused. -/
def batchedClaim : Operation :=
  .batchClaim 7 manager Sample.set [pool, pool] ["rewards", "unknown"] [.bytes [], .bytes []]

def singleClaim : Operation := .claim 7 manager Sample.set pool "rewards" (.bytes [])

def rewarded : List Operation := promised ++ [batchedClaim, singleClaim]

theorem rewarded_orderly :
    let start := (createClaimAdapter ((World.deployed account (some owner)).2.after history)).2
    start.Orderly (rewarded.map .operation) ∧ (start.after (rewarded.map .operation)).Fresh ∧
      earned (start.after (rewarded.map .operation)).events (account 8) (account 7) = 5 := by
  intro start
  have haccounts : start.accounts = account := by
    have hcreate : ∀ v : World, (createClaimAdapter v).2.accounts = v.accounts := fun _ => rfl
    rw [hcreate, (World.after_moves _ _).drawn.1, (World.deployed_moves _ _).drawn.1]
  have hpromised : start.Orderly (promised.map .operation) :=
    ⟨⟨trivial, by decide +kernel⟩, ⟨trivial, by decide +kernel⟩, ⟨trivial, by decide +kernel⟩,
      ⟨trivial, by decide +kernel⟩, trivial⟩
  have hclaims : let v := start.after (promised.map .operation)
      Settled (batchedClaim.run v).1 ∧ Settled (singleClaim.run (batchedClaim.run v).2).1 ∧
        (singleClaim.run (batchedClaim.run v).2).2.drawn = 10 ∧
        earned (singleClaim.run (batchedClaim.run v).2).2.events (account 8) (account 7) = 5 := by
    -- With the selectors written out, this is decided without a hash.
    simp only [batchedClaim, singleClaim, Operation.run, Chain.claim, Chain.batchClaim, claimOne,
      Chain.claimCall, ClaimAdapter.claimCall, CallData.call, invoke, Chain.call, call.answer,
      TokenCall.decode, transfer_selector, mint_selector, claimRewards_selector]
    decide +kernel
  obtain ⟨hbatch,hsingle,hdrawn,hearned⟩ := hclaims
  have hafter : ∀ v : World, v.after (rewarded.map .operation) =
      (singleClaim.run (batchedClaim.run (v.after (promised.map .operation))).2).2 := fun _ => rfl
  have hlast : (start.after (promised.map .operation)).Orderly
      ([batchedClaim, singleClaim].map .operation) :=
    ⟨⟨trivial, hbatch⟩, ⟨trivial, hsingle⟩, trivial⟩
  refine ⟨World.orderly_append.mpr ⟨hpromised, hlast⟩, ?_, ?_⟩
  · unfold World.Fresh
    rw [(World.after_moves _ _).drawn.1, haccounts, hafter, hdrawn]
    decide +kernel
  · rw [hafter]
    exact hearned

end Sample

/-- The first set has earned the reward once, of the single claim. -/
theorem rewards_accounted_once :
    let deployed := (World.deployed Sample.account (some Sample.owner)).2
    let u := deployed.after Sample.history
    let start := (createClaimAdapter u).2
    let d := Sample.account 8
    let w := start.after (Sample.rewarded.map .operation)
    (deployed.Orderly Sample.history ∧ u.Standing ∧ u.DoesNotMention d ∧
      start.Orderly (Sample.rewarded.map .operation) ∧
      (∀ o ∈ Sample.rewarded, o.Accountable 9) ∧ w.Fresh) ∧
    earned w.events d (Sample.account 7) = 5 ∧
    ∃ x, w.content 9 = .claimAdapter x ∧ x.token.address = d ∧
      x.token.totalSupply = (w.setAddresses.map (earned w.events d)).sum ∧
      ∀ set s, w.content set = .setToken s →
        x.token.balanceOf s.address = earned w.events d s.address ∧
        (s.profile.totalSupply = Units.preciseUnit → d ∉ start.initially set Sample.rewarded →
          s.unit d = x.token.balanceOf s.address ∧
          (d ∈ s.components ↔ 0 < x.token.balanceOf s.address)) := by
  intro deployed u start d w
  have hstanding : u.Standing := by decide +kernel
  have hunmentioned : u.DoesNotMention d := by decide +kernel
  have hcreated : createClaimAdapter u = (.ok 9, start) := Prod.ext (by decide +kernel) rfl
  have hnew : start.content 9 =
      .claimAdapter ⟨⟨d, "ClaimAdapter", "CLAIM", 18, 0, {}⟩, 0⟩ := by decide +kernel
  have haccountable : ∀ o ∈ Sample.rewarded, o.Accountable 9 := by decide
  obtain ⟨horderly,hfresh,hearned⟩ := Sample.rewarded_orderly
  have h := rewards_accounted Sample.account (some Sample.owner) Sample.history Sample.rewarded 9
    start _ Sample.history_orderly hstanding hcreated hnew hunmentioned horderly haccountable hfresh
  exact ⟨⟨Sample.history_orderly, hstanding, hunmentioned, horderly, haccountable, hfresh⟩, hearned,
    h⟩

namespace Sample

/-- The adapter is served by a module that is off the chain. -/
def promisedOff : List Operation :=
  [.setRewards 9 5, .addIntegration 0 (account 6).toValue "rewards" (account 8).toValue,
    .addClaim 7 manager (.object 8) pool "rewards"]

/-- The second claim of the batch is refused, since its pool is unknown. -/
def batchedClaimOff : Operation :=
  .batchClaim 7 manager (.object 8) [pool, (account 3).toValue] ["rewards", "rewards"]
    [.bytes [], .bytes []]

end Sample

/-- A module that stands at no address keeps in its log the claim of a refused batch, of which neither the
set nor the supply has anything left. -/
theorem refused_claims_stay_logged_off_the_chain :
    let u := (World.deployed Sample.account (some Sample.owner)).2.after Sample.moduleGone
    let start := (createClaimAdapter u).2
    let d := Sample.account 8
    let run := Sample.promisedOff ++ [Sample.batchedClaimOff]
    let w := start.after (run.map .operation)
    (u.DoesNotMention d ∧ ∀ o ∈ run, o.Accountable 9) ∧
      start.Orderly (run.map .operation) ∧
      (balanceOf d.toValue Sample.set w).1 = .ok 0 ∧
      earned w.events d (Sample.account 7) = 5 := by
  intro u start d run w
  have hpromised : start.Orderly (Sample.promisedOff.map .operation) :=
    ⟨⟨trivial, by decide +kernel⟩, ⟨trivial, by decide +kernel⟩, ⟨trivial, by decide +kernel⟩,
      trivial⟩
  have hclaimed : let v := start.after (Sample.promisedOff.map .operation)
      Settled (Sample.batchedClaimOff.run v).1 ∧
        (balanceOf d.toValue Sample.set (Sample.batchedClaimOff.run v).2).1 = .ok 0 ∧
        earned (Sample.batchedClaimOff.run v).2.events d (Sample.account 7) = 5 := by
    -- With the selectors written out, this is decided without a hash.
    simp only [Sample.batchedClaimOff, Operation.run, Chain.batchClaim, claimOne, Chain.claimCall,
      ClaimAdapter.claimCall, CallData.call, invoke, Chain.call, call.answer, TokenCall.decode,
      transfer_selector, mint_selector, claimRewards_selector]
    decide +kernel
  obtain ⟨hsettled,hheld,hearned⟩ := hclaimed
  have hafter : ∀ v : World, v.after (run.map .operation) =
      (Sample.batchedClaimOff.run (v.after (Sample.promisedOff.map .operation))).2 := fun _ => rfl
  have hlast : (start.after (Sample.promisedOff.map .operation)).Orderly
      ([Sample.batchedClaimOff].map .operation) := ⟨⟨trivial, hsettled⟩, trivial⟩
  refine ⟨⟨by decide +kernel, by decide⟩, World.orderly_append.mpr ⟨hpromised, hlast⟩, ?_, ?_⟩
  · rw [show w = _ from hafter start]
    exact hheld
  · rw [show w = _ from hafter start]
    exact hearned

end Basketry.Chain
