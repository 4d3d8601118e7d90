import Basketry.Proofs.Rewards

namespace Basketry.Chain

section Effects
variable {w v : World} {module ref : Ref} {d : Address} {x : ClaimAdapter} {e : RewardClaimed}
  {caller given pool data : Value} {name : String}

theorem pendingRewards_run (hfind : w.find d = some ref) (hx : w.content ref = .claimAdapter x) :
    pendingRewards d w = (.ok x.rewards, w) := by
  unfold pendingRewards
  rw [bind_of_ok (show (get : Run World) w = (.ok w, w) from rfl), hfind]
  simp only
  rw [content_bind, hx]
  rfl

/-- A claim that succeeds is one for a set that the name of the set leads to. -/
theorem claim_steps (h : claim module caller given pool name data w = (.ok e, v)) :
    ∃ set, (resolveSet given w).1 = .ok set ∧ w.ClaimSteps module set pool data name e v := by
  have hcall : claim module caller given pool name data =
      atomically (claimableSet module caller given >>= fun set =>
        claimOne module set pool name data) := rfl
  have hreads := claimableSet_reads module caller given
  have hignores :=
    hreads.ignoresSnapshots.bind fun set => claimOne_ignoresSnapshots module set pool name data
  rw [hcall] at h
  obtain ⟨set,hset,h⟩ := hreads.bind_ok (hignores.atomically_ok h)
  exact ⟨set, (claimableSet_ok hset).found, claimOne_steps h⟩

theorem rewardsOf_run {set : Ref} (hset : (resolveSet given w).1 = .ok set)
    (hadapter : (registeredAdapter module (.object set) pool name w).1 = .ok d)
    (hfind : w.find d = some ref) (hx : w.content ref = .claimAdapter x) :
    rewardsOf module given pool name w = (.ok x.rewards, w) := by
  unfold rewardsOf
  rw [bind_of_ok ((resolveSet_reads given).run_ok hset),
    bind_of_ok ((registeredAdapter_reads module _ pool name).run_ok hadapter)]
  exact pendingRewards_run hfind hx

theorem claimCall_adapter {a : Address} {c : CallData} (hfind : w.find d = some ref)
    (hx : w.content ref = .claimAdapter x) (h : (claimCall d a pool data w).1 = .ok c) :
    x.claimCall a = .ok c := by
  obtain ⟨found,hfound,hcall⟩ := claimCall_ok h
  obtain rfl : found = ref := Option.some.inj (hfound.symm.trans hfind)
  rcases hcall with ⟨y,hy,hcall⟩ | ⟨y,hy,_⟩
  · cases hx.symm.trans hy
    exact hcall
  · cases hx.symm.trans hy

theorem ClaimAdapter.balanceOf_paid (x : ClaimAdapter) (holder b : Address) :
    (x.paid holder).token.balanceOf b =
      if b = holder then x.token.balanceOf holder + x.rewards else x.token.balanceOf b :=
  Token.balanceOf_mint ..

/-- What a claim reads besides balances. -/
theorem World.ClaimSteps.read {set : Ref} (h : w.ClaimSteps module set pool data name e v) :
    (registeredAdapter module (.object set) pool name w).1 = .ok e.adapter ∧
      Address.ofValue pool = .ok e.pool ∧ CallData.bytesOfValue data = .ok e.claimData := by
  obtain ⟨hadapter,_,_,_,_,_,_,_,hpool,hdata,_,_,_⟩ := h
  exact ⟨hadapter, hpool, hdata⟩

/-- Where the token of the adapter leads to the adapter itself, all that a claim changes is the
adapter, the position of the set and the log. -/
theorem World.ClaimSteps.effect {set : Ref}
    (h : w.ClaimSteps module set pool data name e v) (hfind : w.find e.adapter = some ref)
    (hx : w.content ref = .claimAdapter x) (hown : w.find x.token.address = some ref) :
    ∃ s m unit, w.content set = .setToken s ∧ w.content module = .claimModule m ∧
      e.setToken = s.address ∧ e.amount = x.rewards ∧
      SetToken.unitAfter s.profile.totalSupply (s.unit x.token.address)
        (x.token.balanceOf s.address) (x.token.balanceOf s.address + x.rewards) = .ok unit ∧
      v = ((w.setContent ref (.claimAdapter (x.paid s.address))).setContent set
        (.setToken (s.reposition x.token.address unit))).setContent module
          (.claimModule { m with events := m.events ++ [e] }) := by
  obtain ⟨_,ha,htoken,hbefore,hc,hinvoke,hnow,hrecalculate,_,_,hamount,hm,rfl⟩ := h
  generalize e.setToken = a at *
  obtain rfl := rewardToken_ok hfind hx htoken
  have hcall := claimCall_adapter hfind hx hc
  rcases invoke_adapter ha hown hx hcall hinvoke with ⟨_,hfault,_⟩ | ⟨_,rfl⟩
  · cases hfault
  obtain ⟨s,again,hsu,hagain,hunit,rfl⟩ := recalculate_ok hrecalculate
  have hs : w.content set = .setToken s := World.content_before hsu nofun
  obtain rfl : a = s.address := by
    rw [setAddress_run hs] at ha
    exact (Except.ok.inj ha).symm
  have hm : w.content module = .claimModule _ :=
    World.content_before (World.content_before hm nofun) nofun
  -- Both balances are those of the adapter itself, before it pays and behind it.
  let u := w.setContent ref (.claimAdapter (x.paid s.address))
  have hfound : u.find (x.paid s.address).token.address = some ref := hown
  have hpaid : u.content ref = .claimAdapter (x.paid s.address) :=
    World.content_setContent_self hx nofun
  have hafter := balanceOf_run hfound hpaid s.address
  rw [ClaimAdapter.balanceOf_paid, if_pos rfl] at hafter
  cases hbefore.symm.trans (congrArg Prod.fst (balanceOf_run hown hx s.address))
  cases hnow.symm.trans (congrArg Prod.fst hafter)
  cases hagain.symm.trans (congrArg Prod.fst hafter)
  exact ⟨s, _, _, hs, hm, rfl, by omega, hunit, rfl⟩

/-- The effect of a claim, in any state, through an adapter whose own address leads to it. The event
names the set, the pool, the adapter as the registry has it, what the adapter promises, which is what
could be asked for just before, and the data. The event is kept; the balance of the set and the supply
grow by what was promised; the unit is the one that comes of the balances before and after. Nothing
else changes: no balance of another holder, no other component or unit, no settings and no other
contract. -/
theorem claims_take_effect (h : claim module caller given pool name data w = (.ok e, v))
    (hd : (namedAdapter module name w).1 = .ok d) (hfind : w.find d = some ref)
    (hx : w.content ref = .claimAdapter x) (hown : w.find x.token.address = some ref) :
    let token := x.token.address
    ∃ set s m p bytes unit, (resolveSet given w).1 = .ok set ∧
      w.content set = .setToken s ∧ w.content module = .claimModule m ∧
      Address.ofValue pool = .ok p ∧ CallData.bytesOfValue data = .ok bytes ∧
      e = ⟨s.address, p, d, x.rewards, bytes⟩ ∧
      rewardsOf module given pool name w = (.ok x.rewards, w) ∧
      let held := x.token.balanceOf s.address
      let paid := x.paid s.address
      let left := s.reposition token unit
      SetToken.unitAfter s.profile.totalSupply (s.unit token) held (held + x.rewards) = .ok unit ∧
      v = ((w.setContent ref (.claimAdapter paid)).setContent set (.setToken left)).setContent module
        (.claimModule { m with events := m.events ++ [e] }) ∧
      paid.token.balanceOf s.address = held + x.rewards ∧
      paid.token.totalSupply = x.token.totalSupply + x.rewards ∧
      (∀ b, b ≠ s.address → paid.token.balanceOf b = x.token.balanceOf b) ∧
      (∀ c, c ≠ token → left.unit c = s.unit c ∧ (c ∈ left.components ↔ c ∈ s.components)) ∧
      ∀ r, r ≠ ref → r ≠ set → r ≠ module → v.content r = w.content r := by
  intro token
  obtain ⟨set,hset,hsteps⟩ := claim_steps h
  obtain ⟨hadapter,hpool,hdata⟩ := hsteps.read
  cases hd.symm.trans (registeredAdapter_ok hadapter).1
  obtain ⟨s,m,unit,hs,hm,haddress,hamount,hunit,hv⟩ := hsteps.effect hfind hx hown
  refine ⟨set, s, m, _, _, unit, hset, hs, hm, hpool, hdata, ?_,
    rewardsOf_run hset hadapter hfind hx, hunit, hv, ?_, rfl, ?_, ?_, ?_⟩
  · rw [← haddress, ← hamount]
  · rw [ClaimAdapter.balanceOf_paid, if_pos rfl]
  · intro b hb
    rw [ClaimAdapter.balanceOf_paid, if_neg hb]
  · exact (s.rebalanced token unit).others
  · intro r href hset hmodule
    rw [hv, World.content_setContent_of_ne hmodule, World.content_setContent_of_ne hset,
      World.content_setContent_of_ne href]

end Effects

/-- An adapter that stands at its own address pays what it promises. -/
theorem claims_take_effect_promised :
    let start := (createClaimAdapter ((World.deployed Sample.account (some Sample.owner)).2.after
      Sample.history)).2
    let w := start.after (Sample.promised.map .operation)
    let x : ClaimAdapter := ⟨⟨Sample.account 8, "ClaimAdapter", "CLAIM", 18, 0, {}⟩, 5⟩
    ∃ v, (claim 7 Sample.manager Sample.set Sample.pool "rewards" (.bytes []) w =
        (.ok ⟨Sample.account 7, Sample.account 2, Sample.account 8, 5, []⟩, v) ∧
      (namedAdapter 7 "rewards" w).1 = .ok x.token.address ∧
      w.find x.token.address = some 9 ∧ w.content 9 = .claimAdapter x) ∧
      rewardsOf 7 Sample.set Sample.pool "rewards" w = (.ok 5, w) := by
  intro start w x
  have hanswer : (claim 7 Sample.manager Sample.set Sample.pool "rewards" (.bytes []) w).1 =
      .ok ⟨Sample.account 7, Sample.account 2, Sample.account 8, 5, []⟩ := by
    -- The selectors are written out, so that no hash is computed.
    simp only [Chain.claim, claimOne, Chain.claimCall, ClaimAdapter.claimCall, CallData.call, invoke,
      Chain.call, call.answer, TokenCall.decode, transfer_selector, mint_selector,
      claimRewards_selector]
    decide +kernel
  have hnamed : (namedAdapter 7 "rewards" w).1 = .ok x.token.address := by decide +kernel
  have hfind : w.find x.token.address = some 9 := by decide +kernel
  have hx : w.content 9 = .claimAdapter x := by decide +kernel
  have hclaim := run_of_answer hanswer
  obtain ⟨_,_,_,_,_,_,_,_,_,_,_,_,hrewards,_⟩ := claims_take_effect hclaim hnamed hfind hx hfind
  exact ⟨_, ⟨hclaim, hnamed, hfind, hx⟩, hrewards⟩

namespace Sample

/-- An adapter serves the pool from a second address, and another one is registered at the first. -/
def displaced : List Step :=
  history ++ [.operation .createClaimAdapter, .operation (.setRewards 9 5),
    .operation (.register 9 (account 51).toValue),
    .operation (.addIntegration 0 (account 6).toValue "rewards" (account 51).toValue),
    .operation (.addClaim 7 manager Sample.set pool "rewards"), .operation .createClaimAdapter,
    .operation (.setRewards 10 7), .operation (.register 10 (account 8).toValue)]

end Sample

/-- Where another adapter stands at the address of the one that serves the pool, the other one is
called and pays, and the reward is not the one that could be asked for. -/
theorem displaced_adapter_is_not_claimed_from :
    let w := (World.deployed Sample.account (some Sample.owner)).2.after Sample.displaced
    let x : ClaimAdapter := ⟨⟨Sample.account 8, "ClaimAdapter", "CLAIM", 18, 0, {}⟩, 5⟩
    (namedAdapter 7 "rewards" w).1 = .ok (Sample.account 51) ∧
      w.find (Sample.account 51) = some 9 ∧ w.content 9 = .claimAdapter x ∧
      w.find x.token.address = some 10 ∧
      (rewardsOf 7 Sample.set Sample.pool "rewards" w).1 = .ok 5 ∧
      let outcome := claim 7 Sample.manager Sample.set Sample.pool "rewards" (.bytes []) w
      outcome.1 = .ok ⟨Sample.account 7, Sample.account 2, Sample.account 51, 7, []⟩ ∧
      outcome.2.content 9 = .claimAdapter x := by
  intro w x
  refine ⟨by decide +kernel, by decide +kernel, by decide +kernel, by decide +kernel,
    by decide +kernel, ?_⟩
  simp only [Chain.claim, claimOne, Chain.claimCall, ClaimAdapter.claimCall, CallData.call, invoke,
    Chain.call, call.answer, TokenCall.decode, transfer_selector, mint_selector,
    claimRewards_selector]
  decide +kernel

end Basketry.Chain
