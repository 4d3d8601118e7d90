import Mathlib.Logic.Relation
import Basketry.Proofs.ClaimEffects
import Basketry.Proofs.UnitArithmetic

namespace Basketry.Chain

open Basketry.Units (preciseUnit)

namespace SetToken
variable {s : SetToken} {c : Address} {supply unit before now derived : Int}

theorem derived_gain (hsupply : 0 < supply) (hnow : 0 < now) (hgain : before < now)
    (h : unitAfter supply unit before now = .ok derived) : unit ≤ derived := by
  have hgained : 0 ≤ (now - before - 1) * preciseUnit :=
    Int.mul_nonneg (by omega) (Int.le_of_lt Units.preciseUnit_pos)
  have hlow := (derived_tight hsupply hnow h).1
  have hpart := Int.ediv_nonneg hgained (Int.le_of_lt hsupply)
  omega

/-- Where nothing came in, the unit falls by what makes up for the remainder, rounded up. -/
theorem derived_idle (hsupply : 0 < supply) (hnow : 0 < now)
    (h : unitAfter supply unit now now = .ok derived) :
    unit * supply % preciseUnit ≤ (unit - derived) * supply ∧
      (unit - derived) * supply < unit * supply % preciseUnit + supply := by
  have hderived := derived_eq hsupply hnow h
  rw [Int.sub_self, Int.zero_mul, Int.zero_sub] at hderived
  have hlow := Int.ediv_mul_le (-(unit * supply % preciseUnit)) (Int.ne_of_gt hsupply)
  have hhigh := Int.lt_ediv_add_one_mul_self (-(unit * supply % preciseUnit)) hsupply
  have hloss : unit - derived = -(-(unit * supply % preciseUnit) / supply) := by omega
  rw [hloss]
  constructor <;> linarith

theorem derived_even (hsupply : 0 < supply) (hnow : 0 < now) (heven : preciseUnit ∣ unit * supply)
    (h : unitAfter supply unit now now = .ok derived) : derived = unit := by
  have hderived := derived_eq hsupply hnow h
  rw [Int.emod_eq_zero_of_dvd heven, Int.sub_self, Int.zero_mul, Int.sub_zero, Int.zero_ediv,
    Int.add_zero] at hderived
  exact hderived

theorem le_reposition (hnonneg : 0 ≤ derived) (hle : s.unit c ≤ derived) :
    s.unit c ≤ (s.reposition c derived).unit c := by
  obtain hkept | ⟨hzero,hc⟩ := s.unit_reposition c hnonneg
  · rw [hkept]
    exact hle
  · rw [(s.rebalanced c derived).absent hzero hc]

theorem reposition_same (hnonneg : 0 ≤ derived) (hsame : derived = s.unit c) :
    (s.reposition c derived).unit c = s.unit c := by
  obtain hkept | ⟨hzero,hc⟩ := s.unit_reposition c hnonneg
  · exact hkept.trans hsame
  · rw [(s.rebalanced c derived).absent hzero hc]

end SetToken

section Balances
variable {w v : World} {component holder : Value} {c a : Address}

/-- What a contract tells of the balance of a holder, however the holder was written. -/
def Contract.tells (holder : Except Fault Address) : Contract → Except Fault Int
  | .token t => holder.map t.balanceOf
  | .claimAdapter x => holder.map x.token.balanceOf
  | .chain => .error .wrongType
  | _ => .error .missingAttribute

theorem balanceOf_told (hc : Address.ofValue component = .ok c) (holder : Value) (w : World) :
    (balanceOf component holder w).1 =
      match w.find c with
      | none => .error (.revert "Call to non-contract")
      | some ref => (w.content ref).tells (Address.ofValue holder) := by
  have hfind : find component w = (.ok (w.find c), w) := by
    unfold find
    rw [hc]
    rfl
  unfold balanceOf
  rw [bind_of_ok hfind]
  cases w.find c with
  | none => rfl
  | some ref =>
    simp only
    rw [content_bind]
    cases w.content ref <;> cases Address.ofValue holder <;> rfl

/-- Worlds with the same places and ledgers tell the same balances. -/
theorem balanceOf_congr (hfind : ∀ b, v.find b = w.find b)
    (htells : ∀ ref holder, (v.content ref).tells holder = (w.content ref).tells holder)
    (hc : Address.ofValue component = .ok c) :
    (balanceOf component holder v).1 = (balanceOf component holder w).1 := by
  rw [balanceOf_told hc, balanceOf_told hc, hfind]
  cases w.find c with
  | none => rfl
  | some ref => exact htells ref _

/-- An adapter that promises nothing pays nothing. -/
theorem tells_paid {x : ClaimAdapter} (hx : x.rewards = 0) (a : Address)
    (holder : Except Fault Address) :
    (Contract.claimAdapter (x.paid a)).tells holder = (Contract.claimAdapter x).tells holder := by
  have hsame : (x.paid a).token.balanceOf = x.token.balanceOf := by
    funext b
    rw [ClaimAdapter.balanceOf_paid, hx, Int.add_zero]
    split
    · rename_i hb
      rw [hb]
    · rfl
  simp only [Contract.tells, hsame]

theorem tells_setContent {ref : Ref} {k : Contract}
    (h : ∀ holder, k.tells holder = (w.content ref).tells holder) (r : Ref)
    (holder : Except Fault Address) :
    ((w.setContent ref k).content r).tells holder = (w.content r).tells holder := by
  rw [World.content_setContent]
  split
  · rename_i hr
    rw [hr.1]
    exact h holder
  · rfl

end Balances

section Claims
variable {w v u : World} {module set : Ref} {a c d token : Address} {s : SetToken} {e : RewardClaimed}
  {pool data : Value} {name : String}

/-- Only an adapter knows a claim of rewards. -/
theorem TokenCall.decode_plain {bytes : List UInt8}
    (h : TokenCall.decode true bytes = .ok (.claimRewards a)) :
    TokenCall.decode false bytes = .error (.revert "Function selector was not recognized") := by
  unfold TokenCall.decode at h ⊢
  simp only at h ⊢
  split at h
  · obtain ⟨xs,_,h⟩ := bind_eq_ok.mp h
    split at h <;> cases h
  · rename_i hn
    rw [if_neg hn]
    split at h
    · obtain ⟨xs,_,h⟩ := bind_eq_ok.mp h
      split at h <;> cases h
    · rename_i hn
      rw [if_neg hn, if_neg (by simp)]

/-- Whatever the call of a claim leads to, it changes nothing but what stands at the address of the
reward token, which pays. -/
theorem invoke_pays {caller : Value} {x : CallData} {reply : Reply}
    (ha : (setAddress set w).1 = .ok a) (ht : (rewardToken d pool w).1 = .ok token)
    (hx : (claimCall d a pool data w).1 = .ok x)
    (h : invoke set caller x.target.toValue (.bytes x.data) w = (.ok reply, u)) :
    u = w ∨ ∃ r y, w.find token = some r ∧ w.content r = .claimAdapter y ∧
      u = w.setContent r (.claimAdapter (y.paid a)) := by
  obtain ⟨ref,hfind,⟨y,hy,hcall⟩ | ⟨m,hm,hcall⟩⟩ := claimCall_ok hx
  · obtain rfl := rewardToken_ok hfind hy ht
    obtain ⟨htarget,hdecode⟩ := ClaimAdapter.claimCall_ok hcall
    obtain ⟨_,hfault,_⟩ | h := invoke_ends ha h
    · cases hfault
    rw [htarget] at h
    have hself := Address.ofValue_toValue a
    have hat := Address.ofValue_toValue y.token.address
    obtain ⟨r,adapter,hr⟩ | ⟨_,hnone⟩ := call_cases hat
    · rw [call_run hself hat rfl hr] at h
      cases hr with
      | token =>
        rw [TokenCall.decode_plain hdecode] at h
        cases h
      | adapter hfound hz =>
        rw [hdecode] at h
        cases h.symm.trans (perform_claimRewards hz a a)
        exact .inr ⟨r, _, hfound, hz, rfl⟩
    · cases hnone.symm.trans h
      exact .inl rfl
  · exact .inl (invoke_distributor ha hcall h)

/-- A call of a claim that brings in nothing leaves every set and every balance as it was. -/
theorem invoke_idle {caller : Value} {x : CallData} {reply : Reply} {held : Int}
    (ha : (setAddress set w).1 = .ok a) (ht : (rewardToken d pool w).1 = .ok token)
    (hx : (claimCall d a pool data w).1 = .ok x)
    (h : invoke set caller x.target.toValue (.bytes x.data) w = (.ok reply, u))
    (hbefore : (balanceOf token.toValue a.toValue w).1 = .ok held)
    (hnow : (balanceOf token.toValue a.toValue u).1 = .ok held) :
    (∀ b, u.find b = w.find b) ∧ (∀ r t, w.content r = .setToken t → u.content r = .setToken t) ∧
      ∀ r holder, (u.content r).tells holder = (w.content r).tells holder := by
  obtain rfl | ⟨r,y,hfind,hy,rfl⟩ := invoke_pays ha ht hx h
  · exact ⟨fun _ => rfl, fun _ _ => id, fun _ _ => rfl⟩
  · have hpaid : (w.setContent r (.claimAdapter (y.paid a))).content r = .claimAdapter (y.paid a) :=
      World.content_setContent_self hy nofun
    -- The balance that is read is the one that the adapter adds its rewards to.
    rw [balanceOf_run hfind hy] at hbefore
    rw [balanceOf_run (show (w.setContent r _).find token = some r from hfind) hpaid,
      ClaimAdapter.balanceOf_paid, if_pos rfl] at hnow
    have hzero : y.rewards = 0 := by
      have hsum := (Except.ok.inj hnow).trans (Except.ok.inj hbefore).symm
      omega
    refine ⟨fun _ => rfl, fun r' t ht => ?_, tells_setContent fun holder => ?_⟩
    · rw [World.content_setContent_of_ne, ht]
      rintro rfl
      cases hy.symm.trans ht
    · rw [hy, tells_paid hzero]

/-- A claim that brings in nothing derives the unit again from a balance that has not moved, and leaves
every balance as it was. -/
theorem World.ClaimSteps.idle (h : w.ClaimSteps module set pool data name e v)
    (hs : w.content set = .setToken s) (hidle : e.amount = 0) :
    ∃ token held unit, (balanceOf token.toValue s.address.toValue w).1 = .ok held ∧
      SetToken.unitAfter s.profile.totalSupply (s.unit token) held held = .ok unit ∧
      v.content set = .setToken (s.reposition token unit) ∧
      ∀ component c holder, Address.ofValue component = .ok c →
        (balanceOf component holder v).1 = (balanceOf component holder w).1 := by
  cases h with
  | @mk m token _ before now unit _ _ u t _ haddress htoken hbefore hcall hinvoke hnow hrecalculate
      _ _ hamount hm hv =>
    subst hv
    have hself : e.setToken = s.address := by
      rw [setAddress_run hs] at haddress
      exact (Except.ok.inj haddress).symm
    obtain rfl : before = now := by omega
    obtain ⟨hfind,hsets,htells⟩ := invoke_idle haddress htoken hcall hinvoke hbefore hnow
    have hset := hsets set s hs
    obtain ⟨s',again,hs',hagain,hunit,rfl⟩ := recalculate_ok hrecalculate
    cases hset.symm.trans hs'
    rw [hself] at hbefore hnow
    cases hnow.symm.trans hagain
    have hmodule : set ≠ module := by
      rintro rfl
      rw [World.content_setContent_self hset nofun] at hm
      cases hm
    refine ⟨token, before, unit, hbefore, hunit, ?_, fun component c holder hc => ?_⟩
    · rw [World.content_setContent_of_ne hmodule]
      exact World.content_setContent_self hset nofun
    · refine balanceOf_congr hfind (fun r holder => ?_) hc
      rw [tells_setContent (fun _ => by rw [hm]; rfl), tells_setContent (fun _ => by rw [hset]; rfl)]
      exact htells r holder

/-- Somebody claims for the set in some module, successfully, and nothing comes in. -/
def World.IdleClaim (set : Ref) (w v : World) : Prop :=
  ∃ module caller given pool name data e, claim module caller given pool name data w = (.ok e, v) ∧
    (resolveSet given w).1 = .ok set ∧ e.amount = 0

/-- The set has the unit that it had as `s`, lists the component where it did with a positive unit, and
holds as much of it. -/
def World.Spares (w : World) (set : Ref) (component : Value) (c : Address) (s : SetToken)
    (held : Int) : Prop :=
  ∃ s', w.content set = .setToken s' ∧ s'.address = s.address ∧ s'.profile = s.profile ∧
    s'.unit c = s.unit c ∧ (c ∈ s.components → 0 < s.unit c → c ∈ s'.components) ∧
    (balanceOf component s.address.toValue w).1 = .ok held

/-- Where the unit counts without a remainder, an idle claim derives it again as it was, and it does
not touch the units of other components. -/
theorem World.IdleClaim.spares {component : Value} {held : Int} (h : World.IdleClaim set w v)
    (hc : Address.ofValue component = .ok c) (hsupply : 0 < s.profile.totalSupply) (hheld : 0 < held)
    (heven : preciseUnit ∣ s.unit c * s.profile.totalSupply)
    (hw : w.Spares set component c s held) : v.Spares set component c s held := by
  obtain ⟨_,_,_,_,_,_,_,hclaim,hresolved,hidle⟩ := h
  obtain ⟨s',hs',haddress,hprofile,hunit,hlisted,hbalance⟩ := hw
  obtain ⟨set',hset',hsteps⟩ := claim_steps hclaim
  cases hset'.symm.trans hresolved
  obtain ⟨token,held',unit,hheld',hderived,hv,hbalances⟩ := hsteps.idle hs' hidle
  have hchange := s'.rebalanced token unit
  have hposition : (s'.reposition token unit).unit c = s'.unit c ∧
      (c ∈ s'.components → 0 < s'.unit c → c ∈ (s'.reposition token unit).components) := by
    by_cases ht : token = c
    · subst ht
      have hsame : held' = held := by
        rw [balanceOf_told (Address.ofValue_toValue token), haddress] at hheld'
        rw [balanceOf_told hc] at hbalance
        exact Except.ok.inj (hheld'.symm.trans hbalance)
      rw [hsame] at hderived
      rw [← hprofile] at hsupply heven
      rw [← hunit] at heven
      have hderived_eq := SetToken.derived_even hsupply hheld heven hderived
      refine ⟨SetToken.reposition_same (SetToken.derived_nonneg hsupply hderived) hderived_eq, ?_⟩
      exact fun _ hpos => (hchange.counted (hderived_eq ▸ hpos)).2
    · obtain ⟨hother,hstill⟩ := hchange.others c (Ne.symm ht)
      exact ⟨hother, fun hm _ => hstill.mpr hm⟩
  refine ⟨_, hv, ?_, ?_, hposition.1.trans hunit, fun hm hpos => ?_,
    (hbalances _ c _ hc).trans hbalance⟩
  · rw [hchange.kept]
    exact haddress
  · rw [hchange.kept]
    exact hprofile
  · exact hposition.2 (hlisted hm hpos) (hunit ▸ hpos)

/-- For every set with a positive supply, what a recalculation does to a position whose balance has
not fallen. Where something is held and something came in, the unit does not fall and a component with a
positive unit is listed. Where nothing came in, the unit falls by what makes up for the remainder that
its product with the supply leaves, rounded up; it stays as it is where there is none, as with one
precise unit in supply, and then stays so through any number of claims that bring in nothing, in whatever
modules they are made. Where nothing is held, no unit is left, and the component is dropped if none is
listed twice. -/
theorem gains_spare_positions {component : Value} {now : Int} (hs : w.content set = .setToken s)
    (hc : Address.ofValue component = .ok c) (hsupply : 0 < s.profile.totalSupply)
    (hbalance : (balanceOf component s.address.toValue w).1 = .ok now) :
    let supply := s.profile.totalSupply
    let unit := s.unit c
    (∀ caller before derived v, before ≤ now →
      recalculate set caller component before w = (.ok derived, v) →
      let left := s.reposition c derived
      v = w.setContent set (.setToken left) ∧
      (0 < now → before < now →
        unit ≤ left.unit c ∧ (0 < unit → c ∈ left.components)) ∧
      (0 < now → before = now →
        unit * supply % preciseUnit ≤ (unit - derived) * supply ∧
        (unit - derived) * supply < unit * supply % preciseUnit + supply ∧
        (preciseUnit ∣ unit * supply →
          left.unit c = unit ∧ (0 < unit → c ∈ left.components))) ∧
      (now ≤ 0 → derived = 0 ∧ (s.components.Nodup → c ∉ left.components))) ∧
    (0 < now → preciseUnit ∣ unit * supply → ∀ v,
      Relation.ReflTransGen (World.IdleClaim set) w v →
      ∃ s', v.content set = .setToken s' ∧ s'.unit c = unit ∧
        (c ∈ s.components → 0 < unit → c ∈ s'.components)) := by
  intro supply unit
  refine ⟨fun caller before derived v hle h => ?_, fun hnow heven v hclaims => ?_⟩
  · obtain ⟨_,hfault,_⟩ | ⟨_,_,hnow',hunit,ho,hv⟩ := recalculate_ends hs hc h
    · cases hfault
    cases hbalance.symm.trans hnow'
    cases ho
    have hnonneg := SetToken.derived_nonneg hsupply hunit
    have hchange := s.rebalanced c derived
    refine ⟨hv, fun hnow hgain => ?_, fun hnow hidle => ?_, fun hnow => ?_⟩
    · have hgained := SetToken.derived_gain hsupply hnow hgain hunit
      exact ⟨SetToken.le_reposition hnonneg hgained,
        fun hpos => (hchange.counted (Int.lt_of_lt_of_le hpos hgained)).2⟩
    · subst hidle
      obtain ⟨hleast,hmost⟩ := SetToken.derived_idle hsupply hnow hunit
      refine ⟨hleast, hmost, fun heven => ?_⟩
      have hsame := SetToken.derived_even hsupply hnow heven hunit
      exact ⟨SetToken.reposition_same hnonneg hsame, fun hpos => (hchange.counted (hsame ▸ hpos)).2⟩
    · rw [SetToken.unitAfter_of_nonpos hnow] at hunit
      cases hunit
      exact ⟨rfl, fun honce => s.dropped c honce⟩
  · have hspared : v.Spares set component c s now := by
      induction hclaims with
      | refl => exact ⟨s, hs, rfl, rfl, rfl, fun hm _ => hm, hbalance⟩
      | tail _ hclaim ih => exact hclaim.spares hc hsupply hnow heven ih
    obtain ⟨s',hs',_,_,hunit,hlisted,_⟩ := hspared
    exact ⟨s', hs', hunit, hlisted⟩

end Claims

namespace Sample

/-- Somebody claims for the set, to whom nothing is promised. -/
def idleClaim : Run RewardClaimed :=
  claim 6 (account 70).toValue (account 8).toValue pool "rewards" (.bytes [])

def idleEvent : RewardClaimed := ⟨account 8, account 2, account 7, 0, []⟩

end Sample

/-- Two claims that bring in nothing leave the unit as it was, with one precise unit in supply. -/
theorem gains_spare_positions_idle :
    let w := (World.deployed Sample.account (some Sample.owner)).2.after
      (Sample.tokenHistory preciseUnit)
    let v := (Sample.idleClaim w).2
    let u := (Sample.idleClaim v).2
    let s := Sample.tokenSet preciseUnit
    let token := Sample.account 7
    (w.content 8 = .setToken s ∧ 0 < s.profile.totalSupply ∧
      (balanceOf token.toValue s.address.toValue w).1 = .ok 2 ∧
      World.IdleClaim 8 w v ∧ World.IdleClaim 8 v u) ∧
    ∃ s', u.content 8 = .setToken s' ∧ s'.unit token = 2 ∧ token ∈ s'.components := by
  intro w v u s token
  have hs : w.content 8 = .setToken s := by decide +kernel
  have hbalance : (balanceOf token.toValue s.address.toValue w).1 = .ok 2 := by decide +kernel
  have hresolved : (resolveSet (Sample.account 8).toValue w).1 = .ok 8 := by decide +kernel
  have hanswers : (Sample.idleClaim w).1 = .ok Sample.idleEvent ∧
      (Sample.idleClaim v).1 = .ok Sample.idleEvent ∧
      (resolveSet (Sample.account 8).toValue v).1 = .ok 8 := by
    simp only [v, Sample.idleClaim, Chain.claim, claimOne, Chain.claimCall, ClaimAdapter.claimCall,
      CallData.call, invoke, Chain.call, call.answer, TokenCall.decode, transfer_selector,
      mint_selector, claimRewards_selector]
    decide +kernel
  obtain ⟨hfirst,hsecond,hagain⟩ := hanswers
  have hwv : World.IdleClaim 8 w v := ⟨_, _, _, _, _, _, _, run_of_answer hfirst, hresolved, rfl⟩
  have hvu : World.IdleClaim 8 v u := ⟨_, _, _, _, _, _, _, run_of_answer hsecond, hagain, rfl⟩
  obtain ⟨s',hs',hunit,hlisted⟩ := (gains_spare_positions hs (Address.ofValue_toValue token)
    (by decide) hbalance).2 (by decide) (by decide) u (.tail (.single hwv) hvu)
  exact ⟨⟨hs, by decide, hbalance, hwv, hvu⟩, s', hs', hunit, hlisted (by decide) (by decide)⟩

/-- A claim that brings in nothing lowers the unit where its product with the supply leaves a remainder,
and the next one drops the component, though the set holds as much as before. A component of which
nothing is held is dropped at once. -/
theorem idle_claims_wear_units_down :
    let w := (World.deployed Sample.account (some Sample.owner)).2.after
      (Sample.tokenHistory (preciseUnit + 1))
    let v := (Sample.idleClaim w).2
    let u := (Sample.idleClaim v).2
    let module := (Sample.account 6).toValue
    let token := (Sample.account 7).toValue
    let held := balanceOf token (Sample.account 8).toValue
    ((Sample.idleClaim w).1 = .ok Sample.idleEvent ∧ (Sample.idleClaim v).1 = .ok Sample.idleEvent ∧
      (held w).1 = .ok 2 ∧ (held v).1 = .ok 2 ∧ (held u).1 = .ok 2) ∧
    ((positionUnit 8 token w).1 = .ok 2 ∧ (recalculate 8 module token 2 w).1 = .ok 1 ∧
      (positionUnit 8 token v).1 = .ok 1 ∧ (isComponent 8 token v).1 = .ok true ∧
      (positionUnit 8 token u).1 = .ok 0 ∧ (isComponent 8 token u).1 = .ok false) ∧
    let outcome := recalculate 8 module Sample.pool 0 Sample.world
    (positionUnit 8 Sample.pool Sample.world).1 = .ok 1 ∧
      (balanceOf Sample.pool Sample.set Sample.world).1 = .ok 0 ∧ outcome.1 = .ok 0 ∧
      (isComponent 8 Sample.pool outcome.2).1 = .ok false := by
  simp only [Sample.idleClaim, Chain.claim, claimOne, Chain.claimCall, ClaimAdapter.claimCall,
    CallData.call, invoke, Chain.call, call.answer, TokenCall.decode, transfer_selector,
    mint_selector, claimRewards_selector]
  decide +kernel

end Basketry.Chain
