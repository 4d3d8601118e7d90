import Basketry.Proofs.SettingsAgree
import Basketry.Proofs.Keeping

namespace Basketry.Chain

/-- The settings of a module agree; other contracts have none. -/
def Contract.Agrees : Contract → Prop
  | .claimModule m => m.settings.Agree
  | _ => True

theorem Contract.Agrees.change (h : Change k c c') (ha : c.Agrees) : c'.Agrees := by
  cases h with
  | settings h => exact ClaimSettings.Agree.revision ha h
  | event m e => exact ha
  | _ => trivial

/-- Agreement begins with the empty settings of a new module, and no change and no snapshot breaks
it. -/
theorem Contract.agrees_lasting : Lasting Contract.Agrees := by
  refine ⟨trivial, fun h => ?_, fun {c} f h => ?_, fun h ha => ha.change h⟩
  · cases h with
    | claimModule => exact ClaimSettings.Agree.empty
    | _ => trivial
  · cases c with
    | claimModule m => exact h
    | _ => trivial

theorem World.after_agrees (accounts : Nat → Address) (owner : Option String)
    (history : List Step) :
    ((World.deployed accounts owner).2.after history).Everywhere Contract.Agrees := by
  have hnew : World.Everywhere Contract.Agrees { accounts } :=
    ⟨fun _ => trivial, by simp, by simp⟩
  have hdeployed : (World.deployed accounts owner).2.Everywhere Contract.Agrees :=
    (World.deployed_moves accounts owner).everywhere Contract.agrees_lasting hnew
  exact (World.after_moves _ history).everywhere Contract.agrees_lasting hdeployed

section Views
variable {w : World} {module : Ref} {m : ClaimModule} {set pool adapter : Value} {a p d : Address}

theorem moduleAt_run (hm : w.content module = .claimModule m) : moduleAt module w = (.ok m, w) := by
  unfold moduleAt
  rw [content_bind, hm]
  rfl

theorem rewardPools_run (hm : w.content module = .claimModule m)
    (ha : addressOf set w = (.ok a, w)) :
    rewardPools module set w = (.ok (m.settings.poolList a), w) := by
  unfold rewardPools
  rw [bind_of_ok (moduleAt_run hm), bind_of_ok ha]
  rfl

theorem anyoneMayClaim_run (hm : w.content module = .claimModule m)
    (ha : addressOf set w = (.ok a, w)) :
    anyoneMayClaim module set w = (.ok (m.settings.anyoneMayClaim a), w) := by
  unfold anyoneMayClaim
  rw [bind_of_ok (moduleAt_run hm), bind_of_ok ha]
  rfl

theorem isRewardPool_run (hm : w.content module = .claimModule m)
    (ha : addressOf set w = (.ok a, w)) (hp : Address.ofValue pool = .ok p) :
    isRewardPool module set pool w = (.ok (m.settings.isPool a p), w) := by
  unfold isRewardPool
  rw [bind_of_ok ha, bind_of_ok (moduleAt_run hm), hp]
  rfl

theorem rewardPoolClaims_run (hm : w.content module = .claimModule m)
    (ha : addressOf set w = (.ok a, w)) (hp : Address.ofValue pool = .ok p) :
    rewardPoolClaims module set pool w = (.ok (m.settings.adapterList a p), w) := by
  unfold rewardPoolClaims
  rw [bind_of_ok ha, bind_of_ok (moduleAt_run hm), hp]
  rfl

theorem isClaimRegistered_run (hm : w.content module = .claimModule m)
    (ha : addressOf set w = (.ok a, w)) (hp : Address.ofValue pool = .ok p)
    (hd : Address.ofValue adapter = .ok d) :
    isClaimRegistered module set pool adapter w = (.ok (m.settings.isRegistered a p d), w) := by
  unfold isClaimRegistered
  rw [bind_of_ok ha, hp, hd]
  change (moduleAt module >>= _) w = _
  rw [bind_of_ok (moduleAt_run hm)]
  rfl

end Views

/-- After any history of a deployment, whatever failed in it, a pool is listed for a set exactly as
long as it is flagged and as long as it has claims, a claim is listed exactly as long as it is
flagged, and no list has an address twice. -/
theorem claim_views_agree (accounts : Nat → Address) (owner : Option String) (history : List Step)
    (module : Ref) (m : ClaimModule) (set pool adapter : Value) (a p d : Address) :
    let w := (World.deployed accounts owner).2.after history
    w.content module = .claimModule m → addressOf set w = (.ok a, w) →
    Address.ofValue pool = .ok p → Address.ofValue adapter = .ok d →
    ∃ pools isPool claims isClaim, rewardPools module set w = (.ok pools, w) ∧
      isRewardPool module set pool w = (.ok isPool, w) ∧
      rewardPoolClaims module set pool w = (.ok claims, w) ∧
      isClaimRegistered module set pool adapter w = (.ok isClaim, w) ∧
      (p ∈ pools ↔ isPool = true) ∧ (isPool = true ↔ claims ≠ []) ∧
      (d ∈ claims ↔ isClaim = true) ∧ pools.Nodup ∧ claims.Nodup := by
  intro w hm ha hp hd
  have hagree : m.settings.Agree := by
    have h := (World.after_agrees accounts owner history).objects module
    rwa [hm] at h
  refine ⟨_, _, _, _, rewardPools_run hm ha, isRewardPool_run hm ha hp,
    rewardPoolClaims_run hm ha hp, isClaimRegistered_run hm ha hp hd, ?_⟩
  exact ⟨hagree.listed a p, hagree.served a p, hagree.registered a p d, hagree.pools_nodup a,
    hagree.adapters_nodup a p⟩

/-- The batch breaks off at its second pool, with the first one registered. -/
def Sample.broken : List Step :=
  Sample.history ++ [.operation
    (.batchAddClaim 7 manager set [(account 3).toValue, .null] ["morpho", "morpho"])]

def Sample.brokenModule : ClaimModule :=
  ⟨account 6, 1,
    { pools := ⟨[(account 7, [account 2, account 3])]⟩
      poolFlags := ⟨[(account 7, ⟨[(account 2, true), (account 3, true)]⟩)]⟩
      adapters := ⟨[(account 7, ⟨[(account 2, [account 50]), (account 3, [account 50])]⟩)]⟩
      adapterFlags := ⟨[(account 7,
        ⟨[(account 2, ⟨[(account 50, true)]⟩), (account 3, ⟨[(account 50, true)]⟩)]⟩)]⟩
      anyone := ⟨[(account 7, false)]⟩ }, []⟩

theorem claim_views_agree_after_broken_batch :
    let w := (World.deployed Sample.account (some Sample.owner)).2.after Sample.broken
    ∃ pools isPool claims isClaim, rewardPools 7 Sample.set w = (.ok pools, w) ∧
      isRewardPool 7 Sample.set (Sample.account 3).toValue w = (.ok isPool, w) ∧
      rewardPoolClaims 7 Sample.set (Sample.account 3).toValue w = (.ok claims, w) ∧
      isClaimRegistered 7 Sample.set (Sample.account 3).toValue (Sample.account 50).toValue w =
        (.ok isClaim, w) ∧
      (Sample.account 3 ∈ pools ↔ isPool = true) ∧ (isPool = true ↔ claims ≠ []) ∧
      (Sample.account 50 ∈ claims ↔ isClaim = true) ∧ pools.Nodup ∧ claims.Nodup :=
  claim_views_agree Sample.account (some Sample.owner) Sample.broken 7 Sample.brokenModule Sample.set
    (Sample.account 3).toValue (Sample.account 50).toValue
    (Sample.account 7) (Sample.account 3) (Sample.account 50) (by decide +kernel) rfl rfl rfl

end Basketry.Chain
