import Basketry.Proofs.HistoriesAlike
import Basketry.Proofs.Results
import Basketry.Proofs.ViewsAgree

namespace Basketry.Chain
open ClaimSettings

namespace ClaimSettings

variable {c : ClaimSettings} {set : Address}

/-- The settings as if the set had never come up: no table knows it. -/
def without (c : ClaimSettings) (set : Address) : ClaimSettings :=
  { pools := c.pools.erase set
    poolFlags := c.poolFlags.erase set
    adapters := c.adapters.erase set
    adapterFlags := c.adapterFlags.erase set
    anyone := c.anyone.erase set }

/-- No view finds anything for the set. -/
structure Blank (c : ClaimSettings) (set : Address) : Prop where
  pools : c.poolList set = []
  flags : ∀ pool, c.isPool set pool = false
  adapters : ∀ pool, c.adapterList set pool = []
  registered : ∀ pool adapter, c.isRegistered set pool adapter = false
  anyone : c.anyoneMayClaim set = false

theorem Agree.blank (ha : c.Agree) (hp : c.poolList set = [])
    (hany : c.anyoneMayClaim set = false) : c.Blank set := by
  have hflags : ∀ pool, c.isPool set pool = false := by
    intro pool
    have h := ha.listed set pool
    simpa [hp] using h
  have hadapters : ∀ pool, c.adapterList set pool = [] := by
    intro pool
    have h := ha.served set pool
    simpa [hflags pool] using h
  refine ⟨hp, hflags, hadapters, fun pool adapter => ?_, hany⟩
  have h := ha.registered set pool adapter
  simpa [hadapters pool] using h

theorem Forgotten.blank {d : ClaimSettings} (h : Forgotten set c d) (ha : d.Agree) :
    d.Blank set :=
  ha.blank (by simp [h.pools]) (by simp [h.anyone])

/-- Settings from which nothing can be learned about a set may as well not know it. -/
theorem Blank.same (h : c.Blank set) (s : Address) : SameFor s c (c.without set) := by
  by_cases hs : s = set
  · subst hs
    refine ⟨?_, fun p => ?_, fun p => ?_, fun p a => ?_, ?_⟩
    · rw [h.pools]
      simp [poolList, without]
    · rw [h.flags]
      simp [isPool, without]
    · rw [h.adapters]
      simp [adapterList, without]
    · rw [h.registered]
      simp [isRegistered, without]
    · rw [h.anyone]
      simp [anyoneMayClaim, without]
  · refine ⟨?_, fun p => ?_, fun p => ?_, fun p a => ?_, ?_⟩
    · simp [poolList, without, hs]
    · simp [isPool, without, hs]
    · simp [adapterList, without, hs]
    · simp [isRegistered, without, hs]
    · simp [anyoneMayClaim, without, hs]

theorem Blank.alike (h : c.Blank set) (ha : c.Agree) : Alike c (c.without set) :=
  .inr ⟨ha, ha.of_same h.same, h.same⟩

end ClaimSettings

/-- The world as if a module had never come across a set. -/
def World.unaware (w : World) (module : Ref) (set : Address) : World :=
  match w.content module with
  | .claimModule m => w.setContent module (.claimModule { m with settings := m.settings.without set })
  | _ => w

section Removal
variable {w : World} {module set : Ref} {m : ClaimModule} {s : SetToken} {d : ClaimSettings}
  {caller given : Value}

theorem updateSettings_run {change : ClaimSettings → Except Fault ClaimSettings}
    (hm : w.content module = .claimModule m) (hd : change m.settings = .ok d) :
    updateSettings module change w =
      (.ok (), w.setContent module (.claimModule { m with settings := d })) := by
  unfold updateSettings
  rw [bind_of_ok (moduleAt_run hm), hd]
  rfl

theorem forgetSet_run (hm : w.content module = .claimModule m) (hs : w.content set = .setToken s)
    (hd : m.settings.clear s.address = .ok d) : forgetSet module (.object set) w =
      (.ok (), w.setContent module (.claimModule { m with settings := d })) := by
  have hblock : (do
      let set ← resolveSet (.object set)
      let address ← setAddress set
      updateSettings module (·.clear address)) w.snapshot.2 =
      (.ok (), w.snapshot.2.setContent module (.claimModule { m with settings := d })) := by
    have hm' : w.snapshot.2.content module = .claimModule m := hm
    have hs' : w.snapshot.2.content set = .setToken s := hs
    rw [bind_of_ok (resolveSet_run hs'), bind_of_ok (setAddress_run hs')]
    exact updateSettings_run hm' hd
  unfold forgetSet
  rw [atomically_run, hblock, World.settle_ok]
  simp [World.setContent, World.snapshot]

/-- The manager takes an initialized module off the set: it forgets the set, and the set it. -/
theorem removeModule_run (hm : w.content module = .claimModule m)
    (hfind : w.find m.address = some module) (hs : w.content set = .setToken s)
    (hstate : s.moduleState m.address = .initialized)
    (hcaller : Address.ofValue caller = .ok s.profile.manager)
    (hgiven : Address.ofValue given = .ok m.address) (hd : m.settings.clear s.address = .ok d) :
    removeModule set caller given w =
      (.ok (), (w.setContent module (.claimModule { m with settings := d })).setContent set
        (.setToken (s.setModuleState m.address .none))) := by
  have hne : set ≠ module := by
    rintro rfl
    rw [hs] at hm
    cases hm
  have hmanager : onlyManager set caller w = (.ok (), w) := by
    unfold onlyManager
    rw [hcaller]
    change (setProfile set >>= _) w = _
    rw [bind_of_ok (setProfile_run hs), SetToken.onlyManager, if_pos rfl]
    rfl
  have hfound : find given w = (.ok (some module), w) := by
    rw [find_run hgiven, hfind]
  have hs' : (w.setContent module (.claimModule { m with settings := d })).content set =
      .setToken s := by
    rw [World.content_setContent, if_neg fun h => hne h.1, hs]
  unfold removeModule
  rw [bind_of_ok hmanager, bind_of_ok (moduleState_run hs hgiven), hstate]
  change (find given >>= _) w = _
  rw [bind_of_ok hfound]
  simp only
  rw [content_bind, hm]
  change (forgetSet module (.object set) >>= _) w = _
  rw [bind_of_ok (forgetSet_run hm hs hd), bind_of_ok (setAt_run hs'), hgiven]
  rfl

/-- What a module answers about a set for which no view finds anything. -/
theorem blank_views {name : Value} {a : Address} (hm : w.content module = .claimModule m)
    (hb : m.settings.Blank a) (ha : addressOf name w = (.ok a, w)) :
    rewardPools module name w = (.ok [], w) ∧ anyoneMayClaim module name w = (.ok false, w) ∧
      ∀ pool p, Address.ofValue pool = .ok p →
        rewardPoolClaims module name pool w = (.ok [], w) ∧
        isRewardPool module name pool w = (.ok false, w) ∧
        ∀ adapter d, Address.ofValue adapter = .ok d →
          isClaimRegistered module name pool adapter w = (.ok false, w) := by
  refine ⟨?_, ?_, fun pool p hp => ⟨?_, ?_, fun adapter d hd => ?_⟩⟩
  · rw [rewardPools_run hm ha, hb.pools]
  · rw [anyoneMayClaim_run hm ha, hb.anyone]
  · rw [rewardPoolClaims_run hm ha hp, hb.adapters]
  · rw [isRewardPool_run hm ha hp, hb.flags]
  · rw [isClaimRegistered_run hm ha hp hd, hb.registered]

end Removal

section Unaware
variable {w : World}

theorem ContentsAlike.refl (xs : List (Ref × Contract)) : ContentsAlike xs xs :=
  List.forall₂_same.mpr fun _ _ => ⟨rfl, .same _⟩

theorem World.Alike.refl (w : World) : w.Alike w :=
  ⟨rfl, fun _ => .same _, rfl, List.forall₂_same.mpr fun _ _ => ⟨rfl, .refl _, .refl _⟩, rfl, rfl⟩

/-- No history can tell settings that answer alike. -/
theorem World.alike_resettled {module : Ref} {m : ClaimModule} {d : ClaimSettings}
    (hm : w.content module = .claimModule m) (h : m.settings.Alike d) :
    w.Alike (w.setContent module (.claimModule { m with settings := d })) := by
  have hsettings : Contract.Alike (.claimModule m) (.claimModule { m with settings := d }) :=
    .settings m h
  have hv := (World.Alike.refl w).setContent hsettings module
  rwa [World.setContent_same hm] at hv

/-- Where no view finds anything for a set, the world is like one in which it never came up. -/
theorem World.unaware_alike {module : Ref} {m : ClaimModule} {set : Address}
    (hm : w.content module = .claimModule m) (ha : m.settings.Agree)
    (hb : m.settings.Blank set) : w.Alike (w.unaware module set) := by
  have h := World.alike_resettled hm (hb.alike ha)
  simpa only [World.unaware, hm] using h

end Unaware

/-- After any history of a deployment, the manager of a set can take off it any module that is
registered and initialized there. No view of the module then finds anything for the set, and nothing
that happens later can tell the module from one to which the set was never known. -/
theorem removal_leaves_no_residue (accounts : Nat → Address) (owner : Option String)
    (history : List Step) (module set : Ref) (m : ClaimModule) (s : SetToken)
    (caller given : Value) :
    let w := (World.deployed accounts owner).2.after history
    w.content module = .claimModule m → w.find m.address = some module →
    w.content set = .setToken s → s.moduleState m.address = .initialized →
    Address.ofValue caller = .ok s.profile.manager → Address.ofValue given = .ok m.address →
    ∃ v, (Operation.removeModule set caller given).run w = (.ok .nothing, v) ∧
      moduleState set given v = (.ok .none, v) ∧
      (∀ name, name = .object set ∨ Address.ofValue name = .ok s.address →
        rewardPools module name v = (.ok [], v) ∧
        anyoneMayClaim module name v = (.ok false, v) ∧
        ∀ pool p, Address.ofValue pool = .ok p →
          rewardPoolClaims module name pool v = (.ok [], v) ∧
          isRewardPool module name pool v = (.ok false, v) ∧
          ∀ adapter d, Address.ofValue adapter = .ok d →
            isClaimRegistered module name pool adapter v = (.ok false, v)) ∧
      ∀ later, v.answers later = (v.unaware module s.address).answers later := by
  intro w hm hfind hs hstate hcaller hgiven
  have hagree : m.settings.Agree := by
    have h := (World.after_agrees accounts owner history).objects module
    rwa [hm] at h
  obtain ⟨d,hd⟩ := hagree.clear_total s.address
  have hagreed : d.Agree := hagree.clear hd
  have hblank : d.Blank s.address := (clear_views hd).blank hagreed
  have hml := World.lt_of_content (by simp [hm] : w.content module ≠ .chain)
  have hsl := World.lt_of_content (by simp [hs] : w.content set ≠ .chain)
  have hne : module ≠ set := by
    rintro rfl
    rw [hs] at hm
    cases hm
  have hrun := removeModule_run hm hfind hs hstate hcaller hgiven hd
  generalize hv : (w.setContent module (.claimModule { m with settings := d })).setContent set
    (.setToken (s.setModuleState m.address .none)) = v at hrun
  have hmv : v.content module = .claimModule { m with settings := d } := by
    rw [← hv, World.content_setContent, if_neg fun h => hne h.1, World.content_setContent,
      if_pos ⟨rfl, hml⟩]
  have hsv : v.content set = .setToken (s.setModuleState m.address .none) := by
    rw [← hv, World.content_setContent, if_pos ⟨rfl, by simpa [World.setContent] using hsl⟩]
  refine ⟨v, ?_, ?_, ?_, fun later => ?_⟩
  · change done (removeModule set caller given) w = _
    unfold done
    rw [bind_of_ok hrun]
    rfl
  · rw [moduleState_run hsv hgiven]
    simp [SetToken.setModuleState, SetToken.moduleState]
  · exact fun name hname => blank_views hmv hblank (addressOf_run hsv hname)
  · exact ((World.unaware_alike hmv hagreed hblank).answers later).symm

/-- The name of the registered adapter has come to mean another one. -/
def Sample.renamed : List Step :=
  Sample.history ++
    [.operation (.editIntegration 0 (account 6).toValue "morpho" (account 51).toValue)]

def Sample.renamedModule : ClaimModule :=
  ⟨account 6, 1,
    { pools := ⟨[(account 7, [account 2])]⟩
      poolFlags := ⟨[(account 7, ⟨[(account 2, true)]⟩)]⟩
      adapters := ⟨[(account 7, ⟨[(account 2, [account 50])]⟩)]⟩
      adapterFlags := ⟨[(account 7, ⟨[(account 2, ⟨[(account 50, true)]⟩)]⟩)]⟩
      anyone := ⟨[(account 7, false)]⟩ }, []⟩

theorem removal_leaves_no_residue_renamed :
    let w := (World.deployed Sample.account (some Sample.owner)).2.after Sample.renamed
    ∃ v, (Operation.removeModule 8 Sample.manager (Sample.account 6).toValue).run w =
        (.ok .nothing, v) ∧
      moduleState 8 (Sample.account 6).toValue v = (.ok .none, v) ∧
      (∀ name, name = .object 8 ∨ Address.ofValue name = .ok (Sample.account 7) →
        rewardPools 7 name v = (.ok [], v) ∧ anyoneMayClaim 7 name v = (.ok false, v) ∧
        ∀ pool p, Address.ofValue pool = .ok p →
          rewardPoolClaims 7 name pool v = (.ok [], v) ∧
          isRewardPool 7 name pool v = (.ok false, v) ∧
          ∀ adapter d, Address.ofValue adapter = .ok d →
            isClaimRegistered 7 name pool adapter v = (.ok false, v)) ∧
      ∀ later, v.answers later = (v.unaware 7 (Sample.account 7)).answers later :=
  removal_leaves_no_residue Sample.account (some Sample.owner) Sample.renamed 7 8
    Sample.renamedModule Sample.activeSet Sample.manager (Sample.account 6).toValue
    (by decide +kernel) (by decide +kernel) (by decide +kernel) (by decide) rfl rfl

end Basketry.Chain
