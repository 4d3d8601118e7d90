import Basketry.Proofs.Batches
import Basketry.Proofs.ModuleSettings
import Basketry.Proofs.OrderlyHistories
import Basketry.Proofs.SettingsLog

namespace Basketry.Chain
open ClaimSettings (Entry Follows standing opened)

variable {p : Ref → Aspect → Prop} {u v w : World} {module set : Ref} {a : Address}

section Logs

/-- The address of the set that a caller names. -/
def World.addressNamed? (w : World) (given : Value) : Option Address :=
  match (resolveSet given w).1 with
  | .ok set => (w.content set).address?
  | .error _ => none

/-- What becomes of a pool and the name of an adapter. -/
def World.pairEntry? (w : World) (module : Ref) (make : Address → Address → Entry)
    (pair : Value × String) : Option Entry :=
  match Address.ofValue pair.1, (namedAdapter module pair.2 w).1 with
  | .ok pool, .ok adapter => some (make pool adapter)
  | _, _ => none

/-- One entry for each pair, in their order. -/
def World.pairEntries (w : World) (module : Ref) (make : Address → Address → Address → Entry)
    (given : Value) (pairs : List (Value × String)) : List Entry :=
  match w.addressNamed? given with
  | some a => pairs.filterMap (w.pairEntry? module (make a))
  | none => []

/-- What an operation that succeeds adds to the settings of a module and takes from them. -/
def Operation.entries (w : World) (module : Ref) : Operation → List Entry
  | .activate m _ given _ pools names | .batchAddClaim m _ given pools names =>
    if m = module then w.pairEntries m .added given (pools.zip names) else []
  | .addClaim m _ given pool name =>
    if m = module then w.pairEntries m .added given [(pool, name)] else []
  | .removeClaim m _ given pool name =>
    if m = module then w.pairEntries m .removed given [(pool, name)] else []
  | .batchRemoveClaim m _ given pools names =>
    if m = module then w.pairEntries m .removed given (pools.zip names) else []
  | .forgetSet m given =>
    if m = module then ((w.addressNamed? given).map .forgotten).toList else []
  | .removeModule set _ given =>
    match (Chain.find given w).1 with
    | .ok (some m) => if m = module then ((w.content set).address?.map .forgotten).toList else []
    | _ => []
  | _ => []

/-- An operation that fails counts for nothing. -/
def Operation.recorded (w : World) (module : Ref) (o : Operation) : List Entry :=
  match (o.run w).1 with
  | .ok _ => o.entries w module
  | .error _ => []

def World.log (w : World) (module : Ref) : List Operation → List Entry
  | [] => []
  | o :: history => o.recorded w module ++ (o.run w).2.log module history

end Logs

/-- Settings that follow a log at `w` follow it with the entries at `v`. -/
def Records (module : Ref) (entries : List Entry) (w v : World) : Prop :=
  ∀ log, Follows log (w.settingsOf module) → Follows (log ++ entries) (v.settingsOf module)

section Records
variable {es es' : List Entry}

theorem Records.same
    (h : ∀ a, ClaimSettings.SameFor a (w.settingsOf module) (v.settingsOf module)) :
    Records module [] w v := by
  intro log hw
  rw [List.append_nil]
  exact hw.same h

theorem Records.trans (h : Records module es w u) (h' : Records module es' u v) :
    Records module (es ++ es') w v := by
  intro log hw
  rw [← List.append_assoc]
  exact h' _ (h log hw)

theorem Edits.records (h : Edits p w v) (hp : ∀ a, ¬ p module (.settings a)) :
    Records module [] w v :=
  .same fun _ => h.settings (hp _)

theorem records_elsewhere {ref : Ref} (h : module ≠ ref) (c : Contract) :
    Records module [] w (w.setContent ref c) := by
  have hsame : (w.setContent ref c).settingsOf module = w.settingsOf module := by
    rw [World.settingsOf, World.content_setContent, if_neg fun hr => h hr.1]
    rfl
  refine .same fun a => ?_
  rw [hsame]
  exact .refl a _

/-- The settings of a module are set to what a change makes of them. -/
theorem records_setContent {m : ClaimModule} {c : ClaimSettings}
    (hm : w.content module = .claimModule m)
    (hc : ∀ log, Follows log m.settings → Follows (log ++ es) c) :
    Records module es w (w.setContent module (.claimModule { m with settings := c })) := by
  intro log hw
  have hl : module < w.objects.length := World.lt_of_content (by simp [hm])
  have hv : (w.setContent module (.claimModule { m with settings := c })).content module =
      .claimModule { m with settings := c } := by
    rw [World.content_setContent, if_pos ⟨rfl, hl⟩]
  rw [World.settingsOf_module hm] at hw
  rw [World.settingsOf_module hv]
  exact hc log hw

end Records

section Pairs
variable {pool : Value} {name : String}

theorem changeOne_ok {f : Address → Address → Address → ClaimSettings → Except Fault ClaimSettings}
    (h : (do
      let adapter ← namedAdapter module name
      let address ← setAddress set
      let pool ← Address.ofValue pool
      updateSettings module (f address pool adapter)) w = (.ok x, v)) :
    ∃ d a q m c, (namedAdapter module name w).1 = .ok d ∧ (w.content set).address? = some a ∧
      Address.ofValue pool = .ok q ∧ w.content module = .claimModule m ∧
      f a q d m.settings = .ok c ∧
      v = w.setContent module (.claimModule { m with settings := c }) := by
  obtain ⟨d,hd,h⟩ := (namedAdapter_reads module name).bind_ok h
  obtain ⟨a,ha,h⟩ := (setAddress_reads set).bind_ok h
  obtain ⟨q,hq,h⟩ := (Reads.lift (Address.ofValue pool)).bind_ok h
  obtain ⟨m,c,hm,hc,hv⟩ := updateSettings_ok h
  exact ⟨d, a, q, m, c, hd, (setAddress_ok ha).2, hq, hm, hc, hv⟩

/-- A change for one pair that goes into the log as one entry. -/
structure PairRecorded (module set : Ref) (make : Address → Address → Address → Entry)
    (one : Value → String → Run Unit) : Prop where
  records : ∀ {w v : World} {a : Address} (pair : Value × String),
    (w.content set).address? = some a → one pair.1 pair.2 w = (.ok (), v) →
    Records module (w.pairEntry? module (make a) pair).toList w v
  resettled : ∀ {w v : World} (pair : Value × String), one pair.1 pair.2 w = (.ok (), v) →
    Resettled w v

theorem changeOne_recorded {make : Address → Address → Address → Entry}
    {f : Address → Address → Address → ClaimSettings → Except Fault ClaimSettings}
    (hrevision : ∀ a q d c c', f a q d c = .ok c' → ClaimSettings.Revision a c c')
    (hfollows : ∀ a q d c c' log, f a q d c = .ok c' → Follows log c →
      Follows (log ++ [make a q d]) c') (module set : Ref) :
    PairRecorded module set make (fun pool name => do
      let adapter ← namedAdapter module name
      let address ← setAddress set
      let pool ← Address.ofValue pool
      updateSettings module (f address pool adapter)) := by
  refine ⟨fun {w v a} pair ha h => ?_, fun {w v} pair h => ?_⟩
  · obtain ⟨d,b,q,m,c,hd,hb,hq,hm,hc,rfl⟩ := changeOne_ok h
    cases ha.symm.trans hb
    rw [World.pairEntry?, hq, hd]
    exact records_setContent hm fun log hlog => hfollows _ _ _ _ _ log hc hlog
  · have hv : Edits settingsOnly w v :=
      (changeOne_edits pair.1 pair.2 hrevision fun a _ => ⟨a, rfl⟩).reached h
    exact hv.resettled

theorem addOne_recorded (module set : Ref) :
    PairRecorded module set .added (addOne module set) := by
  apply changeOne_recorded (f := fun a q d c => c.add a q d)
  · intro a q d c c' h
    exact .added h
  · intro a q d c c' log h hlog
    exact hlog.added h

theorem removeOne_recorded (module set : Ref) :
    PairRecorded module set .removed (removeOne module set) := by
  apply changeOne_recorded (f := fun a q d c => c.remove a q d)
  · intro a q d c c' h
    exact .removed h
  · intro a q d c c' log h hlog
    exact hlog.removed h

/-- Names mean the same adapters all through a batch. -/
theorem Resettled.pairEntry? (h : Resettled w v) (make : Address → Address → Entry)
    (pair : Value × String) : v.pairEntry? module make pair = w.pairEntry? module make pair := by
  have hsame := (namedAdapter_tracked Resettled.tracks module pair.2 w v h).1
  rw [World.pairEntry?, World.pairEntry?, hsame]

theorem PairRecorded.all {make : Address → Address → Address → Entry}
    {one : Value → String → Run Unit} (hone : PairRecorded module set make one)
    (pairs : List (Value × String)) (ha : (w.content set).address? = some a)
    (h : pairs.forM (fun e => one e.1 e.2) w = (.ok (), v)) :
    Records module (pairs.filterMap (w.pairEntry? module (make a))) w v := by
  induction pairs generalizing w with
  | nil =>
    cases h
    exact .same fun b => .refl b _
  | cons pair pairs ih =>
    obtain ⟨_,u,hfirst,hrest⟩ := bind_ok h
    have hrecords := hone.records pair ha hfirst
    have hsettled := hone.resettled pair hfirst
    have hau := (hsettled.address set).trans ha
    have hall := ih hau hrest
    have hsame : u.pairEntry? module (make a) = w.pairEntry? module (make a) :=
      funext fun e => hsettled.pairEntry? (make a) e
    rw [hsame] at hall
    have h := hrecords.trans hall
    cases hp : w.pairEntry? module (make a) pair <;> simpa [List.filterMap_cons, hp] using h

end Pairs

section Calls
variable {caller given : Value}

theorem World.addressNamed?_ok (hs : (resolveSet given w).1 = .ok set)
    (ha : (w.content set).address? = some a) : w.addressNamed? given = some a := by
  rw [addressNamed?, hs]
  exact ha

/-- A call by which a manager changes settings goes into the log as what it does for the set. -/
theorem managed_records {change : Ref → Run Unit} {es : List Entry}
    (hignores : ∀ set, IgnoresSnapshots (change set))
    (hchange : ∀ {v : World} (set : Ref) (a : Address), (w.content set).address? = some a →
      w.addressNamed? given = some a → change set w = (.ok (), v) → Records module es w v)
    (h : atomically (managedSet module caller given >>= change) w = (.ok (), v)) :
    Records module es w v := by
  obtain ⟨set,hset,h⟩ := managed_ok hignores h
  have hmanages := managedSet_ok hset
  obtain ⟨_,s,_,hs,_⟩ := stateOf_ok (onlyInitializedSet_ok hmanages.2).2
  have ha : (w.content set).address? = some s.address := by
    rw [hs]
    rfl
  exact hchange set s.address ha (World.addressNamed?_ok hmanages.1.1 ha) h

theorem setAnyone_records {anyone : Bool} (h : (do
      let address ← setAddress set
      updateSettings module fun c => .ok (c.setAnyone address anyone)) w = (.ok (), v)) :
    Records module [] w v := by
  obtain ⟨a,_,h⟩ := (setAddress_reads set).bind_ok h
  obtain ⟨m,c,hm,hc,rfl⟩ := updateSettings_ok h
  cases hc
  refine records_setContent hm fun log hlog => ?_
  rw [List.append_nil]
  exact hlog.anyone a anyone

theorem PairRecorded.one {make : Address → Address → Address → Entry}
    {one : Value → String → Run Unit} (hone : PairRecorded module set make one)
    (pair : Value × String) (ha : (w.content set).address? = some a)
    (hnamed : w.addressNamed? given = some a) (h : one pair.1 pair.2 w = (.ok (), v)) :
    Records module (w.pairEntries module make given [pair]) w v := by
  have hrecords := hone.records pair ha h
  rw [World.pairEntries, hnamed]
  cases hp : w.pairEntry? module (make a) pair <;>
    simpa [List.filterMap_cons, hp] using hrecords

theorem PairRecorded.batch {make : Address → Address → Address → Entry}
    {one : Value → String → Run Unit} (hone : PairRecorded module set make one)
    {pools : List Value} {names : List String} (ha : (w.content set).address? = some a)
    (hnamed : w.addressNamed? given = some a)
    (h : (do
      checkArrays pools names
      (pools.zip names).forM fun e => one e.1 e.2) w = (.ok (), v)) :
    Records module (w.pairEntries module make given (pools.zip names)) w v := by
  obtain ⟨_,_,h⟩ := (checkArrays_reads pools names).bind_ok h
  rw [World.pairEntries, hnamed]
  exact hone.all (pools.zip names) ha h

theorem activate_records {anyone : Bool} {pools : List Value} {names : List String}
    (h : activate module caller given anyone pools names w = (.ok (), v)) :
    Records module (w.pairEntries module .added given (pools.zip names)) w v := by
  obtain ⟨set,u,a,m,hmanages,ha,hadd,hm,hinit⟩ := activate_ok h
  have hadded := (addOne_recorded module set).batch ha (World.addressNamed?_ok hmanages.1 ha) hadd
  have hopened : Records module [] _ _ := records_setContent hm fun log hlog => by
    rw [List.append_nil]
    exact hlog.anyone a anyone
  have hstates : Edits (fun _ k => k = .states) _ v :=
    (initializeModule_edits m.address.toValue rfl).reached hinit
  have hinitialized : Records module [] _ v := hstates.records fun a h => by cases h
  have hall := (hadded.trans hopened).trans hinitialized
  simpa using hall

theorem forgetSet_records (h : forgetSet module given w = (.ok (), v)) :
    Records module ((w.addressNamed? given).map Entry.forgotten).toList w v := by
  obtain ⟨set,a,m,c,hs,ha,hm,hc,rfl⟩ := forgetSet_ok h
  rw [World.addressNamed?_ok hs ha]
  exact records_setContent hm fun log hlog => hlog.forgotten hc

end Calls

section Operations

/-- A call that succeeds goes into the log, and one that is refused does not. -/
theorem Block.records {f : Footprint} {call : Run Unit} {o : Operation} (h : Block f call)
    (hrun : o.run = done call) (hf : w.Standing) (hs : Settled (o.run w).1)
    (hdone : ∀ v, call w = (.ok (), v) → Records module (o.entries w module) w v) :
    Records module (o.recorded w module) w (o.run w).2 := by
  rw [hrun] at hs
  rw [Operation.recorded, hrun, done, answer_run]
  rcases h.settled (settled_answer hs) with ⟨_,v,hcall⟩ | ⟨_,v,hcall,hundone⟩
  · rw [hcall]
    exact hdone v hcall
  · rw [hcall]
    exact .same fun a => hundone.settings hf a

theorem Operation.records_untouched {o : Operation} (hp : o.Proper w) (hn : ∀ id, o ≠ .revert id)
    (hs : Settled (o.run w).1) (hf : w.Standing)
    (ht : ∀ a, ¬ o.touches w module (.settings a)) (he : o.entries w module = []) :
    Records module (o.recorded w module) w (o.run w).2 := by
  have hnone : o.recorded w module = [] := by
    rw [recorded, he]
    split <;> rfl
  rw [hnone]
  rcases (o.effect hp hn).settled hs with h | h
  · exact .same fun a => h.settings (ht a)
  · exact .same fun a => h.settings hf a

/-- The set forgets the module only after the module has forgotten the set. -/
theorem removeModule_records {caller given : Value} (hf : w.Standing)
    (hs : Settled ((Operation.removeModule set caller given).run w).1)
    (hfound : (find given w).1 = .ok (some module)) :
    Records module ((Operation.removeModule set caller given).recorded w module) w
      ((Operation.removeModule set caller given).run w).2 := by
  have hrun : (Operation.removeModule set caller given).run =
      done (removeModule set caller given) := rfl
  rw [hrun] at hs
  have hs := settled_answer hs
  rw [Operation.recorded, hrun, done, answer_run]
  cases hcall : removeModule set caller given w with
  | mk outcome v =>
    rw [hcall] at hs
    rcases removeModule_ends hcall with ⟨rfl,hn⟩ |
      ⟨s,b,found,⟨hset,_,hb⟩,_,hfind,⟨fault,rfl,hforget⟩ | ⟨m,c,hm,hc,rfl,rfl⟩⟩
    · cases outcome with
      | ok x => exact absurd rfl hn
      | error fault => exact .same fun a => .refl a _
    · obtain ⟨reason,rfl⟩ := hs fault rfl
      exact .same fun a => Undone.settings (forgetSet_block.refused hforget) hf a
    · obtain ⟨b',hb',hfind'⟩ := find_ok hfound
      cases hb.symm.trans hb'
      cases hfind.symm.trans hfind'
      have hentries : (Operation.removeModule set caller given).entries w module =
          [.forgotten s.address] := by
        simp [Operation.entries, hfound, hset, Contract.address?]
      have hforgotten := records_setContent hm fun log hlog => hlog.forgotten hc
      have hne : set ≠ module := by
        rintro rfl
        rw [hset] at hm
        cases hm
      have hdropped := hforgotten.trans (records_elsewhere hne.symm
        (.setToken (s.setModuleState b .none)))
      rw [hentries]
      exact hdropped

/-- What every operation does to the settings of a module is in the log. A call of another module
touches and records nothing of this one. -/
theorem Operation.records {o : Operation} (hp : o.Proper w) (hn : ∀ id, o ≠ .revert id)
    (hs : Settled (o.run w).1) (hf : w.Standing) :
    Records module (o.recorded w module) w (o.run w).2 := by
  have managing {m : Ref} {caller given : Value} {change : Ref → Run Unit} {f : Footprint}
      {es : List Entry} (hblock : Block f (atomically (managedSet m caller given >>= change)))
      (hrun : o.run = done (atomically (managedSet m caller given >>= change)))
      (ht : o.touches w = managed m caller given w)
      (he : o.entries w module = if m = module then es else [])
      (hignores : ∀ set, IgnoresSnapshots (change set))
      (hchange : ∀ {v : World} (set : Ref) (a : Address), (w.content set).address? = some a →
        w.addressNamed? given = some a → change set w = (.ok (), v) → Records m es w v) :
      Records module (o.recorded w module) w (o.run w).2 := by
    by_cases hm : m = module
    · subst hm
      refine hblock.records hrun hf hs fun v h => ?_
      rw [he, if_pos rfl]
      exact managed_records hignores hchange h
    · refine records_untouched hp hn hs hf (fun a h => ?_) (he.trans (if_neg hm))
      rw [ht] at h
      exact hm h.1.symm
  cases o with
  | removeModule set caller given =>
    by_cases hm : (Chain.find given w).1 = .ok (some module)
    · exact removeModule_records hf hs hm
    · refine records_untouched hp hn hs hf ?_ ?_
      · rintro a (⟨m,hfound,rfl,_⟩ | ⟨_,h⟩)
        · exact hm hfound
        · cases h
      · rw [entries]
        split
        · rename_i m hfound
          exact if_neg fun he : m = module => hm (he ▸ hfound)
        · rfl
  | activate m caller given anyone pools names =>
    by_cases hm : m = module
    · subst hm
      refine (activate_block anyone pools names).records rfl hf hs fun v h => ?_
      rw [entries, if_pos rfl]
      exact activate_records h
    · refine records_untouched hp hn hs hf ?_ (if_neg hm)
      rintro a (⟨rfl,_⟩ | ⟨_,h⟩)
      · exact hm rfl
      · cases h
  | updateAnyoneClaim m caller given anyone =>
    exact managing (updateAnyoneClaim_block anyone) rfl rfl (ite_self _).symm
      (setAnyone_ignoresSnapshots m · anyone) fun _ _ _ _ h => setAnyone_records h
  | addClaim m caller given pool name =>
    exact managing (addClaim_block pool name) rfl rfl rfl (addOne_ignoresSnapshots m · pool name)
      fun set _ ha hnamed h => (addOne_recorded m set).one (pool, name) ha hnamed h
  | batchAddClaim m caller given pools names =>
    exact managing (batchAddClaim_block pools names) rfl rfl rfl
      (addAll_ignoresSnapshots m · pools names)
      fun set _ ha hnamed h => (addOne_recorded m set).batch ha hnamed h
  | removeClaim m caller given pool name =>
    exact managing (removeClaim_block pool name) rfl rfl rfl
      (removeOne_ignoresSnapshots m · pool name)
      fun set _ ha hnamed h => (removeOne_recorded m set).one (pool, name) ha hnamed h
  | batchRemoveClaim m caller given pools names =>
    exact managing (batchRemoveClaim_block pools names) rfl rfl rfl
      (removeAll_ignoresSnapshots m · pools names)
      fun set _ ha hnamed h => (removeOne_recorded m set).batch ha hnamed h
  | forgetSet m given =>
    by_cases hm : m = module
    · subst hm
      refine forgetSet_block.records rfl hf hs fun v h => ?_
      rw [entries, if_pos rfl]
      exact forgetSet_records h
    · refine records_untouched hp hn hs hf ?_ (if_neg hm)
      rintro a ⟨rfl,_⟩
      exact hm rfl
  | _ => exact records_untouched hp hn hs hf (by simp [touches, fresh, claimed]) rfl

end Operations

section Histories

/-- By induction over the history. Modules go on standing at their addresses, which is what makes
refusals count for nothing. -/
theorem World.follows_log {history : List Operation} {log : List Entry}
    (ho : w.Orderly (history.map .operation)) (hn : ∀ id, .revert id ∉ history)
    (hfresh : (w.after (history.map .operation)).Fresh) (hw : w.Placed) (hf : w.Standing)
    (h : Follows log (w.settingsOf module)) :
    Follows (log ++ w.log module history)
      ((w.after (history.map .operation)).settingsOf module) := by
  induction history generalizing w log with
  | nil =>
    rw [World.log, List.append_nil]
    exact h
  | cons o history ih =>
    obtain ⟨⟨hp,hs⟩,hrest⟩ := ho
    have hno : ∀ id, o ≠ .revert id := fun id he => hn id (he ▸ List.mem_cons_self)
    have hlater : ∀ id, .revert id ∉ history := fun id hm => hn id (List.mem_cons_of_mem o hm)
    have hmoves := (o.run w).2.after_moves (history.map .operation)
    have hnext : (o.run w).2.Fresh := hmoves.fresh hfresh
    have hplaced := (Operation.keeps_placed hp hno hs hw hnext).1
    have hstanding := Operation.keeps_standing hp hno hs hw hnext hf
    have hfollows := Operation.records hp hno hs hf log h
    rw [World.log, ← List.append_assoc]
    exact ih hrest hlater hfresh hplaced hstanding hfollows

/-- A deployment has no settings to begin with. -/
theorem World.deployed_modules (accounts : Nat → Address) (owner : Option String)
    (hf : (World.deployed accounts owner).2.Fresh) :
    (World.deployed accounts owner).2.Placed ∧ (World.deployed accounts owner).2.Standing ∧
      ∀ module, Follows [] ((World.deployed accounts owner).2.settingsOf module) := by
  have heffects : Effects (fun _ k => k = .ledger) { accounts } _ :=
    World.deployed_effects (p := fun _ k => k = .ledger) (fun _ => rfl) accounts owner
  obtain ⟨hplaced,hstanding,hsame⟩ :=
    heffects.modules (fun _ _ h => by cases h) hf (.new accounts) (.new accounts)
  have hempty : ∀ module, World.settingsOf { accounts } module = {} := fun _ => rfl
  refine ⟨hplaced, hstanding, fun module => ?_⟩
  exact Follows.empty.same fun a => hempty module ▸ hsame module a

end Histories

/-- After any history of a deployment whose operations succeed or are refused, none of which brings
a snapshot back, a module lists for a pool the adapters whose last addition is not over, in the
order of these additions, and for a set the pools that have such an adapter, in the order in which
they were last without one. -/
theorem claims_stand_as_logged (accounts : Nat → Address) (owner : Option String)
    (history : List Operation) (module : Ref) (m : ClaimModule) (given : Value) (a : Address) :
    let start := (World.deployed accounts owner).2
    let w := start.after (history.map .operation)
    let log := start.log module history
    start.Orderly (history.map .operation) → (∀ id, .revert id ∉ history) → w.Fresh →
    w.content module = .claimModule m → addressOf given w = (.ok a, w) →
    (∀ pool p, Address.ofValue pool = .ok p →
      rewardPoolClaims module given pool w = (.ok (standing a p log), w)) ∧
    ∃ pools, rewardPools module given w = (.ok pools, w) ∧ pools.Nodup ∧
      (∀ p, p ∈ pools ↔ standing a p log ≠ []) ∧
      pools.Pairwise fun p q => opened a p log < opened a q log := by
  intro start w log horderly hn hfresh hm ha
  have hstart : start.Fresh := (start.after_moves _).fresh hfresh
  obtain ⟨hplaced,hstanding,hempty⟩ := World.deployed_modules accounts owner hstart
  have hfollows : Follows log m.settings := by
    have h := World.follows_log horderly hn hfresh hplaced hstanding (hempty module)
    rwa [List.nil_append, World.settingsOf_module hm] at h
  have hagree := hfollows.agree
  refine ⟨fun pool p hp => ?_, m.settings.poolList a, rewardPools_run hm ha, hagree.pools_nodup a,
    fun p => ?_, hfollows.order a⟩
  · rw [rewardPoolClaims_run hm ha hp, hfollows.adapters]
  · rw [hagree.listed, hagree.served, hfollows.adapters]

def Step.operation? : Step → Option Operation
  | .operation o => some o
  | _ => none

/-- A second pool is added in a batch and stays, while the first one is emptied and comes back. One
addition is refused. -/
def Sample.reopened : List Operation :=
  history.filterMap Step.operation? ++ [.createClaimAdapter,
    .addIntegration 0 (account 6).toValue "mock" (account 8).toValue,
    .batchAddClaim 7 manager Sample.set [pool, (account 70).toValue, (account 70).toValue]
      ["mock", "morpho", "mock"],
    .addClaim 7 manager Sample.set pool "mock", .removeClaim 7 manager Sample.set pool "morpho",
    .addClaim 7 manager Sample.set pool "morpho",
    .batchRemoveClaim 7 manager Sample.set [pool, pool] ["mock", "morpho"],
    .addClaim 7 manager Sample.set pool "morpho"]

def Sample.reopenedModule : ClaimModule :=
  ⟨account 6, 1,
    { pools := ⟨[(account 7, [account 70, account 2])]⟩
      poolFlags := ⟨[(account 7, ⟨[(account 2, true), (account 70, true)]⟩)]⟩
      adapters := ⟨[(account 7, ⟨[(account 2, [account 50]),
        (account 70, [account 50, account 8])]⟩)]⟩
      adapterFlags := ⟨[(account 7, ⟨[(account 2, ⟨[(account 50, true), (account 8, false)]⟩),
        (account 70, ⟨[(account 50, true), (account 8, true)]⟩)]⟩)]⟩
      anyone := ⟨[(account 7, false)]⟩ }, []⟩

theorem claims_stand_as_logged_reopened :
    let start := (World.deployed Sample.account (some Sample.owner)).2
    let w := start.after (Sample.reopened.map .operation)
    let log := start.log 7 Sample.reopened
    let a := Sample.account 7
    (start.Orderly (Sample.reopened.map .operation) ∧ (∀ id, .revert id ∉ Sample.reopened) ∧
      w.Fresh ∧ w.content 7 = .claimModule Sample.reopenedModule ∧
      addressOf Sample.set w = (.ok a, w)) ∧
    (∀ pool p, Address.ofValue pool = .ok p →
      rewardPoolClaims 7 Sample.set pool w = (.ok (standing a p log), w)) ∧
    ∃ pools, rewardPools 7 Sample.set w = (.ok pools, w) ∧ pools.Nodup ∧
      (∀ p, p ∈ pools ↔ standing a p log ≠ []) ∧
      pools.Pairwise fun p q => opened a p log < opened a q log := by
  intro start w log a
  have horderly : start.Orderly (Sample.reopened.map .operation) := by
    refine World.orderly_append.mpr ⟨Sample.history_orderly, ?_⟩
    refine ⟨⟨trivial, by decide +kernel⟩, ⟨trivial, by decide +kernel⟩,
      ⟨trivial, by decide +kernel⟩, ⟨trivial, by decide +kernel⟩, ⟨trivial, by decide +kernel⟩,
      ⟨trivial, by decide +kernel⟩, ⟨trivial, by decide +kernel⟩, ⟨trivial, by decide +kernel⟩,
      trivial⟩
  have hn : ∀ id, .revert id ∉ Sample.reopened := by
    simp [Sample.reopened, Sample.history, Step.operation?]
  have hfresh : w.Fresh := by decide +kernel
  have hm : w.content 7 = .claimModule Sample.reopenedModule := by decide +kernel
  have hs : w.content 8 = .setToken Sample.activeSet := by decide +kernel
  have ha : addressOf Sample.set w = (.ok a, w) :=
    addressOf_run hs (.inr (Address.ofValue_toValue a))
  exact ⟨⟨horderly, hn, hfresh, hm, ha⟩, claims_stand_as_logged Sample.account (some Sample.owner)
    Sample.reopened 7 Sample.reopenedModule Sample.set a horderly hn hfresh hm ha⟩

end Basketry.Chain
