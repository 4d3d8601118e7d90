import Basketry.Proofs.BatchAcceptance

namespace Basketry.Chain

namespace ClaimSettings
variable {set pool adapter : Address} {c d : ClaimSettings}

/-- The views once a removed adapter is back. The same pairs are registered, and only places in lists
differ: the adapter stands last in its pool, and a pool that had lost it as its last one stands last. -/
structure Renewed (set pool adapter : Address) (c c' : ClaimSettings) : Prop where
  pools : ∀ s, c'.poolList s =
    if s = set ∧ (c.adapterList set pool).erase adapter = [] then
      (c.poolList set).erase pool ++ [pool]
    else c.poolList s
  flags : ∀ s p, c'.isPool s p = c.isPool s p
  adapters : ∀ s p, c'.adapterList s p =
    if s = set ∧ p = pool then (c.adapterList set pool).erase adapter ++ [adapter]
    else c.adapterList s p
  registered : ∀ s p a, c'.isRegistered s p a = c.isRegistered s p a
  anyone : ∀ s, c'.anyoneMayClaim s = c.anyoneMayClaim s

/-- An adapter that was added can be removed again, and then no view has changed. -/
theorem Agree.remove_added (hc : c.Agree) (h : c.add set pool adapter = .ok d) :
    ∃ e, d.remove set pool adapter = .ok e ∧ ∀ s, SameFor s c e := by
  have hadded := add_views h
  have hd : d.Agree := hc.add h
  have hregistered : d.isRegistered set pool adapter = true := by
    rw [hadded.registered, if_pos ⟨rfl, rfl, rfl⟩]
  obtain ⟨e,he⟩ := hd.remove_total hregistered
  have hremoved := remove_views he
  have hfresh : adapter ∉ c.adapterList set pool := by
    rw [hc.registered, hadded.fresh]
    exact Bool.false_ne_true
  have hlist : (d.adapterList set pool).erase adapter = c.adapterList set pool := by
    rw [hadded.adapters, if_pos ⟨rfl, rfl⟩, List.erase_append_right _ hfresh, List.erase_cons_head,
      List.append_nil]
  -- The pool is closed now exactly if the addition had opened it.
  have hopened : c.adapterList set pool = [] ↔ c.isPool set pool = false := by
    have hserved := hc.served set pool
    cases hp : c.isPool set pool <;> simp_all
  refine ⟨e, he, fun s => ⟨?_, fun p => ?_, fun p => ?_, fun p a => ?_, ?_⟩⟩
  · simp only [hremoved.pools, hlist, hopened, hadded.pools]
    by_cases hs : s = set ∧ c.isPool set pool = false
    · have hunlisted : pool ∉ c.poolList set := by
        rw [hc.listed, hs.2]
        exact Bool.false_ne_true
      rw [if_pos hs, if_pos ⟨trivial, hs.2⟩, List.erase_append_right _ hunlisted, List.erase_cons_head,
        List.append_nil, hs.1]
    · rw [if_neg hs, if_neg hs]
  · simp only [hremoved.flags, hlist, hopened, hadded.flags]
    by_cases hs : s = set ∧ p = pool
    · obtain ⟨rfl,rfl⟩ := hs
      cases c.isPool s p <;> simp
    · rw [if_neg fun h => hs ⟨h.1, h.2.1⟩, if_neg hs]
  · rw [hremoved.adapters, hlist, hadded.adapters]
    split
    · rename_i hs
      rw [hs.1, hs.2]
    · rfl
  · rw [hremoved.registered, hadded.registered]
    split
    · rename_i hs
      rw [hs.1, hs.2.1, hs.2.2, hadded.fresh]
    · rfl
  · rw [hremoved.anyone, hadded.anyone]

/-- An adapter that was removed can be added again, and then the same pairs are registered. -/
theorem Agree.add_removed (hc : c.Agree) (h : c.remove set pool adapter = .ok d) :
    ∃ e, d.add set pool adapter = .ok e ∧ Renewed set pool adapter c e := by
  have hremoved := remove_views h
  have hunregistered : d.isRegistered set pool adapter = false := by
    rw [hremoved.registered, if_pos ⟨rfl, rfl, rfl⟩]
  obtain ⟨hr,_⟩ | ⟨_,e,he⟩ := d.add_cases set pool adapter
  · rw [hunregistered] at hr
    cases hr
  have hadded := add_views he
  have hmem : adapter ∈ c.adapterList set pool := (hc.registered set pool adapter).mpr hremoved.known
  have hpool : c.isPool set pool = true := (hc.served set pool).mpr (List.ne_nil_of_mem hmem)
  have hclosed : d.isPool set pool = false ↔ (c.adapterList set pool).erase adapter = [] := by
    rw [hremoved.flags]
    by_cases hl : (c.adapterList set pool).erase adapter = [] <;> simp [hl, hpool]
  refine ⟨e, he, ?_, fun s p => ?_, fun s p => ?_, fun s p a => ?_, fun s => ?_⟩
  · intro s
    simp only [hadded.pools, hclosed, hremoved.pools]
    by_cases hs : s = set ∧ (c.adapterList set pool).erase adapter = []
    · rw [if_pos hs, if_pos hs, if_pos ⟨trivial, hs.2⟩]
    · rw [if_neg hs, if_neg hs, if_neg hs]
  · rw [hadded.flags, hremoved.flags]
    by_cases hs : s = set ∧ p = pool
    · rw [if_pos hs, hs.1, hs.2, hpool]
    · rw [if_neg hs, if_neg fun h => hs ⟨h.1, h.2.1⟩]
  · have hleft : d.adapterList set pool = (c.adapterList set pool).erase adapter := by
      rw [hremoved.adapters, if_pos ⟨rfl, rfl⟩]
    rw [hadded.adapters, hleft, hremoved.adapters]
    split <;> rfl
  · rw [hadded.registered, hremoved.registered]
    split
    · rename_i hs
      rw [hs.1, hs.2.1, hs.2.2, hremoved.known]
    · rfl
  · rw [hadded.anyone, hremoved.anyone]

end ClaimSettings

section Requests
variable {w v : World} {module set : Ref} {m : ClaimModule} {d : ClaimSettings}
  {caller caller' given given' pool pool' : Value} {name name' : String} {a p adapter : Address}

/-- One claim is added or removed by a manager. -/
def changeClaim (added : Bool) (module : Ref) (caller given pool : Value) (name : String) : Run Unit :=
  if added then addClaim module caller given pool name else removeClaim module caller given pool name

theorem changeClaim_eq (added : Bool) (module : Ref) (caller given pool : Value) (name : String) :
    changeClaim added module caller given pool name =
      atomically (managedSet module caller given >>= fun set =>
        changeOne added module set (pool, name)) := by
  cases added <;> rfl

theorem changeOne_ignoresSnapshots (added : Bool) (module set : Ref) (x : Value × String) :
    IgnoresSnapshots (changeOne added module set x) := by
  cases added with
  | true => exact addOne_ignoresSnapshots module set x.1 x.2
  | false => exact removeOne_ignoresSnapshots module set x.1 x.2

/-- What a manager's request is about: the set, with the address under which a module keeps its settings,
the pool, and the adapter behind the name. -/
structure World.Requested (w : World) (module : Ref) (caller given pool : Value) (name : String)
    (m : ClaimModule) (set : Ref) (a p adapter : Address) : Prop where
  managed : (managedSet module caller given w).1 = .ok set
  adapter : (namedAdapter module name w).1 = .ok adapter
  address : (setAddress set w).1 = .ok a
  pool : Address.ofValue pool = .ok p
  module : w.content module = .claimModule m

/-- A request that is granted comes down to a change of the settings. -/
theorem changeClaim_ok (added : Bool)
    (h : changeClaim added module caller given pool name w = (.ok x, v)) :
    ∃ m set a p adapter d, w.Requested module caller given pool name m set a p adapter ∧
      m.settings.change added a p adapter = .ok d ∧
      v = w.setContent module (.claimModule { m with settings := d }) := by
  rw [changeClaim_eq] at h
  obtain ⟨set,hset,h⟩ := managed_ok (fun s => changeOne_ignoresSnapshots added module s (pool, name)) h
  rw [changeOne_eq] at h
  obtain ⟨adapter,hadapter,h⟩ := (namedAdapter_reads module name).bind_ok h
  obtain ⟨a,ha,h⟩ := (setAddress_reads set).bind_ok h
  obtain ⟨p,hp,h⟩ := (Reads.lift (Address.ofValue pool)).bind_ok h
  obtain ⟨m,d,hm,hd,hv⟩ := updateSettings_ok h
  exact ⟨m, set, a, p, adapter, d, ⟨hset,hadapter,ha,hp,hm⟩, hd, hv⟩

theorem World.Requested.run (h : w.Requested module caller given pool name m set a p adapter)
    (added : Bool) (hd : m.settings.change added a p adapter = .ok d) :
    changeClaim added module caller given pool name w =
      (.ok (), w.setContent module (.claimModule { m with settings := d })) := by
  have hone : changeOne added module set (pool, name) w =
      (.ok (), w.setContent module (.claimModule { m with settings := d })) := by
    have hpool : (liftM (Address.ofValue pool) : Run Address) w = (.ok p, w) := by
      rw [h.pool]
      rfl
    rw [changeOne_eq, bind_of_ok ((namedAdapter_reads module name).run_ok h.adapter),
      bind_of_ok ((setAddress_reads set).run_ok h.address), bind_of_ok hpool]
    exact updateSettings_run h.module hd
  have hignores : IgnoresSnapshots (managedSet module caller given >>= fun set =>
      changeOne added module set (pool, name)) :=
    (managedSet_reads module caller given).ignoresSnapshots.bind fun s =>
      changeOne_ignoresSnapshots added module s _
  rw [changeClaim_eq]
  refine (hignores.atomically w).2 _ _ ?_
  rw [bind_of_ok ((managedSet_reads module caller given).run_ok h.managed)]
  exact hone

/-- The check of a manager's call depends on what its values name only. -/
theorem managedSet_respelled (hcaller : Address.ofValue caller' = Address.ofValue caller)
    (hgiven : (resolveSet given' w).1 = (resolveSet given w).1) :
    (managedSet module caller' given' w).1 = (managedSet module caller given w).1 := by
  have hmanager : ∀ set, onlySetManager set caller' = onlySetManager set caller := by
    intro set
    unfold onlySetManager
    rw [hcaller]
  unfold managedSet
  rw [bind_run, bind_run, (resolveSet_reads given').run, (resolveSet_reads given).run, hgiven]
  simp only [hmanager]

/-- A request can be made again, in other words, once the settings have changed. -/
theorem World.Requested.again (h : w.Requested module caller given pool name m set a p adapter)
    (hcaller : Address.ofValue caller' = Address.ofValue caller)
    (hgiven : (resolveSet given' w).1 = (resolveSet given w).1)
    (hpool : Address.ofValue pool' = Address.ofValue pool)
    (hname : (namedAdapter module name' w).1 = (namedAdapter module name w).1) (d : ClaimSettings) :
    (w.setContent module (.claimModule { m with settings := d })).Requested module caller' given'
      pool' name' { m with settings := d } set a p adapter := by
  have hcontent : Contract.Near (fun _ _ => True) (.claimModule m)
      (.claimModule { m with settings := d }) := .settings m trivial
  have hsame : Resettled w w := ⟨rfl, rfl, fun _ => .same _⟩
  have hv := Resettled.tracks.setContent hsame hcontent module
  rw [World.setContent_same h.module] at hv
  refine ⟨?_, ?_, ?_, hpool.trans h.pool, World.content_setContent_self h.module nofun⟩
  · rw [(managedSet_tracked Resettled.tracks module given' caller' _ _ hv).1,
      managedSet_respelled hcaller hgiven, h.managed]
  · rw [(namedAdapter_tracked Resettled.tracks module name' _ _ hv).1, hname, h.adapter]
  · rw [(setAddress_tracked Resettled.tracks set _ _ hv).1, h.address]

end Requests

/-- After any history of a deployment, a claim that its manager adds can be removed at once, in whatever
words, and then no view has changed and nothing that happens later can tell. A claim that the manager
removes can be added again at once, and then the same pairs are registered, with the adapter last in its
pool and, where the pool was empty in between, the pool last in the set. -/
theorem claims_are_taken_back (accounts : Nat → Address) (owner : Option String)
    (history : List Step) (module : Ref) (caller caller' given given' pool pool' : Value)
    (name name' : String) :
    let w := (World.deployed accounts owner).2.after history
    Address.ofValue caller' = Address.ofValue caller →
    (resolveSet given' w).1 = (resolveSet given w).1 →
    Address.ofValue pool' = Address.ofValue pool →
    (namedAdapter module name' w).1 = (namedAdapter module name w).1 →
    (∀ v, addClaim module caller given pool name w = (.ok (), v) →
      ∃ m e u, removeClaim module caller' given' pool' name' v = (.ok (), u) ∧
        w.content module = .claimModule m ∧
        u = w.setContent module (.claimModule { m with settings := e }) ∧
        (∀ a, ClaimSettings.SameFor a m.settings e) ∧
        ∀ later, u.answers later = w.answers later) ∧
    ∀ v, removeClaim module caller given pool name w = (.ok (), v) →
      ∃ m set a p adapter e u, w.Requested module caller given pool name m set a p adapter ∧
        addClaim module caller' given' pool' name' v = (.ok (), u) ∧
        u = w.setContent module (.claimModule { m with settings := e }) ∧
        ClaimSettings.Renewed a p adapter m.settings e := by
  intro w hcaller hgiven hpool hname
  have hagree : ∀ {m}, w.content module = .claimModule m → m.settings.Agree := by
    intro m hm
    have h := (World.after_agrees accounts owner history).objects module
    rwa [hm] at h
  refine ⟨fun v hv => ?_, fun v hv => ?_⟩
  · obtain ⟨m,set,a,p,adapter,d,hrequest,hd,rfl⟩ := changeClaim_ok true hv
    obtain ⟨e,he,hsame⟩ := (hagree hrequest.module).remove_added hd
    have hback := (hrequest.again hcaller hgiven hpool hname d).run false he
    rw [World.setContent_twice] at hback
    refine ⟨m, e, _, hback, hrequest.module, rfl, hsame, fun later => ?_⟩
    have hm := hagree hrequest.module
    have halike : m.settings.Alike e := .inr ⟨hm, hm.of_same hsame, hsame⟩
    exact (World.alike_resettled hrequest.module halike).answers later
  · obtain ⟨m,set,a,p,adapter,d,hrequest,hd,rfl⟩ := changeClaim_ok false hv
    obtain ⟨e,he,hrenewed⟩ := (hagree hrequest.module).add_removed hd
    have hback := (hrequest.again hcaller hgiven hpool hname d).run true he
    rw [World.setContent_twice] at hback
    exact ⟨m, set, a, p, adapter, e, _, hrequest, hback, rfl, hrenewed⟩

/-- A second pool comes and goes, and the only pool goes and comes; what names them is spelled differently
every time. -/
theorem claims_are_taken_back_reworded :
    let w := (World.deployed Sample.account (some Sample.owner)).2.after Sample.history
    let second := (Sample.account 3).toValue
    let added := addClaim 7 Sample.manager Sample.set second "morpho" w
    let removed := removeClaim 7 Sample.manager Sample.set Sample.pool "morpho" w
    let manager := Value.text (Sample.account 60).lowerText
    added.1 = .ok () ∧ removed.1 = .ok () ∧
    (∃ u, removeClaim 7 manager (.object 8) (.text (Sample.account 3).lowerText) "morpho" added.2 =
        (.ok (), u) ∧ ∀ later, u.answers later = w.answers later) ∧
    ∃ u, addClaim 7 manager (.object 8) (.text (Sample.account 2).lowerText) "morpho" removed.2 =
        (.ok (), u) ∧
      ∀ pool adapter, (u.settingsOf 7).isRegistered (Sample.account 7) pool adapter =
        (w.settingsOf 7).isRegistered (Sample.account 7) pool adapter := by
  intro w second added removed manager
  have hadded : added.1 = .ok () := by decide +kernel
  have hremoved : removed.1 = .ok () := by decide +kernel
  have htext : ∀ n, n = 2 ∨ n = 3 ∨ n = 60 →
      Address.ofValue (.text (Sample.account n).lowerText) =
        Address.ofValue (Sample.account n).toValue := by
    rintro n (rfl | rfl | rfl) <;> decide
  have hset : (resolveSet (.object 8) w).1 = (resolveSet Sample.set w).1 := by decide +kernel
  have htaken := (claims_are_taken_back Sample.account (some Sample.owner) Sample.history 7
    Sample.manager manager Sample.set (.object 8) second (.text (Sample.account 3).lowerText)
    "morpho" "morpho" (htext 60 (by decide)) hset (htext 3 (by decide)) rfl).1 added.2
      (run_of_answer hadded)
  have hgiven := (claims_are_taken_back Sample.account (some Sample.owner) Sample.history 7
    Sample.manager manager Sample.set (.object 8) Sample.pool (.text (Sample.account 2).lowerText)
    "morpho" "morpho" (htext 60 (by decide)) hset (htext 2 (by decide)) rfl).2 removed.2
      (run_of_answer hremoved)
  obtain ⟨_,_,u,hu,_,_,_,hlater⟩ := htaken
  obtain ⟨m,_,_,_,_,e,u',hrequest,hu',he,hrenewed⟩ := hgiven
  have hm := hrequest.module
  refine ⟨hadded, hremoved, ⟨u, hu, hlater⟩, u', hu', fun pool adapter => ?_⟩
  have hm' : u'.content 7 = .claimModule { m with settings := e } := by
    rw [he]
    exact World.content_setContent_self hm nofun
  rw [World.settingsOf_module hm', World.settingsOf_module hm]
  exact hrenewed.registered _ pool adapter

end Basketry.Chain
