import Basketry.Proofs.Results

namespace Basketry.Chain
open Relation

variable {w v : World} {ref : Ref} {r r' : Registry} {m a : Address} {module given : Value}
  {name : String} {o : Operation}

namespace Registry

/-- What a call that succeeds has set or removed. -/
inductive Entry where
  | set (module : Address) (name : String) (adapter : Address)
  | removed (module : Address) (name : String)
deriving DecidableEq

namespace Entry

def key : Entry → Address × String
  | .set m name _ | .removed m name => (m, name)

def adapter? : Entry → Option Address
  | .set _ _ a => some a
  | .removed _ _ => none

end Entry

/-- The adapter that the last entry about a module and a name leaves. -/
def standing (log : List Entry) (key : Address × String) : Option Address :=
  (log.filter (·.key = key)).getLast?.bind Entry.adapter?

variable {log : List Entry} {e : Entry} {key : Address × String}

theorem standing_concat (log : List Entry) (e : Entry) (key : Address × String) :
    standing (log ++ [e]) key = if key = e.key then e.adapter? else standing log key := by
  unfold standing
  by_cases h : e.key = key
  · simp [h]
  · simp [h, Ne.symm h]

/-- The registry keeps what the log leaves, and no log leaves the zero address. -/
structure Follows (log : List Entry) (r : Registry) : Prop where
  kept : ∀ key, r.integrations.get? key = standing log key
  nonzero : ∀ key, standing log key ≠ some Address.zero

theorem Follows.empty (place : Address) : Follows [] ⟨place, {}⟩ := ⟨fun _ => rfl, fun _ => nofun⟩

theorem Follows.entered (h : Follows log r) (hz : e.adapter? ≠ some Address.zero)
    (hr' : ∀ key, r'.integrations.get? key =
      if key = e.key then e.adapter? else r.integrations.get? key) :
    Follows (log ++ [e]) r' := by
  refine ⟨fun key => ?_, fun key => ?_⟩
  · rw [hr', standing_concat, h.kept]
  · rw [standing_concat]
    split
    · exact hz
    · exact h.nonzero key

theorem Follows.set (h : Follows log r) (ha : a ≠ Address.zero) :
    Follows (log ++ [.set m name a]) (r.set m name a) :=
  h.entered (fun hz => ha (Option.some.inj hz)) fun key => r.integrations.get?_put (m, name) key a

theorem Follows.removed (h : Follows log r) :
    Follows (log ++ [.removed m name]) (r.erase m name) :=
  h.entered nofun fun key => r.integrations.get?_erase (m, name) key

theorem Follows.adapter (h : Follows log r) (m : Address) (name : String) :
    r.adapter m name = (standing log (m, name)).getD Address.zero := by
  rw [Registry.adapter, Table.getD, h.kept]

/-- The zero address is answered for what is absent, and for nothing else. -/
theorem Follows.isValid (h : Follows log r) (m : Address) (name : String) :
    r.isValid m name = (standing log (m, name)).isSome := by
  rw [Registry.isValid, h.adapter]
  cases hs : standing log (m, name) with
  | none => rfl
  | some a =>
    have ha : a ≠ Address.zero := fun he => h.nonzero _ (he ▸ hs)
    simpa using ha

theorem Follows.contains (h : Follows log r) (m : Address) (name : String) :
    r.integrations.contains (m, name) = (standing log (m, name)).isSome := by
  rw [Table.contains, h.kept]

/-- A registry in which an adapter is set, once it is checked what is there. -/
def named (check : Registry → Address → String → Except Fault Unit) (r : Registry) (module : Value)
    (name : String) (given : Value) : Except Fault Registry := do
  let m ← Address.ofValue module
  check r m name
  let a ← Address.ofValue given
  expectAdapter a
  return r.set m name a

/-- A registry from which an adapter is removed. -/
def unnamed (r : Registry) (module : Value) (name : String) : Except Fault Registry := do
  let m ← Address.ofValue module
  r.expectPresent m name
  return r.erase m name

theorem expectAdapter_ok : expectAdapter a = .ok () ↔ a ≠ Address.zero := by
  unfold expectAdapter
  split <;> simp [*]

theorem expectAbsent_ok :
    r.expectAbsent m name = .ok () ↔ r.integrations.contains (m, name) = false := by
  unfold expectAbsent
  split <;> simp [*]

theorem expectPresent_ok :
    r.expectPresent m name = .ok () ↔ r.integrations.contains (m, name) = true := by
  unfold expectPresent
  split <;> simp [*]

theorem named_ok {check : Registry → Address → String → Except Fault Unit} :
    r.named check module name given = .ok r' ↔ ∃ m a, Address.ofValue module = .ok m ∧
      check r m name = .ok () ∧ Address.ofValue given = .ok a ∧ a ≠ Address.zero ∧
      r' = r.set m name a := by
  simp only [named, bind_eq_ok, pure, Except.pure]
  constructor
  · rintro ⟨m,hm,_,hcheck,a,ha,_,hz,hdone⟩
    cases hdone
    exact ⟨m, a, hm, hcheck, ha, expectAdapter_ok.mp hz, rfl⟩
  · rintro ⟨m,a,hm,hcheck,ha,hz,rfl⟩
    exact ⟨m, hm, (), hcheck, a, ha, (), expectAdapter_ok.mpr hz, rfl⟩

theorem unnamed_ok : r.unnamed module name = .ok r' ↔ ∃ m, Address.ofValue module = .ok m ∧
    r.expectPresent m name = .ok () ∧ r' = r.erase m name := by
  simp only [unnamed, bind_eq_ok, pure, Except.pure]
  constructor
  · rintro ⟨m,hm,_,hpresent,hdone⟩
    cases hdone
    exact ⟨m, hm, hpresent, rfl⟩
  · rintro ⟨m,hm,hpresent,rfl⟩
    exact ⟨m, hm, (), hpresent, rfl⟩

end Registry

section Calls

/-- What was made of a registry takes its place, unless something was wrong. -/
def keepRegistry (ref : Ref) (made : Except Fault Registry) : Run Unit := do
  setContent ref (.registry (← made))

theorem named_run {check : Registry → Address → String → Except Fault Unit}
    (hr : w.content ref = .registry r) : (do
      let m ← Address.ofValue module
      check (← registryAt ref) m name
      let a ← Address.ofValue given
      Registry.expectAdapter a
      setContent ref (.registry ((← registryAt ref).set m name a)) : Run Unit) w =
    keepRegistry ref (r.named check module name given) w := by
  unfold Registry.named
  cases Address.ofValue module with
  | error fault => rfl
  | ok m =>
    change (registryAt ref >>= _) w = _
    rw [bind_of_ok (registryAt_run hr), ok_bind]
    cases check r m name with
    | error fault => rfl
    | ok _ =>
      rw [ok_bind]
      cases Address.ofValue given with
      | error fault => rfl
      | ok a =>
        change ((liftM (Registry.expectAdapter a) : Run Unit) >>= fun _ => registryAt ref >>= fun r =>
          setContent ref (.registry (r.set m name a))) w = keepRegistry ref
            (Registry.expectAdapter a >>= fun _ => .ok (r.set m name a)) w
        cases Registry.expectAdapter a with
        | error fault => rfl
        | ok _ => exact bind_of_ok (registryAt_run hr) _

theorem removeIntegration_run (hr : w.content ref = .registry r) (module : Value) (name : String) :
    removeIntegration ref module name w = keepRegistry ref (r.unnamed module name) w := by
  unfold removeIntegration Registry.unnamed
  cases Address.ofValue module with
  | error fault => rfl
  | ok m =>
    change (registryAt ref >>= _) w = _
    rw [bind_of_ok (registryAt_run hr), ok_bind]
    cases r.expectPresent m name with
    | error fault => rfl
    | ok _ =>
      change (registryAt ref >>= _) w = _
      rw [bind_of_ok (registryAt_run hr)]
      rfl

end Calls

section Histories
open Registry

/-- The calls that change a registry: which one, and for which module and name. -/
def Operation.names? : Operation → Option (Ref × Value × String)
  | .addIntegration ref module name _ | .editIntegration ref module name _
  | .removeIntegration ref module name => some (ref, module, name)
  | _ => none

/-- What such a call makes of the registry. -/
def Operation.makes (r : Registry) : Operation → Except Fault Registry
  | .addIntegration _ module name given => r.named expectAbsent module name given
  | .editIntegration _ module name given => r.named expectPresent module name given
  | .removeIntegration _ module name => r.unnamed module name
  | _ => .ok r

/-- What such a call sets or removes if it succeeds. -/
def Operation.record? : Operation → Option Registry.Entry
  | .addIntegration _ module name given | .editIntegration _ module name given =>
    match Address.ofValue module, Address.ofValue given with
    | .ok m, .ok a => some (.set m name a)
    | _, _ => none
  | .removeIntegration _ module name =>
    match Address.ofValue module with
    | .ok m => some (.removed m name)
    | .error _ => none
  | _ => none

/-- A call that fails, and a call of another registry, counts for nothing. -/
def Operation.entered (w : World) (ref : Ref) (o : Operation) : List Registry.Entry :=
  match o.names?, (o.run w).1 with
  | some (called, _), .ok _ => if called = ref then o.record?.toList else []
  | _, _ => []

/-- The calls of a registry that succeed in a history. -/
def World.entries (w : World) (ref : Ref) : List Operation → List Registry.Entry
  | [] => []
  | o :: history => o.entered w ref ++ (o.run w).2.entries ref history

theorem keepRegistry_run (ref : Ref) (made : Except Fault Registry) (w : World) :
    keepRegistry ref made w = match made with
      | .ok r => (.ok (), w.setContent ref (.registry r))
      | .error fault => (.error fault, w) := by
  cases made <;> rfl

/-- A call of a registry fails and changes nothing, or leaves what it makes of the registry. -/
theorem Operation.names_run (ho : o.names? = some (ref, module, name))
    (hr : w.content ref = .registry r) :
    o.run w = done (keepRegistry ref (o.makes r)) w := by
  have kept : ∀ {call : Run Unit} {made : Except Fault Registry},
      call w = keepRegistry ref made w → done call w = done (keepRegistry ref made) w := by
    intro call made h
    rw [done, done, answer_run, answer_run, h]
  cases o with
  | addIntegration =>
    cases ho
    exact kept (named_run hr)
  | editIntegration =>
    cases ho
    exact kept (named_run hr)
  | removeIntegration =>
    cases ho
    exact kept (removeIntegration_run hr _ _)
  | _ => cases ho

/-- What a call makes of a registry that follows a log follows it with the entry of the call, which is
about the module and the name that the call is about. -/
theorem Operation.makes_ok {log : List Registry.Entry} (ho : o.names? = some (ref, module, name))
    (h : Follows log r) (hmade : o.makes r = .ok r') : ∃ m e, Address.ofValue module = .ok m ∧
      o.record? = some e ∧ e.key = (m, name) ∧ Follows (log ++ [e]) r' := by
  cases o with
  | addIntegration _ _ _ given | editIntegration _ _ _ given =>
    cases ho
    obtain ⟨m,a,hm,_,ha,hz,rfl⟩ := named_ok.mp hmade
    exact ⟨m, .set m name a, hm, by simp [record?, hm, ha], rfl, h.set hz⟩
  | removeIntegration =>
    cases ho
    obtain ⟨m,hm,_,rfl⟩ := unnamed_ok.mp hmade
    exact ⟨m, .removed m name, hm, by simp [record?, hm], rfl, h.removed⟩
  | _ => cases ho

/-- No other aspect than its integrations changes in a registry. -/
theorem Grown.registry {q : Aspect → Prop} {c : Contract} (h : Grown q (.registry r) c)
    (hq : ¬ q .integrations) : c = .registry r := by
  induction h with
  | refl => rfl
  | tail _ hs ih =>
    subst ih
    obtain ⟨k,hk,hc⟩ | ⟨f,rfl⟩ := hs
    · cases hc with
      | named => exact absurd hk hq
      | unnamed => exact absurd hk hq
    · rfl

theorem Operation.registry_kept (hn : ∀ id, o ≠ .revert id) (hr : w.content ref = .registry r)
    (ht : ¬ o.touches w ref .integrations) : (o.run w).2.content ref = .registry r := by
  have hlt : ref < w.objects.length := World.lt_of_content (by simp [hr])
  have hgrown := o.grown hn hlt
  rw [hr] at hgrown
  exact hgrown.registry ht

/-- Only such calls reach the integrations of a registry. -/
theorem Operation.touches_integrations :
    o.touches w ref .integrations ↔ ∃ module name, o.names? = some (ref, module, name) := by
  cases o <;> simp [touches, managed, named, fresh, claimed, names?] <;> exact eq_comm

theorem Operation.entered_elsewhere (h : ¬ o.touches w ref .integrations) :
    o.entered w ref = [] := by
  unfold entered
  split
  · rename_i called about _ ho _
    refine if_neg fun hc => h (touches_integrations.mpr ⟨about.1, about.2, ?_⟩)
    rw [ho, hc]
  · rfl

/-- What a call of a registry enters, and what comes of the registry. -/
theorem Operation.names_ends {log : List Registry.Entry}
    (ho : o.names? = some (ref, module, name)) (hr : w.content ref = .registry r)
    (h : Follows log r) : (∃ fault, o.makes r = .error fault ∧ o.entered w ref = [] ∧
      (o.run w).2 = w) ∨ ∃ r' m e, o.makes r = .ok r' ∧ Address.ofValue module = .ok m ∧
      e.key = (m, name) ∧ o.entered w ref = [e] ∧ Follows (log ++ [e]) r' ∧
      (o.run w).2 = w.setContent ref (.registry r') := by
  have hrun := o.names_run ho hr
  unfold entered
  rw [ho, hrun, done, answer_run, keepRegistry_run]
  cases hmade : o.makes r with
  | error fault => exact .inl ⟨fault, rfl, rfl, rfl⟩
  | ok r' =>
    obtain ⟨m,e,hm,he,hkey,hfollows⟩ := o.makes_ok ho h hmade
    rw [he]
    exact .inr ⟨r', m, e, rfl, hm, hkey, if_pos rfl, hfollows, rfl⟩

/-- One operation takes a registry on by what it enters. -/
theorem Operation.keeps_registry {log : List Registry.Entry} (hn : ∀ id, o ≠ .revert id)
    (hr : w.content ref = .registry r) (h : Follows log r) : ∃ r',
      (o.run w).2.content ref = .registry r' ∧ Follows (log ++ o.entered w ref) r' := by
  by_cases ht : o.touches w ref .integrations
  · obtain ⟨module,name,ho⟩ := touches_integrations.mp ht
    obtain ⟨_,_,hnone,hsame⟩ | ⟨r',_,e,_,_,_,hone,hfollows,hv⟩ := names_ends ho hr h
    · rw [hnone, hsame, List.append_nil]
      exact ⟨r, hr, h⟩
    · rw [hone, hv]
      exact ⟨r', World.content_setContent_self hr nofun, hfollows⟩
  · rw [entered_elsewhere ht, List.append_nil]
    exact ⟨r, registry_kept hn hr ht, h⟩

theorem World.follows_entries {history : List Operation} {log : List Registry.Entry}
    (hn : ∀ id, .revert id ∉ history) (hr : w.content ref = .registry r) (h : Follows log r) :
    ∃ r', (w.after (history.map .operation)).content ref = .registry r' ∧
      Follows (log ++ w.entries ref history) r' := by
  induction history generalizing w r log with
  | nil =>
    rw [entries, List.append_nil]
    exact ⟨r, hr, h⟩
  | cons o history ih =>
    have hfirst : ∀ id, o ≠ .revert id := fun id he => hn id (he ▸ List.mem_cons_self)
    have hlater : ∀ id, .revert id ∉ history := fun id hm => hn id (List.mem_cons_of_mem o hm)
    obtain ⟨r',hr',h'⟩ := o.keeps_registry hfirst hr h
    rw [entries, ← List.append_assoc]
    exact ih hlater hr' h'

theorem Registry.Follows.present {log : List Registry.Entry} (h : Follows log r) :
    r.expectPresent m name = .ok () ↔ standing log (m, name) ≠ none := by
  rw [expectPresent_ok, h.contains, ← Option.isSome_iff_ne_none]

theorem Registry.Follows.absent {log : List Registry.Entry} (h : Follows log r) :
    r.expectAbsent m name = .ok () ↔ standing log (m, name) = none := by
  rw [expectAbsent_ok, h.contains, Option.isSome_eq_false_iff, Option.isNone_iff_eq_none]

theorem keepRegistry_ok {made : Except Fault Registry} :
    (keepRegistry ref made w).1 = .ok () ↔ ∃ r, made = .ok r := by
  cases made <;> simp [keepRegistry_run]

/-- An adapter is set where it is not the zero address and the check of what is there is passed. -/
theorem named_done {check : Registry → Address → String → Except Fault Unit}
    (hm : Address.ofValue module = .ok m) (ha : Address.ofValue given = .ok a) :
    (keepRegistry ref (r.named check module name given) w).1 = .ok () ↔
      check r m name = .ok () ∧ a ≠ Address.zero := by
  rw [keepRegistry_ok]
  constructor
  · rintro ⟨r',h⟩
    obtain ⟨m',a',hm',hcheck,ha',hz,_⟩ := named_ok.mp h
    cases hm.symm.trans hm'
    cases ha.symm.trans ha'
    exact ⟨hcheck, hz⟩
  · rintro ⟨hcheck,hz⟩
    exact ⟨_, named_ok.mpr ⟨m, a, hm, hcheck, ha, hz, rfl⟩⟩

theorem unnamed_done (hm : Address.ofValue module = .ok m) :
    (keepRegistry ref (r.unnamed module name) w).1 = .ok () ↔
      r.expectPresent m name = .ok () := by
  rw [keepRegistry_ok]
  constructor
  · rintro ⟨r',h⟩
    obtain ⟨m',hm',hpresent,_⟩ := unnamed_ok.mp h
    cases hm.symm.trans hm'
    exact hpresent
  · exact fun hpresent => ⟨_, unnamed_ok.mpr ⟨m, hm, hpresent, rfl⟩⟩

/-- A call leaves what is answered for every other module and name, whether it succeeds or not. -/
theorem names_others {log : List Registry.Entry} (ho : o.names? = some (ref, module, name))
    (hm : Address.ofValue module = .ok m) (hr : w.content ref = .registry r) (h : Follows log r)
    {other : Value} {m' : Address} {name' : String} (hm' : Address.ofValue other = .ok m')
    (hne : (m', name') ≠ (m, name)) :
    integrationAdapter ref other name' (o.run w).2 =
      ((integrationAdapter ref other name' w).1, (o.run w).2) ∧
    isValidIntegration ref other name' (o.run w).2 =
      ((isValidIntegration ref other name' w).1, (o.run w).2) := by
  obtain ⟨_,_,_,hsame⟩ | ⟨r',m₁,e,_,hm₁,hkey,_,hfollows,hv⟩ := o.names_ends ho hr h
  · rw [hsame, integrationAdapter_run hr hm', isValidIntegration_run hr hm']
    exact ⟨rfl, rfl⟩
  · cases hm.symm.trans hm₁
    have hr' : (w.setContent ref (.registry r')).content ref = .registry r' :=
      World.content_setContent_self hr nofun
    have hstanding : standing (log ++ [e]) (m', name') = standing log (m', name') := by
      rw [standing_concat, hkey, if_neg hne]
    rw [hv, integrationAdapter_run hr hm', isValidIntegration_run hr hm',
      integrationAdapter_run hr' hm', isValidIntegration_run hr' hm', h.adapter, h.isValid,
      hfollows.adapter, hfollows.isValid, hstanding]
    exact ⟨rfl, rfl⟩

/-- From an empty registry on, whatever else is done to the chain except that a snapshot is brought back:
the registry answers for a module, however it is written, and a name what the last successful call about
them has left, and the zero address where that is nothing, and only there. An adapter can be added where
there is none and edited where there is one, if it is not the zero address, and removed where there is one;
and no call has an effect on another module or name. -/
theorem integrations_follow_the_calls {place : Address} {history : List Operation}
    (hr : w.content ref = .registry ⟨place, {}⟩) (hn : ∀ id, .revert id ∉ history) :
    let v := w.after (history.map .operation)
    ∀ module m name, Address.ofValue module = .ok m →
      let last := standing (w.entries ref history) (m, name)
      integrationAdapter ref module name v = (.ok (last.getD Address.zero), v) ∧
      isValidIntegration ref module name v = (.ok last.isSome, v) ∧ last ≠ some Address.zero ∧
      (∀ given a, Address.ofValue given = .ok a →
        ((addIntegration ref module name given v).1 = .ok () ↔ last = none ∧ a ≠ Address.zero) ∧
        ((editIntegration ref module name given v).1 = .ok () ↔
          last ≠ none ∧ a ≠ Address.zero)) ∧
      ((removeIntegration ref module name v).1 = .ok () ↔ last ≠ none) ∧
      ∀ o : Operation, o.names? = some (ref, module, name) → ∀ other m' name',
        Address.ofValue other = .ok m' → (m', name') ≠ (m, name) →
        integrationAdapter ref other name' (o.run v).2 =
          ((integrationAdapter ref other name' v).1, (o.run v).2) ∧
        isValidIntegration ref other name' (o.run v).2 =
          ((isValidIntegration ref other name' v).1, (o.run v).2) := by
  intro v module m name hm last
  obtain ⟨r,hv,hfollows⟩ := World.follows_entries hn hr (Follows.empty place)
  rw [List.nil_append] at hfollows
  refine ⟨?_, ?_, hfollows.nonzero _, fun given a ha => ⟨?_, ?_⟩, ?_, ?_⟩
  · rw [integrationAdapter_run hv hm, hfollows.adapter]
  · rw [isValidIntegration_run hv hm, hfollows.isValid]
  · rw [← hfollows.absent, ← named_done hm ha]
    exact iff_of_eq (congrArg (·.1 = _) (named_run hv))
  · rw [← hfollows.present, ← named_done hm ha]
    exact iff_of_eq (congrArg (·.1 = _) (named_run hv))
  · rw [removeIntegration_run hv, unnamed_done hm, hfollows.present]
  · exact fun o ho other m' name' hm' hne => names_others ho hm hv hfollows hm' hne

/-- An adapter is added, refused and edited under two spellings of its module, and comes and goes under
another name. -/
def Sample.registrations : List Operation :=
  [.addIntegration 0 (account 6).toValue "morpho" (account 50).toValue,
    .addIntegration 0 (.text (account 6).lowerText) "morpho" (account 51).toValue, .createClaimAdapter,
    .editIntegration 0 (.text (account 6).lowerText) "morpho" (account 52).toValue,
    .editIntegration 0 (account 6).toValue "morpho" Address.zero.toValue,
    .addIntegration 0 (account 6).toValue "mock" (account 53).toValue,
    .removeIntegration 0 (account 6).toValue "mock"]

theorem integrations_follow_the_calls_edited :
    let w := (World.deployed Sample.account (some Sample.owner)).2
    let v := w.after (Sample.registrations.map .operation)
    let module := (Sample.account 6).toValue
    integrationAdapter 0 module "morpho" v = (.ok (Sample.account 52), v) ∧
      isValidIntegration 0 module "mock" v = (.ok false, v) ∧
      (removeIntegration 0 module "morpho" v).1 = .ok () ∧
      (addIntegration 0 module "mock" (Sample.account 51).toValue v).1 = .ok () ∧
      (addIntegration 0 module "mock" Address.zero.toValue v).1 ≠ .ok () := by
  intro w v module
  have hr : w.content 0 = .registry ⟨Sample.account 0, {}⟩ := by decide +kernel
  have hn : ∀ id, .revert id ∉ Sample.registrations := by simp [Sample.registrations]
  have hlog : w.entries 0 Sample.registrations =
      [.set (Sample.account 6) "morpho" (Sample.account 50),
        .set (Sample.account 6) "morpho" (Sample.account 52),
        .set (Sample.account 6) "mock" (Sample.account 53),
        .removed (Sample.account 6) "mock"] := by decide +kernel
  have hm := Address.ofValue_toValue (Sample.account 6)
  obtain ⟨hadapter,-,-,-,hremoved,-⟩ := integrations_follow_the_calls hr hn module _ "morpho" hm
  obtain ⟨-,hvalid,-,hadded,-,-⟩ := integrations_follow_the_calls hr hn module _ "mock" hm
  rw [hlog] at hadapter hvalid hadded hremoved
  refine ⟨hadapter, hvalid, hremoved.mpr (by decide), ?_, fun h => ?_⟩
  · exact (hadded _ _ (Address.ofValue_toValue _)).1.mpr (by decide)
  · exact ((hadded _ _ (Address.ofValue_toValue _)).1.mp h).2 rfl

end Histories

end Basketry.Chain
