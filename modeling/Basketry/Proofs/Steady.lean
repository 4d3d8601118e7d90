import Basketry.Proofs.Footprints

namespace Basketry.Chain

variable {w v : World}

/-- The aspects that change while a set claims. -/
def onlyClaims : Ref → Aspect → Prop := fun _ k => k = .ledger ∨ k = .basket ∨ k = .events

/-- A contract without what a claim changes. -/
def Contract.bare : Contract → Contract
  | .token t => .token { t with totalSupply := 0, balances := {} }
  | .claimAdapter a =>
    .claimAdapter { a with token := { a.token with totalSupply := 0, balances := {} } }
  | .setToken s => .setToken { s with components := [], units := {} }
  | .claimModule m => .claimModule { m with events := [] }
  | c => c

/-- Two worlds between which claims were made. -/
structure ClaimsApart (w v : World) : Prop where
  registered : v.registered = w.registered
  bare : ∀ ref, (v.content ref).bare = (w.content ref).bare

theorem Token.Entry.bare {t t' : Token} (h : t.Entry t') :
    ({ t' with totalSupply := 0, balances := {} } : Token) =
      { t with totalSupply := 0, balances := {} } := by
  cases h with
  | minted => rfl
  | moved hc h =>
    unfold Token.move at h
    split at h
    · cases h
    · cases h; rfl

theorem Change.bare (hk : k = .ledger ∨ k = .basket ∨ k = .events) (h : Change k c c') :
    c'.bare = c.bare := by
  cases h with
  | token h => exact congrArg Contract.token h.bare
  | adapterToken h => exact congrArg (fun t => Contract.claimAdapter ⟨t, _⟩) h.bare
  | basket => rfl
  | event => rfl
  | _ => simp at hk

theorem Altered.bare {q : Aspect → Prop} (hq : ∀ k, q k → k = .ledger ∨ k = .basket ∨ k = .events)
    (h : Altered q c c') : c'.bare = c.bare := by
  induction h with
  | refl => rfl
  | tail _ hc ih =>
    obtain ⟨k,hk,hc⟩ := hc
    rw [hc.bare (hq k hk), ih]

theorem Edits.claimsApart (h : Edits onlyClaims w v) : ClaimsApart w v :=
  ⟨h.registered, fun ref => Altered.bare (fun _ hk => hk) (h.content ref)⟩

theorem ClaimsApart.trans {u : World} (h : ClaimsApart w v) (h' : ClaimsApart v u) :
    ClaimsApart w u :=
  ⟨h'.registered.trans h.registered, fun ref => (h'.bare ref).trans (h.bare ref)⟩

theorem Contract.bare_cases {c c' : Contract} (h : c'.bare = c.bare) :
    c' = c ∨ (∃ t t', c = .token t ∧ c' = .token t') ∨
      (∃ a a', c = .claimAdapter a ∧ c' = .claimAdapter a') ∨
      (∃ s components units, c = .setToken s ∧
        c' = .setToken { s with components := components, units := units }) ∨
      ∃ m events, c = .claimModule m ∧ c' = .claimModule { m with events := events } := by
  cases c with
  | token t =>
    cases c' with
    | token t' => exact .inr (.inl ⟨t, t', rfl, rfl⟩)
    | _ => cases h
  | claimAdapter a =>
    cases c' with
    | claimAdapter a' => exact .inr (.inr (.inl ⟨a, a', rfl, rfl⟩))
    | _ => cases h
  | setToken s =>
    cases c' with
    | setToken s' =>
      obtain ⟨a,r,p,components,units,states⟩ := s'
      refine .inr (.inr (.inr (.inl ⟨s, components, units, rfl, ?_⟩)))
      cases s
      cases h
      rfl
    | _ => cases h
  | claimModule m =>
    cases c' with
    | claimModule m' =>
      obtain ⟨a,r,settings,events⟩ := m'
      refine .inr (.inr (.inr (.inr ⟨m, events, rfl, ?_⟩)))
      cases m
      cases h
      rfl
    | _ => cases h
  | _ =>
    left
    cases c' <;> cases h
    rfl

/-- An action that reads nothing that a claim changes. -/
def Steady (a : Run α) : Prop := ∀ w v, ClaimsApart w v → (a v).1 = (a w).1

theorem Steady.bind {a : Run α} {f : α → Run β} (hr : Reads a) (ha : Steady a)
    (hf : ∀ x, Steady (f x)) : Steady (a >>= f) := by
  intro w v h
  rw [bind_run, bind_run, hr.run w, hr.run v, ha w v h]
  cases (a w).1 with
  | ok x => exact hf x w v h
  | error fault => rfl

theorem Steady.pure (x : α) : Steady (pure x : Run α) := fun _ _ _ => rfl

theorem Steady.throw (fault : Fault) : Steady (throw fault : Run α) := fun _ _ _ => rfl

theorem Steady.lift (e : Except Fault α) : Steady (liftM e : Run α) := fun _ _ _ => rfl

theorem Steady.ite {c : Prop} [Decidable c] {a b : Run α} (ha : Steady a) (hb : Steady b) :
    Steady (if c then a else b) := by
  split
  · exact ha
  · exact hb

/-- What is read of a content has to be the same before and after a claim. -/
theorem Steady.byContent {f : Contract → Run α} {ref : Ref} (hf : ∀ c, Steady (f c))
    (ht : ∀ t t', f (.token t') = f (.token t))
    (ha : ∀ a a', f (.claimAdapter a') = f (.claimAdapter a))
    (hs : ∀ s components units,
      f (.setToken { s with components := components, units := units }) = f (.setToken s))
    (hm : ∀ m events, f (.claimModule { m with events := events }) = f (.claimModule m)) :
    Steady (content ref >>= f) := by
  intro w v h
  have he : f (v.content ref) = f (w.content ref) := by
    rcases Contract.bare_cases (h.bare ref) with
      hc | ⟨t,t',hc,hc'⟩ | ⟨a,a',hc,hc'⟩ | ⟨s,cs,us,hc,hc'⟩ | ⟨m,es,hc,hc'⟩
    · rw [hc]
    · rw [hc, hc', ht]
    · rw [hc, hc', ha]
    · rw [hc, hc', hs]
    · rw [hc, hc', hm]
  rw [content_bind, content_bind, he]
  exact hf _ w v h

theorem Steady.state {f : World → Run α}
    (hs : ∀ w v : World, v.registered = w.registered → f v = f w)
    (hf : ∀ w, Steady (f w)) : Steady (get >>= f) := by
  intro w v h
  change (f v v).1 = (f w w).1
  rw [hs w v h.registered]
  exact hf w w v h

theorem controllerAt_steady (ref : Ref) : Steady (controllerAt ref) := by
  refine .byContent (fun c => ?_) (fun _ _ => rfl) (fun _ _ => rfl) (fun _ _ _ => rfl)
    fun _ _ => rfl
  cases c <;> first | exact .pure _ | exact .throw _

theorem registryAt_steady (ref : Ref) : Steady (registryAt ref) := by
  refine .byContent (fun c => ?_) (fun _ _ => rfl) (fun _ _ => rfl) (fun _ _ _ => rfl)
    fun _ _ => rfl
  cases c <;> first | exact .pure _ | exact .throw _

theorem setAddress_steady (ref : Ref) : Steady (setAddress ref) := by
  refine .byContent (fun c => ?_) (fun _ _ => rfl) (fun _ _ => rfl) (fun _ _ _ => rfl)
    fun _ _ => rfl
  cases c <;> first | exact .pure _ | exact .throw _

/-- The events of a module are the only part of it that a claim changes. -/
theorem moduleAt_apart (h : ClaimsApart w v) (ref : Ref) :
    (moduleAt ref v).1 = (moduleAt ref w).1 ∨
      ∃ m events, (moduleAt ref w).1 = .ok m ∧
        (moduleAt ref v).1 = .ok { m with events := events } := by
  unfold moduleAt
  rw [content_bind, content_bind]
  rcases Contract.bare_cases (h.bare ref) with
    hc | ⟨t,t',hc,hc'⟩ | ⟨a,a',hc,hc'⟩ | ⟨s,cs,us,hc,hc'⟩ | ⟨m,es,hc,hc'⟩
  · left
    rw [hc]
    cases w.content ref <;> rfl
  · exact .inl (by rw [hc, hc']; rfl)
  · exact .inl (by rw [hc, hc']; rfl)
  · exact .inl (by rw [hc, hc']; rfl)
  · exact .inr ⟨m, es, by rw [hc]; rfl, by rw [hc']; rfl⟩

theorem Steady.byModule {f : ClaimModule → Run α} {ref : Ref} (hf : ∀ m, Steady (f m))
    (hm : ∀ m events, f { m with events := events } = f m) : Steady (moduleAt ref >>= f) := by
  intro w v h
  rw [bind_run, bind_run, (moduleAt_reads ref).run w, (moduleAt_reads ref).run v]
  rcases moduleAt_apart h ref with he | ⟨m,events,hw,hv⟩
  · rw [he]
    cases (moduleAt ref w).1 with
    | ok m => exact hf m w v h
    | error fault => rfl
  · rw [hw, hv]
    simp only [hm]
    exact hf m w v h

theorem integrationRegistry_steady (ref : Ref) : Steady (integrationRegistry ref) := by
  apply Steady.state
  · intro w v h
    simp only [World.find, h]
  · intro _
    exact .bind (controllerAt_reads ref) (controllerAt_steady ref) fun _ => .pure _

theorem integrationAdapter_steady (ref : Ref) (a : Value) (name : String) :
    Steady (integrationAdapter ref a name) := by
  apply Steady.bind (registryAt_reads ref) (registryAt_steady ref)
  intro r
  exact .bind (.lift _) (.lift _) fun _ => .pure _

theorem controllerOf_steady (module : Ref) : Steady (controllerOf module) :=
  .byModule (fun _ => .pure _) fun _ _ => rfl

theorem namedAdapter_steady (module : Ref) (name : String) : Steady (namedAdapter module name) := by
  apply Steady.bind (controllerOf_reads module) (controllerOf_steady module)
  intro c
  apply Steady.bind (integrationRegistry_reads c) (integrationRegistry_steady c)
  intro registry
  cases registry with
  | none => exact .throw _
  | some r =>
    refine .byModule (fun m => ?_) fun _ _ => rfl
    apply Steady.bind (integrationAdapter_reads r _ name) (integrationAdapter_steady r _ name)
    intro adapter
    exact .ite (.throw _) (.pure _)

theorem addressOf_steady (set : Ref) : Steady (addressOf (.object set)) := by
  refine .byContent (fun c => ?_) (fun _ _ => rfl) (fun _ _ => rfl) (fun _ _ _ => rfl)
    fun _ _ => rfl
  exact .ite (setAddress_steady set) (.lift _)

theorem isClaimRegistered_steady (module set : Ref) (pool adapter : Value) :
    Steady (isClaimRegistered module (.object set) pool adapter) := by
  apply Steady.bind (addressOf_reads _) (addressOf_steady set)
  intro a
  apply Steady.bind (.lift _) (.lift _)
  intro p
  refine .byModule (fun m => ?_) fun _ _ => rfl
  exact .bind (.lift _) (.lift _) fun _ => .pure _

theorem setProfile_steady (set : Ref) : Steady (setProfile set) := by
  refine .byContent (fun c => ?_) (fun _ _ => rfl) (fun _ _ => rfl) (fun _ _ _ => rfl)
    fun _ _ => rfl
  cases c with
  | setToken s => exact .pure _
  | setDraft d =>
    obtain ⟨a,c,profile⟩ := d
    cases profile with
    | none => exact .throw _
    | some p => exact .pure p
  | _ => exact .throw _

theorem moduleState_steady (set : Ref) (a : Value) : Steady (moduleState set a) := by
  rw [moduleState, setAt, bind_assoc]
  refine .byContent (fun c => ?_) (fun _ _ => rfl) (fun _ _ => rfl) (fun _ _ _ => rfl)
    fun _ _ => rfl
  cases c with
  | setToken s => exact .bind (.pure s) (.pure s) fun _ => .bind (.lift _) (.lift _) fun _ => .pure _
  | _ => exact .throw _

theorem find_steady (a : Value) : Steady (find a) := by
  refine .bind (.lift _) (.lift _) fun a => .state (fun w v h => ?_) fun _ => .pure _
  simp only [World.find, h]

theorem isSet_steady (ref : Ref) :
    Steady (do if (← content ref).isSet then return ref else resolveSet.refuse : Run Ref) :=
  .byContent (fun _ => .ite (.pure _) (.throw _)) (fun _ _ => rfl) (fun _ _ => rfl)
    (fun _ _ _ => rfl) fun _ _ => rfl

theorem foundSet_steady {a : Run (Option Ref)} (hr : Reads a) (ha : Steady a) :
    Steady (a >>= fun
      | some ref => do if (← content ref).isSet then return ref else resolveSet.refuse
      | none => resolveSet.refuse) := by
  refine .bind hr ha fun found => ?_
  cases found with
  | none => exact .throw _
  | some ref => exact isSet_steady ref

theorem resolveSet_steady (given : Value) : Steady (resolveSet given) := by
  cases given with
  | object ref =>
    refine .byContent (fun c => .ite ?_ ?_) (fun _ _ => rfl) (fun _ _ => rfl) (fun _ _ _ => rfl)
      fun _ _ => rfl
    · exact foundSet_steady (.pure _) (.pure _)
    · exact foundSet_steady (find_reads _) (find_steady _)
  | _ => exact foundSet_steady (find_reads _) (find_steady _)

theorem stateOf_steady (module set : Ref) : Steady (stateOf module set) :=
  .byModule (fun _ => moduleState_steady set _) fun _ _ => rfl

theorem isEnabledSet_steady (module set : Ref) : Steady (isEnabledSet module set) := by
  refine .bind (controllerOf_reads module) (controllerOf_steady module) fun c => ?_
  refine .bind (setAddress_reads set) (setAddress_steady set) fun a => ?_
  refine .bind (controllerAt_reads c) (controllerAt_steady c) fun _ => ?_
  exact .bind (.lift _) (.lift _) fun _ => .pure _

theorem anyoneMayClaim_steady (module set : Ref) : Steady (anyoneMayClaim module (.object set)) :=
  .byModule (fun _ => .bind (addressOf_reads _) (addressOf_steady set) fun _ => .pure _)
    fun _ _ => rfl

theorem onlyInitializedSet_steady (module set : Ref) : Steady (onlyInitializedSet module set) := by
  refine .bind (isEnabledSet_reads module set) (isEnabledSet_steady module set) fun _ => ?_
  refine .ite (.throw _) ?_
  refine .bind (stateOf_reads module set) (stateOf_steady module set) fun _ => ?_
  exact .ite (.throw _) (.pure _)

theorem onlyValidCaller_steady (module set : Ref) (caller : Value) :
    Steady (onlyValidCaller module set caller) := by
  refine .bind (anyoneMayClaim_reads module _) (anyoneMayClaim_steady module set) fun _ => ?_
  refine .ite (.bind (.lift _) (.lift _) fun a => ?_) (.pure _)
  refine .bind (setProfile_reads set) (setProfile_steady set) fun _ => ?_
  exact .ite (.throw _) (.pure _)

theorem claimableSet_steady (module : Ref) (caller given : Value) :
    Steady (claimableSet module caller given) := by
  refine .bind (resolveSet_reads given) (resolveSet_steady given) fun set => ?_
  refine .bind (onlyValidCaller_reads module set caller) (onlyValidCaller_steady module set caller)
    fun _ => ?_
  refine .bind (onlyInitializedSet_reads module set) (onlyInitializedSet_steady module set)
    fun _ => ?_
  exact .pure set

end Basketry.Chain
