import Basketry.Proofs.IgnoredSnapshots
import Basketry.Proofs.Runs
import Basketry.Proofs.Steady
import Basketry.Proofs.Transactions

namespace Basketry.Chain

variable {w v : World}

section Turns
variable {σ ι β : Type} {check : Run σ} {one : σ → ι → Run β}

/-- A check that answers the same after every item that is done on its word. -/
structure Recurring (check : Run σ) (one : σ → ι → Run β) : Prop where
  reads : Reads check
  ignores : ∀ s x, IgnoresSnapshots (one s x)
  again : ∀ {s x y} {w v : World}, (check w).1 = .ok s → one s x w = (.ok y, v) →
    (check v).1 = .ok s

variable {single : ι → Operation} {answer : β → Answer}

/-- Where the check holds at the beginning, it may as well be made before every item. -/
theorem Recurring.turns (h : Recurring check one)
    (hsingle : ∀ x, (single x).run =
      (atomically (check >>= fun s => one s x)) >>= fun y => pure (answer y))
    {s : σ} (hs : (check w).1 = .ok s) (items : List ι) :
    let turns := runSteps (items.map fun x => .operation (single x))
    (turns w).1 = (items.mapM (one s) w).1.map (List.map answer) ∧
      ∀ ys v, items.mapM (one s) w = (.ok ys, v) → turns w = (.ok (ys.map answer), v) := by
  induction items generalizing w with
  | nil =>
    refine ⟨rfl, fun ys v hv => ?_⟩
    cases hv
    rfl
  | cons x xs ih =>
    have hblock : (check >>= fun s => one s x) w = one s x w := bind_of_ok (h.reads.run_ok hs) _
    obtain ⟨hanswer,hworld⟩ :=
      IgnoresSnapshots.atomically (h.reads.ignoresSnapshots.bind fun s => h.ignores s x) w
    rw [hblock] at hanswer
    simp only [hblock] at hworld
    simp only [List.map_cons, List.mapM_cons, runSteps_cons, Step.run]
    rw [bind_run (one s x), bind_run, hsingle x, answer_run]
    cases hone : one s x w with
    | mk outcome u =>
      cases outcome with
      | error fault =>
        rw [hanswer, hone]
        exact ⟨rfl, fun ys v hv => by cases hv⟩
      | ok y =>
        rw [hworld y u hone]
        obtain ⟨hrest,hend⟩ := ih (h.again hs hone)
        simp only [Except.map]
        rw [answer_run, answer_run]
        refine ⟨?_, fun ys v hv => ?_⟩
        · simp only [hrest]
          cases (xs.mapM (one s) u).1 <;> rfl
        · cases hm : xs.mapM (one s) u with
          | mk outcome z =>
            rw [hm] at hv
            cases outcome with
            | error fault => cases hv
            | ok zs =>
              rw [hend zs z hm]
              cases hv
              rfl

/-- A batch makes the check once and then does its items. -/
theorem Recurring.batch (h : Recurring check one)
    (hsingle : ∀ x, (single x).run =
      (atomically (check >>= fun s => one s x)) >>= fun y => pure (answer y))
    {items : List ι} (hitems : items ≠ []) {γ : Type} {body : σ → Run γ} {all : List β → γ}
    (hbody : ∀ s, body s = items.mapM (one s) >>= fun ys => pure (all ys))
    {o : Operation} {whole : γ → Answer} {summary : List Answer → Answer}
    (ho : o.run = atomically (check >>= body) >>= fun y => pure (whole y))
    (hsummary : ∀ ys, summary (ys.map answer) = whole (all ys)) (w : World) :
    let turns := runSteps (items.map fun x => .operation (single x))
    (o.run w).1 = (turns w).1.map summary ∧
      ∀ answers v, turns w = (.ok answers, v) → (o.run w).2 = v := by
  have hignores : IgnoresSnapshots (check >>= body) := by
    refine h.reads.ignoresSnapshots.bind fun s => ?_
    rw [hbody]
    exact (IgnoresSnapshots.mapM (h.ignores s)).bind fun _ => (Reads.pure _).ignoresSnapshots
  obtain ⟨hanswer,hworld⟩ := hignores.atomically w
  rw [ho, answer_run]
  cases hc : (check w).1 with
  | error fault =>
    obtain ⟨x,xs,rfl⟩ := List.exists_cons_of_ne_nil hitems
    have hfails : ∀ {δ : Type} (f : σ → Run δ), ((check >>= f) w).1 = .error fault := by
      intro δ f
      rw [bind_run, h.reads.run w, hc]
    have hone :=
      (IgnoresSnapshots.atomically (h.reads.ignoresSnapshots.bind fun s => h.ignores s x) w).1
    have hturns : (runSteps ((x :: xs).map fun x => .operation (single x)) w).1 = .error fault := by
      rw [List.map_cons, runSteps_cons, Step.run, hsingle x, bind_run, answer_run, hone, hfails]
      rfl
    simp only [hanswer, hfails, hturns]
    refine ⟨rfl, fun answers v hv => ?_⟩
    rw [hv] at hturns
    cases hturns
  | ok s =>
    have hrun : (check >>= body) w = ((items.mapM (one s) w).1.map all, (items.mapM (one s) w).2) := by
      rw [bind_of_ok (h.reads.run_ok hc), hbody, answer_run]
    obtain ⟨hturns,hend⟩ := h.turns hsingle hc items
    rw [hrun] at hanswer hworld
    simp only [hanswer, hturns]
    cases hm : items.mapM (one s) w with
    | mk outcome u =>
      rw [hm] at hworld hturns
      cases outcome with
      | error fault =>
        refine ⟨rfl, fun answers v hv => ?_⟩
        rw [hv] at hturns
        cases hturns
      | ok ys =>
        refine ⟨congrArg Except.ok (hsummary ys).symm, fun answers v hv => ?_⟩
        rw [hend ys u hm] at hv
        cases hv
        rw [hworld (all ys) u rfl]

end Turns

section Kept

/-- Worlds that are the same but for the settings of claim modules. -/
structure Resettled (w v : World) : Prop where
  registered : v.registered = w.registered
  objects : v.objects.length = w.objects.length
  contents : ∀ ref, Contract.Near (fun _ _ => True) (w.content ref) (v.content ref)

theorem Resettled.tracks : Tracks (fun _ _ => True) Resettled := by
  refine ⟨fun _ => trivial, fun h => h.registered, fun h => h.contents, fun h c c' hc ref => ?_⟩
  refine ⟨h.registered, by simp [World.setContent, h.objects], fun r => ?_⟩
  rw [World.content_setContent, World.content_setContent, h.objects]
  split
  · exact hc
  · exact h.contents r

theorem Contract.Near.trans {c c' c'' : Contract} (h : c.Near (fun _ _ => True) c')
    (h' : c'.Near (fun _ _ => True) c'') : c.Near (fun _ _ => True) c'' := by
  cases h with
  | same => exact h'
  | settings m =>
    cases h' with
    | same => exact .settings m trivial
    | settings => exact .settings m trivial

theorem Resettled.address (h : Resettled w v) (ref : Ref) :
    (v.content ref).address? = (w.content ref).address? := by
  have hc := h.contents ref
  generalize w.content ref = c, v.content ref = c' at hc
  cases hc <;> rfl

/-- The settings of any sets. -/
def settingsOnly : Ref → Aspect → Prop := fun _ k => ∃ a, k = .settings a

theorem Edits.resettled (h : Edits settingsOnly w v) : Resettled w v := by
  refine ⟨h.registered, h.others.2, fun ref => ?_⟩
  have hc := h.content ref
  generalize v.content ref = c at hc
  induction hc with
  | refl => exact .same _
  | tail _ hs ih =>
    obtain ⟨_,⟨a,rfl⟩,hs⟩ := hs
    cases hs
    exact ih.trans (.settings _ trivial)

variable (module : Ref) (caller given : Value)

/-- The check of a manager's call does not look at the settings that its items change. -/
theorem managed_recurring {one : Ref → Value × String → Run Unit}
    (hignores : ∀ s x, IgnoresSnapshots (one s x))
    (hedits : ∀ s x w, EditsAt settingsOnly (one s x) w) :
    Recurring (managedSet module caller given) one := by
  refine ⟨managedSet_reads module caller given, hignores, fun {s x y w v} hs hone => ?_⟩
  have hv : Resettled w v := ((hedits s x w).reached hone).resettled
  rw [(managedSet_tracked Resettled.tracks module given caller w v hv).1]
  exact hs

theorem addOne_recurring : Recurring (managedSet module caller given)
    fun set (x : Value × String) => addOne module set x.1 x.2 := by
  refine managed_recurring module caller given (fun set x => ?_) fun set x w => ?_
  · exact addOne_ignoresSnapshots module set x.1 x.2
  · exact addOne_edits x.1 x.2 fun a _ => ⟨a, rfl⟩

theorem removeOne_recurring : Recurring (managedSet module caller given)
    fun set (x : Value × String) => removeOne module set x.1 x.2 := by
  refine managed_recurring module caller given (fun set x => ?_) fun set x w => ?_
  · exact removeOne_ignoresSnapshots module set x.1 x.2
  · exact removeOne_edits x.1 x.2 fun a _ => ⟨a, rfl⟩

/-- The check of a claim looks at nothing that a claim changes. -/
theorem claimOne_recurring : Recurring (claimableSet module caller given)
    fun set (x : (Value × String) × Value) => claimOne module set x.1.1 x.1.2 x.2 := by
  refine ⟨claimableSet_reads module caller given,
    fun set x => claimOne_ignoresSnapshots module set x.1.1 x.1.2 x.2, fun {s x y w v} hs hone => ?_⟩
  have hedits : EditsAt onlyClaims (claimOne module s x.1.1 x.1.2 x.2) w :=
    claimOne_edits x.1.1 x.2 x.1.2 (fun _ => .inl rfl) (.inr (.inl rfl)) (.inr (.inr rfl))
  rw [claimableSet_steady module caller given w v (hedits.reached hone).claimsApart]
  exact hs

end Kept

namespace Operation

/-- The single calls that a batch stands for, in their order. -/
def singles : Operation → List Operation
  | .batchAddClaim module caller set pools names =>
    (pools.zip names).map fun x => .addClaim module caller set x.1 x.2
  | .batchRemoveClaim module caller set pools names =>
    (pools.zip names).map fun x => .removeClaim module caller set x.1 x.2
  | .batchClaim module caller set pools names data =>
    ((pools.zip names).zip data).map fun x => .claim module caller set x.1.1 x.1.2 x.2
  | o => [o]

/-- A batch over arrays of one length, which is not zero. -/
def IsBatch : Operation → Prop
  | .batchAddClaim _ _ _ pools names | .batchRemoveClaim _ _ _ pools names =>
    pools ≠ [] ∧ names.length = pools.length
  | .batchClaim _ _ _ pools names data =>
    pools ≠ [] ∧ names.length = pools.length ∧ data.length = pools.length
  | _ => False

/-- What a batch answers where its single calls answer as given. -/
def summary : Operation → List Answer → Answer
  | .batchClaim .., answers => .events (answers.filterMap fun
    | .event e => some e
    | _ => none)
  | _, _ => .nothing

theorem IsBatch.isModuleCall {o : Operation} (h : o.IsBatch) : o.IsModuleCall := by
  cases o with
  | batchAddClaim => trivial
  | batchRemoveClaim => trivial
  | batchClaim => trivial
  | _ => exact h.elim

end Operation

section Arrays
variable {pools : List Value} {others : List α}

theorem zip_ne_nil {xs : List α} {ys : List β} (hx : xs ≠ []) (hl : ys.length = xs.length) :
    xs.zip ys ≠ [] := by
  intro h
  have hlength := congrArg List.length h
  rw [List.length_zip, hl, Nat.min_self, List.length_nil, List.length_eq_zero_iff] at hlength
  exact hx hlength

theorem checkArrays_bind (hp : pools ≠ []) (hl : others.length = pools.length) (a : Run β) :
    (checkArrays pools others >>= fun _ => a) = a := by
  have hn : pools.length ≠ 0 := fun h => hp (List.length_eq_zero_iff.mp h)
  unfold checkArrays
  rw [if_neg (fun h => h hl.symm), if_neg hn]
  rfl

/-- A loop whose answers are thrown away. -/
theorem forM_eq_mapM (xs : List α) (f : α → Run Unit) :
    xs.forM f = xs.mapM f >>= fun _ => pure () := by
  induction xs with
  | nil => rfl
  | cons x xs ih =>
    change (f x >>= fun _ => xs.forM f) = _
    rw [ih, List.mapM_cons]
    simp only [bind_assoc, pure_bind]

end Arrays

/-- The single calls of a batch, each as a block of its own, answer up to their first fault as the
batch does, and leave what it leaves if they all succeed. -/
theorem batch_turns {o : Operation} (ho : o.IsBatch) (w : World) :
    let turns := runSteps (o.singles.map .operation)
    (o.run w).1 = (turns w).1.map o.summary ∧
      ∀ answers v, turns w = (.ok answers, v) → (o.run w).2 = v := by
  cases o with
  | batchAddClaim module caller set pools names =>
    obtain ⟨hp,hl⟩ := ho
    have hrun : (Operation.batchAddClaim module caller set pools names).run =
        atomically (managedSet module caller set >>= fun s => addAll module s pools names) >>=
          fun _ => pure .nothing := rfl
    have hbody : ∀ s, addAll module s pools names =
        (pools.zip names).mapM (fun x => addOne module s x.1 x.2) >>= fun _ => pure () :=
      fun _ => (checkArrays_bind hp hl _).trans (forM_eq_mapM _ _)
    simp only [Operation.singles, List.map_map]
    exact (addOne_recurring module caller set).batch (fun _ => rfl) (zip_ne_nil hp hl) hbody hrun
      (fun _ => rfl) w
  | batchRemoveClaim module caller set pools names =>
    obtain ⟨hp,hl⟩ := ho
    have hrun : (Operation.batchRemoveClaim module caller set pools names).run =
        atomically (managedSet module caller set >>= fun s => removeAll module s pools names) >>=
          fun _ => pure .nothing := rfl
    have hbody : ∀ s, removeAll module s pools names =
        (pools.zip names).mapM (fun x => removeOne module s x.1 x.2) >>= fun _ => pure () :=
      fun _ => (checkArrays_bind hp hl _).trans (forM_eq_mapM _ _)
    simp only [Operation.singles, List.map_map]
    exact (removeOne_recurring module caller set).batch (fun _ => rfl) (zip_ne_nil hp hl) hbody hrun
      (fun _ => rfl) w
  | batchClaim module caller set pools names data =>
    obtain ⟨hp,hl,hd⟩ := ho
    have hz : (pools.zip names).zip data ≠ [] :=
      zip_ne_nil (zip_ne_nil hp hl) (by rw [List.length_zip, hl, Nat.min_self, hd])
    have hrun : (Operation.batchClaim module caller set pools names data).run =
        atomically (claimableSet module caller set >>= fun s => do
          checkArrays pools names
          if data.length ≠ pools.length then throw (.revert "Array length mismatch")
          ((pools.zip names).zip data).mapM fun x => claimOne module s x.1.1 x.1.2 x.2) >>=
          fun es => pure (.events es) := rfl
    have hbody : ∀ s, (do
        checkArrays pools names
        if data.length ≠ pools.length then throw (.revert "Array length mismatch")
        ((pools.zip names).zip data).mapM fun x => claimOne module s x.1.1 x.1.2 x.2) =
        ((pools.zip names).zip data).mapM (fun x => claimOne module s x.1.1 x.1.2 x.2) >>=
          fun es => pure es := by
      intro s
      rw [checkArrays_bind hp hl, if_neg (fun h => h hd), bind_pure]
    have hsingle : ∀ x : (Value × String) × Value,
        (Operation.claim module caller set x.1.1 x.1.2 x.2).run =
          atomically (claimableSet module caller set >>= fun s =>
            claimOne module s x.1.1 x.1.2 x.2) >>= fun e => pure (.event e) := fun _ => rfl
    have hsummary : ∀ es : List RewardClaimed,
        (Operation.batchClaim module caller set pools names data).summary (es.map .event) =
          .events es := by
      intro es
      rw [Operation.summary, List.filterMap_map]
      exact congrArg Answer.events (List.filterMap_some)
    simp only [Operation.singles, List.map_map]
    exact (claimOne_recurring module caller set).batch hsingle hz hbody hrun hsummary w
  | _ => exact ho.elim

/-- In any world, a batch over arrays of one length answers what its single calls answer in turn. It
succeeds exactly where all of them do and then leaves the very same world; where one of them is the
first to fail the batch fails with its fault, and where that is a refusal every contract that stands at
an address is as it was, and so are the addresses and the snapshots. -/
theorem batch_is_its_singles_in_turn {o : Operation} (ho : o.IsBatch) (w : World) :
    let turns := runSteps (o.singles.map .operation)
    (o.run w).1 = (turns w).1.map o.summary ∧
      (∀ answers v, turns w = (.ok answers, v) → (o.run w).2 = v) ∧
      ∀ reason v, turns w = (.error (.revert reason), v) →
        (o.run w).2.snapshots = w.snapshots ∧ w.SameState (o.run w).2 := by
  intro turns
  obtain ⟨hanswer,hworld⟩ := batch_turns ho w
  refine ⟨hanswer, hworld, fun reason v hv => ?_⟩
  have hrefused : o.run w = (.error (.revert reason), (o.run w).2) :=
    Prod.ext (hanswer.trans (congrArg (fun r => r.1.map o.summary) hv)) rfl
  exact (Operation.block ho.isModuleCall).undone hrefused

/-- The chain goes back to where the module was not on it, and the set and its adapter are made known
again. -/
def Sample.moduleGone : List Step :=
  [.operation .snapshot] ++ history ++
    [.operation (.revert 0), .operation (.addSet 1 set),
      .operation (.addIntegration 0 (account 6).toValue "morpho" (account 50).toValue)]

theorem batch_is_its_singles_in_turn_refused :
    let turns := runSteps (Sample.batch.singles.map .operation) Sample.world
    Sample.batch.IsBatch ∧
      turns = (.error (.revert "Integration names must be unique"), turns.2) ∧
      (Sample.batch.run Sample.world).1 = .error (.revert "Integration names must be unique") ∧
      Sample.world.SameState (Sample.batch.run Sample.world).2 := by
  have ho : Sample.batch.IsBatch := ⟨List.cons_ne_nil _ _, rfl⟩
  have hturns : runSteps (Sample.batch.singles.map .operation) Sample.world =
      (.error (.revert "Integration names must be unique"), _) := eq_of_fault? (by decide +kernel)
  obtain ⟨hanswer,_,hundone⟩ := batch_is_its_singles_in_turn ho Sample.world
  refine ⟨ho, hturns, ?_, (hundone _ _ hturns).2⟩
  exact hanswer.trans (congrArg (fun r => r.1.map Sample.batch.summary) hturns)

/-- What a refused batch has done in a module that stands at no address is not undone. -/
theorem refused_batches_show_off_the_chain :
    let w := (World.deployed Sample.account (some Sample.owner)).2.after Sample.moduleGone
    let other := (Sample.account 3).toValue
    let batch : Operation :=
      .batchAddClaim 7 Sample.manager (.object 8) [other, Sample.pool] ["morpho", "morpho"]
    let refusal := some (Fault.revert "Integration names must be unique")
    let registered := isClaimRegistered 7 (.object 8) other (Sample.account 50).toValue
    batch.IsBatch ∧ fault? (runSteps (batch.singles.map .operation) w).1 = refusal ∧
      fault? (batch.run w).1 = refusal ∧
      (registered w).1 = .ok false ∧ (registered (batch.run w).2).1 = .ok true :=
  ⟨⟨List.cons_ne_nil _ _, rfl⟩, by decide +kernel⟩

end Basketry.Chain
