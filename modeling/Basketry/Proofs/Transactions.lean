import Basketry.Proofs.Runs

namespace Basketry.Chain

variable {w v : World}

/-- Every object at an address has the state that it had. A controller in use that stands at no
address is found as a copy, and contracts refer to the copy in its place. -/
structure World.SameState (w v : World) : Prop where
  registered : v.registered = w.registered
  contents : ∃ place : Ref → Ref, (∀ ref ∉ w.strays, place ref = ref) ∧
    (∀ ref ∈ w.strays, v.content (place ref) = w.content ref) ∧
    ∀ ref ∈ w.registered.values, ref < w.objects.length →
      v.content ref = (w.content ref).redirect place

namespace World

theorem sameState_restore (hl : w.objects.length ≤ v.objects.length) :
    w.SameState (v.restore w.shot) := by
  refine ⟨by rw [(v.restore_others w.shot).1]; rfl, v.moved w.shot, ?_, ?_, ?_⟩
  · intro ref hn
    have hrefs : w.shot.strays.map (·.1) = w.strays := by simp [shot, contentsOf, Function.comp_def]
    exact moved_of_not_mem (by rwa [hrefs])
  · intro ref hs
    exact content_moved hs
  · intro ref hm hr
    exact content_restore_shot hm (Nat.lt_of_lt_of_le hr hl)

/-- With every controller in use at an address, nothing moves and nothing is copied. -/
theorem content_restore_eq (hs : w.strays = []) {ref : Ref} (hm : ref ∈ w.registered.values)
    (hl : w.objects.length ≤ v.objects.length) :
    (v.restore w.shot).content ref = w.content ref := by
  have hstrays : w.shot.strays = [] := by simp [shot, hs, contentsOf]
  by_cases hr : ref < v.objects.length
  · rw [content_restore_shot hm hr]
    exact Contract.redirect_self _ fun r _ => moved_of_not_mem (by simp [hstrays])
  · have hw : w.content ref = .chain := by
      simp [content, List.getElem?_eq_none (Nat.le_trans hl (Nat.le_of_not_lt hr))]
    rw [content_restore, if_neg hr, hstrays, hw]
    rfl

end World

/-- A block that is refused leaves nothing behind. -/
theorem Block.undone {f : Footprint} {a : Run α} (h : Block f a)
    (ha : a w = (.error (.revert reason), v)) : v.snapshots = w.snapshots ∧ w.SameState v := by
  obtain ⟨u,hu,rfl⟩ := h.refused ha
  have hl : w.objects.length ≤ u.objects.length := Nat.le_of_eq hu.others.2.symm
  exact ⟨World.snapshots_restore _ _, World.sameState_restore hl⟩

/-- A mutating call of a claim module that a contract refuses leaves the addresses, the state of
every contract at one and the snapshots as they were. Any other fault is not undone, and what was
done until then is within what the call may touch. -/
theorem module_call_fault {o : Operation} {fault : Fault} (ho : o.IsModuleCall)
    (h : o.run w = (.error fault, v)) :
    v.registered = w.registered ∧
      ((∃ reason, fault = .revert reason) → v.snapshots = w.snapshots ∧ w.SameState v) ∧
      ((∀ reason, fault ≠ .revert reason) →
        ∀ ref, Altered (o.touches w ref) (w.content ref) (v.content ref)) := by
  by_cases hr : ∃ reason, fault = .revert reason
  · obtain ⟨reason,rfl⟩ := hr
    obtain ⟨u,hu,rfl⟩ := (Operation.block ho).refused h
    have hl : w.objects.length ≤ u.objects.length := Nat.le_of_eq hu.others.2.symm
    have hsame : w.SameState ({ u with snapshots := w.snapshots }.restore w.shot) :=
      World.sameState_restore hl
    refine ⟨hsame.registered, fun _ => ⟨World.snapshots_restore _ _, hsame⟩, fun hn => ?_⟩
    exact absurd rfl (hn reason)
  · have hn : ∀ reason, fault ≠ .revert reason := fun reason he => hr ⟨reason, he⟩
    have he := (Operation.block ho).breaks h hn
    exact ⟨he.registered, fun h => absurd h hr, fun _ => he.content⟩

/-- The second item of the batch is refused. -/
def Sample.batch : Operation :=
  .batchAddClaim 7 manager set [(account 3).toValue, pool] ["morpho", "morpho"]

/-- The first item of the batch changes the module, and the refusal of the second takes that back. -/
theorem module_call_fault_refused :
    let first := Operation.addClaim 7 Sample.manager Sample.set (Sample.account 3).toValue "morpho"
    (first.run Sample.world).2.content 7 ≠ Sample.world.content 7 ∧
      ∃ v, Sample.batch.run Sample.world =
          (.error (.revert "Integration names must be unique"), v) ∧
        v.snapshots = Sample.world.snapshots ∧ Sample.world.SameState v := by
  have h : Sample.batch.run Sample.world =
      (.error (.revert "Integration names must be unique"), _) := eq_of_fault? (by decide +kernel)
  exact ⟨by decide +kernel, _, h, (module_call_fault (by trivial) h).2.1 ⟨_, rfl⟩⟩

/-- The second pool of the batch is no address. The first one stays registered, and the snapshot
stays. -/
theorem broken_batch_leaves_traces :
    let o := Operation.batchAddClaim 7 Sample.manager Sample.set
      [(Sample.account 3).toValue, .null] ["morpho", "morpho"]
    fault? (o.run Sample.world).1 = some .wrongType ∧
      (o.run Sample.world).2.content 7 ≠ Sample.world.content 7 ∧
      (o.run Sample.world).2.snapshots.length ≠ Sample.world.snapshots.length := by
  decide +kernel

/-- The snapshot of a block still lies at its place when the block ends, however deep the steps have
nested. -/
theorem runSteps_below {steps : List Step} (hown : AllSpare (w.snapshots.length + 1) steps) :
    let v := (runSteps steps w.snapshot.2).2
    w.objects.length ≤ v.objects.length ∧ v.snapshots.take w.snapshots.length = w.snapshots ∧
      v.snapshots[w.snapshots.length]? = some w.shot := by
  intro v
  have hfloor : w.snapshots.length + 1 ≤ w.snapshot.2.snapshots.length := by simp [World.snapshot]
  have hm : Moves anything (w.snapshots.length + 1) w.snapshot.2 v :=
    runSteps_moves steps hown hfloor
  have htake : v.snapshots.take (w.snapshots.length + 1) = w.snapshots ++ [w.shot] := by
    rw [(hm.below hfloor).2]
    exact List.take_of_length_le (Nat.le_of_eq List.length_append)
  have hl : w.snapshot.2.objects.length ≤ v.objects.length := Moves.objects hm
  refine ⟨hl, ?_, ?_⟩
  · calc v.snapshots.take w.snapshots.length
        = (v.snapshots.take (w.snapshots.length + 1)).take w.snapshots.length := by
          rw [List.take_take, Nat.min_eq_left (Nat.le_succ _)]
      _ = w.snapshots := by rw [htake, List.take_left]
  · calc v.snapshots[w.snapshots.length]?
        = (v.snapshots.take (w.snapshots.length + 1))[w.snapshots.length]? :=
          (List.getElem?_take_of_lt (Nat.lt_succ_self _)).symm
      _ = some w.shot := by rw [htake, List.getElem?_concat_length]

theorem transaction_run (steps : List Step) (w : World) :
    (Step.transaction steps).run w =
      (runSteps steps w.snapshot.2).2.settle w.snapshots.length
        ((runSteps steps w.snapshot.2).1.map Answer.block) := by
  unfold Step.run
  rw [atomically_run, bind_run]
  rcases runSteps steps w.snapshot.2 with ⟨_ | answers, v⟩ <;> rfl

/-- A block of steps that brings back only its own snapshots is undone as a whole by a refusal,
which goes on to the caller, and kept as a whole by success. Either way the snapshots from before it
are those after it. -/
theorem transaction_all_or_nothing {steps : List Step}
    (hclosed : ∀ ref ∈ w.registered.values, ∀ c ∈ (w.content ref).controller?,
      w.isRegistered c = true)
    (hown : AllSpare (w.snapshots.length + 1) steps) :
    (∀ reason v, runSteps steps w.snapshot.2 = (.error (.revert reason), v) →
      ∃ u, (Step.transaction steps).run w = (.error (.revert reason), u) ∧
        u.registered = w.registered ∧
        (∀ ref ∈ w.registered.values, u.content ref = w.content ref) ∧ u.snapshots = w.snapshots) ∧
    ∀ answers v, runSteps steps w.snapshot.2 = (.ok answers, v) →
      (Step.transaction steps).run w =
        (.ok (.block answers), { v with snapshots := w.snapshots }) := by
  obtain ⟨hl,htake,hget⟩ := runSteps_below hown
  rw [transaction_run]
  constructor
  · intro reason v hv
    rw [hv] at hl htake hget
    refine ⟨{ v with snapshots := w.snapshots }.restore w.shot, ?_, ?_, ?_,
      World.snapshots_restore _ _⟩
    · rw [hv]
      simp only [Except.map]
      rw [World.settle_refusal, hget, htake]
    · rw [(World.restore_others _ _).1]
      rfl
    · intro ref hm
      exact World.content_restore_eq (World.strays_eq_nil hclosed) hm hl
  · intro answers v hv
    rw [hv] at htake ⊢
    simp only [Except.map]
    rw [World.settle_ok, htake]

/-- The block nests a transaction that is refused and a snapshot that it brings back, registers a
new contract and is refused in the end. -/
def Sample.nested : List Step :=
  [.operation .snapshot, .operation (.createToken "Reward" "RWD" 18),
    .operation (.mint 2 manager 5),
    .attempt [.transaction [.operation (.mint 2 manager 7),
      .operation (.addClaim 7 manager set pool "morpho")]],
    .operation (.revert 1), .operation (.setManager 8 manager set), .fail (.revert "stop")]

theorem transaction_all_or_nothing_nested :
    ∃ u, (Step.transaction Sample.nested).run Sample.world = (.error (.revert "stop"), u) ∧
      u.registered = Sample.world.registered ∧
      (∀ ref ∈ Sample.world.registered.values, u.content ref = Sample.world.content ref) ∧
      u.snapshots = Sample.world.snapshots := by
  have hclosed : ∀ ref ∈ Sample.world.registered.values,
      ∀ c ∈ (Sample.world.content ref).controller?, Sample.world.isRegistered c = true := by decide +kernel
  have hlength : Sample.world.snapshots.length = 0 := by decide +kernel
  have hown : AllSpare (Sample.world.snapshots.length + 1) Sample.nested := by
    rw [hlength]
    simp [Sample.nested, AllSpare, Step.Spares, Operation.Spares]
  exact (transaction_all_or_nothing hclosed hown).1 "stop" _ (eq_of_fault? (by decide +kernel))

end Basketry.Chain
