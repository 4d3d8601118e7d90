import Basketry.Proofs.Initialized
import Basketry.Proofs.Transactions
import Basketry.Proofs.ViewsAgree

namespace Basketry.Chain

variable {p : Ref → Aspect → Prop} {u v w : World}

mutual

/-- Every operation that the step comes to is proper, and it succeeds or is refused. -/
def Step.Orderly : Step → World → Prop
  | .operation o, w => o.Proper w ∧ Settled (o.run w).1
  | .fail _, _ => True
  | .attempt steps, w => AllOrderly steps w
  | .transaction steps, w => AllOrderly steps w.snapshot.2

/-- The steps of a block, up to the first that fails. -/
def AllOrderly : List Step → World → Prop
  | [], _ => True
  | s :: ss, w => s.Orderly w ∧ ((∃ answer, (s.run w).1 = .ok answer) → AllOrderly ss (s.run w).2)

end

/-- A history goes on after a step that fails. -/
def World.Orderly : World → List Step → Prop
  | _, [] => True
  | w, s :: history => s.Orderly w ∧ (s.run w).2.Orderly history

/-- Everything stands in its place and modules keep things for sets that have them initialized only,
now and in every world of which there is a snapshot. -/
structure World.Sound (w : World) : Prop where
  placed : w.Placed
  bound : w.Bound
  /-- The worlds of which the snapshots are, the oldest first. -/
  past : ∃ past : List World, w.snapshots = past.map World.shot ∧ past.Pairwise World.Later ∧
    ∀ v ∈ past, v.Placed ∧ v.Bound ∧ v.Later w

namespace World

theorem Later.ago (h : w.Later v) (snapshots : List Snapshot) :
    ({ w with snapshots := snapshots } : World).Later v :=
  ⟨h.accounts, h.drawn, h.objects, h.address, h.found⟩

/-- What goes on with the same snapshots, or with the first few of them. -/
theorem Sound.next (h : w.Sound) (hv : v.Placed) (hb : v.Bound) (hl : w.Later v) {n : Nat}
    (hs : v.snapshots = w.snapshots.take n) : v.Sound := by
  obtain ⟨past,hpast,horder,hgood⟩ := h.past
  refine ⟨hv, hb, past.take n, ?_, horder.sublist (List.take_sublist n past), fun u hu => ?_⟩
  · rw [hs, hpast, List.map_take]
  · obtain ⟨hup,hub,hul⟩ := hgood u (List.mem_of_mem_take hu)
    exact ⟨hup, hub, hul.trans hl⟩

theorem Sound.taken (h : w.Sound) : w.snapshot.2.Sound := by
  obtain ⟨past,hpast,horder,hgood⟩ := h.past
  refine ⟨h.placed.snapshots _, h.bound.snapshots _, past ++ [w], ?_, ?_, fun u hu => ?_⟩
  · rw [List.map_append, ← hpast]
    rfl
  · refine List.pairwise_append.mpr ⟨horder, List.pairwise_singleton _ _, fun u hu x hx => ?_⟩
    rw [List.mem_singleton.mp hx]
    exact (hgood u hu).2.2
  · rcases List.mem_append.mp hu with hu | hu
    · obtain ⟨hup,hub,hul⟩ := hgood u hu
      exact ⟨hup, hub, hul.snapshots _⟩
    · rw [List.mem_singleton.mp hu]
      exact ⟨h.placed, h.bound, (Later.refl w).snapshots _⟩

theorem Sound.dropped (h : w.Sound) (n : Nat) :
    ({ w with snapshots := w.snapshots.take n } : World).Sound :=
  h.next (h.placed.snapshots _) (h.bound.snapshots _) ((Later.refl w).snapshots _) rfl

/-- A world that is brought back was sound, and it is later than all that are still to come back. -/
theorem Sound.restored (h : w.Sound) {n : Nat} {s : Snapshot} (hs : w.snapshots[n]? = some s) :
    ({ w with snapshots := w.snapshots.take n }.restore s).Sound := by
  obtain ⟨past,hpast,horder,hgood⟩ := h.past
  rw [hpast, List.getElem?_map] at hs
  obtain ⟨u,hu,rfl⟩ := Option.map_eq_some_iff.mp hs
  obtain ⟨hn,rfl⟩ := List.getElem?_eq_some_iff.mp hu
  obtain ⟨hup,hub,hul⟩ := hgood past[n] (List.getElem_mem hn)
  have hl : past[n].Later { w with snapshots := w.snapshots.take n } := hul.snapshots _
  refine ⟨.restored hup (h.placed.snapshots _) hl, hub.restored hup hl, past.take n, ?_,
    horder.sublist (List.take_sublist n past), fun x hx => ?_⟩
  · rw [snapshots_restore, hpast, List.map_take]
  · obtain ⟨hxp,hxb,_⟩ := hgood x (List.mem_of_mem_take hx)
    obtain ⟨i,hi,rfl⟩ := List.mem_take_iff_getElem.mp hx
    have hin : i < n := Nat.lt_of_lt_of_le hi (Nat.min_le_left _ _)
    have hil : i < past.length := Nat.lt_trans hin hn
    have hbefore : past[i].Later past[n] := List.pairwise_iff_getElem.mp horder i n hil hn hin
    exact ⟨hxp, hxb, hbefore.trans hl.restored⟩

theorem Sound.settled (h : w.Sound) (outcome : Except Fault α) (id : Nat) :
    (w.settle id outcome).2.Sound := by
  rcases outcome_cases outcome with ⟨x,rfl⟩ | ⟨reason,rfl⟩ | ⟨fault,rfl,hf⟩
  · rw [settle_ok]
    exact h.dropped id
  · rw [settle_refusal]
    cases hs : w.snapshots[id]? with
    | none => exact h
    | some s => exact h.restored hs
  · rw [settle_fault hf]
    exact h

end World

section Runs

/-- An operation takes one snapshot, drops the last few or leaves them. -/
theorem Effect.snapshots (h : Effect p w v) :
    v.snapshots = w.snapshots ++ [w.shot] ∨ ∃ n, v.snapshots = w.snapshots.take n := by
  obtain ⟨u,hd,he⟩ := h
  rw [he.snapshots]
  cases hd with
  | taken => exact .inl rfl
  | dropped n => exact .inr ⟨n, rfl⟩
  | _ => exact .inr ⟨w.snapshots.length, List.take_length.symm⟩

theorem Effect.sound (h : Effect p w v) (hw : w.Sound) (hv : v.Placed) (hb : v.Bound)
    (hl : w.Later v) : v.Sound := by
  rcases h.snapshots with hs | ⟨n,hs⟩
  · have htaken : w.snapshot.2.Later v := hl.ago _
    exact hw.taken.next hv hb htaken (hs.trans List.take_length.symm)
  · exact hw.next hv hb hl hs

theorem Operation.sound {o : Operation} (hp : o.Proper w) (hs : Settled (o.run w).1)
    (hf : (o.run w).2.Fresh) (hw : w.Sound) : (o.run w).2.Sound := by
  by_cases hr : ∃ id, o = .revert id
  · obtain ⟨id,rfl⟩ := hr
    have hrun : (Operation.run (.revert id) w).2 = (revertTo id w).2 := by
      change (done (revertTo id) w).2 = _
      rw [done, answer_run]
    rw [hrun]
    rcases revertTo_ends id w with hv | ⟨_,s,hs,hv⟩
    · rw [hv]
      exact hw
    · rw [hv]
      exact hw.restored hs
  · have hn : ∀ id, o ≠ .revert id := fun id h => hr ⟨id, h⟩
    obtain ⟨hplaced,hlater⟩ := Operation.keeps_placed hp hn hs hw.placed hf
    have hbound := Operation.bound hp hn hs hw.placed hf hw.bound
    rcases (o.effect hp hn).settled hs with h | ⟨u,hu,hv⟩
    · exact h.sound hw hplaced hbound hlater
    · refine hw.next hplaced hbound hlater (n := w.snapshots.length) ?_
      rw [hv, World.snapshots_restore, List.take_length]

/-- What was drawn fresh in the end was drawn fresh at any time before. -/
theorem Moves.fresh {floor : Nat} (h : Moves p floor w v) (hf : v.Fresh) : w.Fresh :=
  hf.before h.drawn.1 h.drawn.2

theorem attempt_world (steps : List Step) (w : World) :
    ((Step.attempt steps).run w).2 = (runSteps steps w).2 := by
  unfold Step.run
  rw [tryCatch_run, bind_run]
  rcases runSteps steps w with ⟨_ | answers, v⟩ <;> rfl

mutual

/-- By induction over the step and the blocks in it. Snapshots of blocks around it are part of the
stack, so that the same is shown of every block. -/
theorem Step.sound {w : World} : (s : Step) → s.Orderly w → (s.run w).2.Fresh → w.Sound →
    (s.run w).2.Sound
  | .operation _, ⟨hp,hs⟩, hf, hw => Operation.sound hp hs hf hw
  | .fail _, _, _, hw => hw
  | .attempt steps, h, hf, hw => by
    rw [attempt_world] at hf ⊢
    exact runSteps_sound steps h hf hw
  | .transaction steps, h, hf, hw => by
    rw [transaction_run] at hf ⊢
    generalize (runSteps steps w.snapshot.2).1.map Answer.block = outcome at hf ⊢
    have hended : Moves anything 0 (runSteps steps w.snapshot.2).2 _ :=
      World.settle_moves outcome (Nat.zero_le w.snapshots.length)
    have hsound := runSteps_sound steps h (hended.fresh hf) hw.taken
    exact hsound.settled outcome w.snapshots.length

theorem runSteps_sound {w : World} : (ss : List Step) → AllOrderly ss w →
    (runSteps ss w).2.Fresh → w.Sound → (runSteps ss w).2.Sound
  | [], _, _, hw => hw
  | s :: ss, ⟨hs,hss⟩, hf, hw => by
    rw [runSteps_cons, bind_run] at hf ⊢
    have hfirst := s.sound hs
    cases hone : s.run w with
    | mk outcome v =>
      rw [hone] at hf hfirst
      cases outcome with
      | error fault => exact hfirst hf hw
      | ok answer =>
        simp only [answer_run] at hf ⊢
        have hnext := hss ⟨answer, by rw [hone]⟩
        rw [hone] at hnext
        have hrest : Moves anything 0 v (runSteps ss v).2 :=
          runSteps_moves ss (allSpare_zero ss) (Nat.zero_le _)
        exact runSteps_sound ss hnext hf (hfirst (hrest.fresh hf) hw)

end

theorem World.Sound.after {history : List Step} (hw : w.Sound) (h : w.Orderly history)
    (hf : (w.after history).Fresh) : (w.after history).Sound := by
  induction history generalizing w with
  | nil => exact hw
  | cons s history ih =>
    obtain ⟨hs,hrest⟩ := h
    have hmoves := (s.run w).2.after_moves history
    exact ih (s.sound hs (hmoves.fresh hf) hw) hrest hf

/-- Effects that have nothing to do with sets or with settings. -/
theorem World.Sound.effects (h : Effects (fun _ k => k = .ledger) w v) (hf : v.Fresh)
    (hw : w.Sound) : v.Sound := by
  induction h with
  | refl => exact hw
  | tail _ he ih =>
    have hu := ih (he.fresh hf)
    obtain ⟨hplaced,hlater⟩ := he.keeps_placed (fun _ _ h => by cases h) hu.placed hf
    have hbound := he.bound hu.placed hf hu.bound (fun _ _ h => by cases h)
      fun _ h => by rcases h with h | h <;> cases h
    exact he.sound hu hplaced hbound hlater

theorem World.deployed_sound (accounts : Nat → Address) (owner : Option String)
    (hf : (World.deployed accounts owner).2.Fresh) : (World.deployed accounts owner).2.Sound := by
  have hnew : World.Sound { accounts } := by
    refine ⟨.new accounts, fun module m set s hp => ?_, [], rfl, .nil, nofun⟩
    obtain ⟨a,ha⟩ := hp.moduleStands
    cases ha
  have heffects : Effects (fun _ k => k = .ledger) { accounts } _ :=
    World.deployed_effects (p := fun _ k => k = .ledger) (fun _ => rfl) accounts owner
  exact hnew.effects heffects hf

theorem World.orderly_append {history rest : List Step} :
    w.Orderly (history ++ rest) ↔ w.Orderly history ∧ (w.after history).Orderly rest := by
  induction history generalizing w with
  | nil => exact ⟨fun h => ⟨trivial, h⟩, fun h => h.2⟩
  | cons s history ih =>
    simp only [List.cons_append, Orderly, ih, and_assoc]
    rfl

theorem Sample.history_orderly :
    (World.deployed Sample.account (some Sample.owner)).2.Orderly Sample.history := by
  let start := (World.deployed Sample.account (some Sample.owner)).2
  have hfree : ∀ a, Address.ofValue (Sample.account 50).toValue = .ok a →
      (start.after (Sample.history.take 1)).find a = none := by
    intro a ha
    cases (Address.ofValue_toValue (Sample.account 50)).symm.trans ha
    decide +kernel
  exact ⟨⟨trivial, by decide +kernel⟩,
    ⟨⟨⟨⟨Sample.account 90⟩, by decide +kernel⟩, hfree⟩, by decide +kernel⟩,
    ⟨trivial, by decide +kernel⟩, ⟨trivial, by decide +kernel⟩, ⟨trivial, by decide +kernel⟩,
    ⟨trivial, by decide +kernel⟩, ⟨trivial, by decide +kernel⟩, trivial⟩

end Runs

/-- After any history of a deployment whose steps succeed or are refused, a module that lists a pool
for a set, or lets anyone claim for it, is initialized on that set. -/
theorem initialized_where_anything_is_kept (accounts : Nat → Address) (owner : Option String)
    (history : List Step) (module set : Ref) (m : ClaimModule) (s : SetToken) :
    let start := (World.deployed accounts owner).2
    let w := start.after history
    start.Orderly history → w.Fresh → w.Pair module m set s →
    ∀ name given, name = .object set ∨ Address.ofValue name = .ok s.address →
      Address.ofValue given = .ok m.address →
      ∃ pools anyone state, rewardPools module name w = (.ok pools, w) ∧
        anyoneMayClaim module name w = (.ok anyone, w) ∧
        moduleState set given w = (.ok state, w) ∧
        (pools ≠ [] ∨ anyone = true → state = .initialized) := by
  intro start w horderly hfresh hpair name given hname hgiven
  have hstart : start.Fresh := (start.after_moves history).fresh hfresh
  have hsound : w.Sound := (World.deployed_sound accounts owner hstart).after horderly hfresh
  have hheld : Held m s := hsound.bound module m set s hpair
  have haddress := addressOf_run hpair.isSet hname
  refine ⟨_, _, _, rewardPools_run hpair.isModule haddress,
    anyoneMayClaim_run hpair.isModule haddress, moduleState_run hpair.isSet hgiven, fun h => ?_⟩
  rcases hheld with ⟨hpools,hanyone⟩ | hstate
  · rcases h with h | h
    · exact absurd hpools h
    · rw [hanyone] at h
      cases h
  · exact hstate

/-- A module is taken off a set and taken in again, a block that initializes it is refused as a whole,
and a snapshot brings the module back. -/
def Sample.broughtBack : List Step :=
  history ++ [.operation .snapshot,
    .operation (.removeModule 8 manager (account 6).toValue),
    .operation (.addModule 8 manager (account 6).toValue),
    .attempt [.transaction [.operation (.activate 7 manager set true [pool] ["morpho"]),
      .fail (.revert "stop")]],
    .operation (.activate 7 manager set true [pool] ["other"]),
    .operation (.revert 0), .operation (.updateAnyoneClaim 7 manager set true)]

def Sample.openModule : ClaimModule :=
  ⟨account 6, 1,
    { pools := ⟨[(account 7, [account 2])]⟩
      poolFlags := ⟨[(account 7, ⟨[(account 2, true)]⟩)]⟩
      adapters := ⟨[(account 7, ⟨[(account 2, [account 50])]⟩)]⟩
      adapterFlags := ⟨[(account 7, ⟨[(account 2, ⟨[(account 50, true)]⟩)]⟩)]⟩
      anyone := ⟨[(account 7, true)]⟩ }, []⟩

theorem initialized_where_anything_is_kept_brought_back :
    let start := (World.deployed Sample.account (some Sample.owner)).2
    let w := start.after Sample.broughtBack
    start.Orderly Sample.broughtBack ∧ w.Fresh ∧ w.Pair 7 Sample.openModule 8 Sample.activeSet ∧
      ∃ pools anyone state, rewardPools 7 Sample.set w = (.ok pools, w) ∧
        anyoneMayClaim 7 Sample.set w = (.ok anyone, w) ∧
        moduleState 8 (Sample.account 6).toValue w = (.ok state, w) ∧
        (pools ≠ [] ∨ anyone = true → state = .initialized) := by
  intro start w
  have horderly : start.Orderly Sample.broughtBack := by
    refine World.orderly_append.mpr ⟨Sample.history_orderly, ?_⟩
    exact ⟨⟨trivial, by decide +kernel⟩, ⟨trivial, by decide +kernel⟩,
      ⟨trivial, by decide +kernel⟩,
      ⟨⟨⟨trivial, by decide +kernel⟩, fun _ => ⟨trivial, fun _ => trivial⟩⟩, fun _ => trivial⟩,
      ⟨trivial, by decide +kernel⟩, ⟨trivial, by decide +kernel⟩, ⟨trivial, by decide +kernel⟩,
      trivial⟩
  have hfresh : w.Fresh := by decide +kernel
  have hpair : w.Pair 7 Sample.openModule 8 Sample.activeSet :=
    ⟨⟨Sample.account 6, by decide +kernel⟩, by decide +kernel,
      ⟨Sample.account 7, by decide +kernel⟩, by decide +kernel⟩
  exact ⟨horderly, hfresh, hpair, initialized_where_anything_is_kept Sample.account
    (some Sample.owner) Sample.broughtBack 7 8 Sample.openModule Sample.activeSet horderly hfresh
    hpair Sample.set _ (.inr (Address.ofValue_toValue _)) (Address.ofValue_toValue _)⟩

end Basketry.Chain
