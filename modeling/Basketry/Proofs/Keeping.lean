import Basketry.Proofs.Runs

namespace Basketry.Chain

/-- What the action does at `w`, to its end or up to its fault, keeps what `inv` says. -/
def KeepsAt (inv : World → Prop) (a : Run α) (w : World) : Prop := inv w → inv (a w).2

variable {inv : World → Prop} {w v : World}

theorem Reads.keeps {a : Run α} (h : Reads a) : KeepsAt inv a w := by
  unfold KeepsAt
  rw [h.world w]
  exact id

theorem KeepsAt.bind {a : Run α} {f : α → Run β} (ha : KeepsAt inv a w)
    (hf : ∀ x v, a w = (.ok x, v) → KeepsAt inv (f x) v) : KeepsAt inv (a >>= f) w := by
  intro hw
  have hv := ha hw
  rw [bind_run]
  cases h : a w with
  | mk outcome v =>
    rw [h] at hv
    cases outcome with
    | error fault => exact hv
    | ok x => exact hf x v h hv

theorem KeepsAt.answer {a : Run α} (h : KeepsAt inv a w) (g : α → β) :
    KeepsAt inv (a >>= fun x => pure (g x)) w :=
  h.bind fun _ _ _ => (Reads.pure _).keeps

theorem KeepsAt.read {a : Run α} {f : α → Run β} (ha : Reads a)
    (hf : ∀ x, (a w).1 = .ok x → KeepsAt inv (f x) w) : KeepsAt inv (a >>= f) w := by
  refine ha.keeps.bind fun x v h => ?_
  obtain ⟨hx,rfl⟩ := ha.ok h
  exact hf x hx

theorem KeepsAt.ite {c : Prop} [Decidable c] {a b : Run α} (ha : c → KeepsAt inv a w)
    (hb : ¬ c → KeepsAt inv b w) : KeepsAt inv (if c then a else b) w := by
  split
  · exact ha ‹c›
  · exact hb ‹¬ c›

theorem KeepsAt.guard {c : Prop} [Decidable c] {fault : Fault} {f : β → Run α} {b : Run α}
    (hb : ¬ c → KeepsAt inv b w) : KeepsAt inv (if c then throw fault >>= f else b) w :=
  .ite (fun _ => (Reads.throw fault).keeps) hb

theorem KeepsAt.forM {xs : List α} {f : α → Run Unit} (hf : ∀ x ∈ xs, ∀ v, KeepsAt inv (f x) v) :
    KeepsAt inv (xs.forM f) w := by
  induction xs generalizing w with
  | nil => exact id
  | cons x xs ih => exact (hf x (by simp) w).bind fun _ _ _ => ih fun y hy => hf y (by simp [hy])

theorem KeepsAt.mapM {xs : List α} {f : α → Run β} (hf : ∀ x ∈ xs, ∀ v, KeepsAt inv (f x) v) :
    KeepsAt inv (xs.mapM f) w := by
  induction xs generalizing w with
  | nil => exact id
  | cons x xs ih =>
    rw [List.mapM_cons]
    exact (hf x (by simp) w).bind fun _ _ _ => (ih fun y hy => hf y (by simp [hy])).answer _

theorem MovesAt.keeps {p : Ref → Aspect → Prop} {a : Run α} (h : MovesAt p 0 a w)
    (hinv : ∀ v, Moves p 0 w v → inv w → inv v) : KeepsAt inv a w :=
  fun hw => hinv _ (h (Nat.zero_le _)) hw

section Deployment

/-- What is kept by everything that is done for a deployment. -/
structure Deploying (inv : World → Prop) : Prop where
  registry : ∀ {w}, KeepsAt inv createRegistry w
  controller : ∀ {w} registry, KeepsAt inv (createController registry) w
  token : ∀ {w} name symbol decimals, KeepsAt inv (createToken name symbol decimals) w
  account : ∀ {w}, KeepsAt inv drawAccount w
  mint : ∀ {w} token owner {amount}, 0 ≤ amount → KeepsAt inv (mint token (.text owner) amount) w

theorem ether_million : Units.ether (.int 1000000) = .ok 1000000000000000000000000 := rfl

theorem Deploying.deployFor (h : Deploying inv) (owner : String) :
    KeepsAt inv (deploy.deployFor owner) w := by
  unfold deploy.deployFor
  refine h.registry.bind fun registry _ _ => ?_
  refine (h.controller registry).bind fun controller _ _ => ?_
  refine (h.token _ _ _).bind fun weth _ _ => ?_
  refine (h.token _ _ _).bind fun usdc _ _ => ?_
  refine (h.token _ _ _).bind fun wbtc _ _ => ?_
  refine (h.token _ _ _).bind fun dai _ _ => ?_
  refine .read (.lift _) fun amount ha => ?_
  have hamount : 0 ≤ amount := by
    rw [ether_million] at ha
    cases ha
    decide
  exact KeepsAt.answer (.forM fun token _ _ => h.mint token owner hamount) _

theorem Deploying.deployed (h : Deploying inv) (accounts : Nat → Address) (owner : Option String)
    (hnew : inv { accounts }) : inv (World.deployed accounts owner).2 := by
  revert hnew
  change KeepsAt inv (deploy owner) { accounts }
  unfold deploy
  cases owner.filter (· ≠ "") with
  | some owner => exact .read (.pure owner) fun owner _ => h.deployFor owner
  | none => exact h.account.bind fun a _ _ => h.deployFor a.text

theorem World.deployed_moves (accounts : Nat → Address) (owner : Option String) :
    Moves anything 0 { accounts } (World.deployed accounts owner).2 := by
  have moved : ∀ {α : Type} {a : Run α} {w : World}, MovesAt anything 0 a w →
      KeepsAt (Moves anything 0 { accounts }) a w := fun h => h.keeps fun _ h hw => hw.trans h
  have hdeploying : Deploying (Moves anything 0 { accounts }) :=
    ⟨moved (create_moves fun a => .registry a), fun r => moved (createController_moves r),
      fun _ _ _ => moved (create_moves fun a => .token a _ _ _),
      moved fun _ => .single (.drawn _), fun _ _ _ _ => moved (mint_edits trivial _ _).moves⟩
  exact hdeploying.deployed accounts owner .refl

end Deployment

/-- What snapshots carry along: it holds again of every world that is brought back. -/
structure Carried (inv : World → Prop) : Prop where
  taken : ∀ {w}, inv w → inv w.snapshot.2
  restored : ∀ {w n s}, w.snapshots[n]? = some s → inv w →
    inv ({ w with snapshots := w.snapshots.take n }.restore s)
  dropped : ∀ {w} n, inv w → inv { w with snapshots := w.snapshots.take n }

theorem Carried.settled (hc : Carried inv) (outcome : Except Fault α) (id : Nat) (hw : inv w) :
    inv (w.settle id outcome).2 := by
  rcases World.outcome_cases outcome with ⟨x,rfl⟩ | ⟨reason,rfl⟩ | ⟨fault,rfl,hf⟩
  · rw [World.settle_ok]
    exact hc.dropped id hw
  · rw [World.settle_refusal]
    cases hs : w.snapshots[id]? with
    | none => exact hw
    | some s => exact hc.restored hs hw
  · rw [World.settle_fault hf]
    exact hw

theorem KeepsAt.atomically {b : Run α} (hc : Carried inv) (hb : KeepsAt inv b w.snapshot.2) :
    KeepsAt inv (atomically b) w := by
  intro hw
  rw [atomically_run]
  exact hc.settled _ _ (hb (hc.taken hw))

theorem KeepsAt.caught {a : Run α} {x : α} (ha : KeepsAt inv a w) :
    KeepsAt inv (tryCatch a fun _ => pure x) w := by
  intro hw
  have hv := ha hw
  rw [tryCatch_run]
  cases h : a w with
  | mk outcome v =>
    rw [h] at hv
    cases outcome with
    | ok y => exact hv
    | error fault => exact hv

section Histories
variable {ok : World → Operation → Prop}

mutual

/-- Every operation in the step is one that may run in the world in which it does. -/
def Step.Throughout (ok : World → Operation → Prop) (w : World) : Step → Prop
  | .operation o => ok w o
  | .fail _ => True
  | .attempt steps => AllThroughout ok w steps
  | .transaction steps => AllThroughout ok w.snapshot.2 steps

def AllThroughout (ok : World → Operation → Prop) (w : World) : List Step → Prop
  | [] => True
  | s :: ss => s.Throughout ok w ∧ ∀ answer v, s.run w = (.ok answer, v) → AllThroughout ok v ss

end

/-- A history goes on after a step that fails. -/
def World.Throughout (ok : World → Operation → Prop) (w : World) : List Step → Prop
  | [] => True
  | s :: history => s.Throughout ok w ∧ World.Throughout ok (s.run w).2 history

mutual

/-- By induction over the step and the blocks in it. -/
theorem Step.keeps (hc : Carried inv) (ho : ∀ w o, ok w o → KeepsAt inv o.run w) {w : World} :
    (s : Step) → s.Throughout ok w → KeepsAt inv s.run w
  | .operation o, h => ho w o h
  | .fail fault, _ => (Reads.throw fault).keeps
  | .attempt steps, h => ((runSteps_keeps hc ho steps h).answer _).caught
  | .transaction steps, h => .atomically hc ((runSteps_keeps hc ho steps h).answer _)

theorem runSteps_keeps (hc : Carried inv) (ho : ∀ w o, ok w o → KeepsAt inv o.run w) {w : World} :
    (ss : List Step) → AllThroughout ok w ss → KeepsAt inv (runSteps ss) w
  | [], _ => id
  | s :: ss, ⟨hs,hss⟩ => (s.keeps hc ho hs).bind fun answer v hv =>
    (runSteps_keeps hc ho ss (hss answer v hv)).answer _

end

theorem World.after_keeps (hc : Carried inv) (ho : ∀ w o, ok w o → KeepsAt inv o.run w)
    {history : List Step} (h : w.Throughout ok history) (hw : inv w) : inv (w.after history) := by
  induction history generalizing w with
  | nil => exact hw
  | cons s history ih => exact ih h.2 (s.keeps hc ho h.1 hw)

mutual

/-- Every operation in the step is allowed, whatever the world is. -/
def Step.Each (allowed : Operation → Prop) : Step → Prop
  | .operation o => allowed o
  | .fail _ => True
  | .attempt steps => AllEach allowed steps
  | .transaction steps => AllEach allowed steps

def AllEach (allowed : Operation → Prop) : List Step → Prop
  | [] => True
  | s :: ss => s.Each allowed ∧ AllEach allowed ss

end

variable {allowed : Operation → Prop}

mutual

theorem Step.Each.throughout {w : World} :
    (s : Step) → s.Each allowed → s.Throughout (fun _ => allowed) w
  | .operation _, h => h
  | .fail _, _ => trivial
  | .attempt steps, h => AllEach.throughout steps h
  | .transaction steps, h => AllEach.throughout steps h

theorem AllEach.throughout {w : World} :
    (ss : List Step) → AllEach allowed ss → AllThroughout (fun _ => allowed) w ss
  | [], _ => trivial
  | s :: ss, ⟨hs,hss⟩ => ⟨Step.Each.throughout s hs, fun _ _ _ => AllEach.throughout ss hss⟩

end

theorem World.throughout_of_each {history : List Step} (h : ∀ s ∈ history, s.Each allowed) :
    w.Throughout (fun _ => allowed) history := by
  induction history generalizing w with
  | nil => trivial
  | cons s history ih =>
    exact ⟨Step.Each.throughout s (h s (by simp)), ih fun t ht => h t (by simp [ht])⟩

mutual

theorem Step.each_of_all (h : ∀ o, allowed o) : (s : Step) → s.Each allowed
  | .operation o => h o
  | .fail _ => trivial
  | .attempt steps => allEach_of_all h steps
  | .transaction steps => allEach_of_all h steps

theorem allEach_of_all (h : ∀ o, allowed o) : (ss : List Step) → AllEach allowed ss
  | [] => trivial
  | s :: ss => ⟨s.each_of_all h, allEach_of_all h ss⟩

end

/-- What every operation keeps is kept by every history. -/
theorem World.after_always (hc : Carried inv) (ho : ∀ w (o : Operation), KeepsAt inv o.run w)
    (history : List Step) (hw : inv w) : inv (w.after history) :=
  World.after_keeps hc (fun w o _ => ho w o)
    (World.throughout_of_each fun s _ => s.each_of_all fun _ => trivial) hw

end Histories

end Basketry.Chain
