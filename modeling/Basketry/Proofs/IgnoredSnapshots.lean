import Basketry.Proofs.Blocks
import Basketry.Proofs.Parallel

namespace Basketry.Chain

variable {w v : World}

theorem ClaimSettings.likeness_eq : ClaimSettings.Likeness (· = ·) := by
  have outcomes : ∀ o : Except Fault ClaimSettings, Outcomes (· = ·) o o := by
    intro o
    cases o with
    | ok c => exact .ok rfl
    | error fault => exact .error fault
  refine ⟨fun h set => ?_, fun h _ _ _ => ?_, fun h _ _ _ => ?_, fun h _ => ?_, fun h _ _ => ?_⟩
  · subst h
    exact .refl set _
  all_goals subst h
  · exact outcomes _
  · exact outcomes _
  · exact outcomes _
  · rfl

/-- The same world with other snapshots. -/
def SameButSnapshots (snapshots : List Snapshot) (w v : World) : Prop :=
  v = { w with snapshots := snapshots }

theorem SameButSnapshots.tracks (snapshots : List Snapshot) :
    Tracks (· = ·) (SameButSnapshots snapshots) := by
  refine ⟨fun _ => rfl, fun h => ?_, fun h ref => ?_, fun h c c' hc ref => ?_⟩
  · rw [h]
  · rw [h]
    exact .same _
  · rw [h]
    cases hc with
    | same => rfl
    | settings m hm =>
      subst hm
      rfl

/-- An action that does not look at the snapshots and leaves them as they are. -/
def IgnoresSnapshots (a : Run α) : Prop := ∀ snapshots, Tracked (SameButSnapshots snapshots) a

theorem IgnoresSnapshots.run {a : Run α} (h : IgnoresSnapshots a) (w : World)
    (snapshots : List Snapshot) :
    a { w with snapshots := snapshots } = ((a w).1, { (a w).2 with snapshots := snapshots }) := by
  obtain ⟨hanswer,hworld⟩ := h snapshots w _ rfl
  exact Prod.ext hanswer hworld

theorem IgnoresSnapshots.snapshots {a : Run α} (h : IgnoresSnapshots a) (w : World) :
    (a w).2.snapshots = w.snapshots := by
  have hw := congrArg (fun r => r.2.snapshots) (h.run w w.snapshots)
  exact hw

theorem Reads.ignoresSnapshots {a : Run α} (h : Reads a) : IgnoresSnapshots a := by
  rintro snapshots w v rfl
  rw [h w snapshots, h.world w]
  exact ⟨rfl, rfl⟩

theorem IgnoresSnapshots.bind {a : Run α} {f : α → Run β} (ha : IgnoresSnapshots a)
    (hf : ∀ x, IgnoresSnapshots (f x)) : IgnoresSnapshots (a >>= f) :=
  fun snapshots => .bind (ha snapshots) fun x => hf x snapshots

theorem IgnoresSnapshots.mapM {xs : List α} {f : α → Run β} (hf : ∀ x, IgnoresSnapshots (f x)) :
    IgnoresSnapshots (xs.mapM f) :=
  fun snapshots => .mapM fun x => hf x snapshots

/-- To such an action it makes no difference to its answer that it runs as a block, and none at all
if it ends. -/
theorem IgnoresSnapshots.atomically {b : Run α} (h : IgnoresSnapshots b) (w : World) :
    (Chain.atomically b w).1 = (b w).1 ∧
      ∀ x v, b w = (.ok x, v) → Chain.atomically b w = (.ok x, v) := by
  have hrun : b w.snapshot.2 =
      ((b w).1, { (b w).2 with snapshots := w.snapshots ++ [w.shot] }) := h.run w _
  have hkept := h.snapshots w
  rw [atomically_run, hrun]
  generalize b w = result at hkept ⊢
  obtain ⟨outcome,v⟩ := result
  rcases World.outcome_cases outcome with ⟨x,rfl⟩ | ⟨reason,rfl⟩ | ⟨fault,rfl,hf⟩
  · rw [World.settle_ok, List.take_left]
    refine ⟨rfl, fun y u he => ?_⟩
    cases he
    simp only at hkept
    rw [← hkept]
  · rw [World.settle_refusal, List.getElem?_concat_length]
    exact ⟨rfl, fun y u he => by cases he⟩
  · rw [World.settle_fault hf]
    exact ⟨rfl, fun y u he => by cases he⟩

theorem IgnoresSnapshots.atomically_ok {b : Run α} (h : IgnoresSnapshots b)
    (hv : Chain.atomically b w = (.ok x, v)) :
    b w = (.ok x, v) := by
  obtain ⟨hanswer,hworld⟩ := h.atomically w
  rw [hv] at hanswer
  have hb : b w = (.ok x, (b w).2) := Prod.ext hanswer.symm rfl
  have he := (hworld x _ hb).symm.trans hv
  rw [hb, (Prod.mk.inj he).2]

section Settings
variable (module set : Ref) (pool : Value) (name : String) (pools : List Value)
  (names : List String)

theorem addOne_ignoresSnapshots : IgnoresSnapshots (addOne module set pool name) :=
  fun snapshots =>
    addOne_tracked (SameButSnapshots.tracks snapshots) ClaimSettings.likeness_eq module set pool name

theorem removeOne_ignoresSnapshots : IgnoresSnapshots (removeOne module set pool name) :=
  fun snapshots =>
    removeOne_tracked (SameButSnapshots.tracks snapshots) ClaimSettings.likeness_eq module set pool
      name

theorem addAll_ignoresSnapshots : IgnoresSnapshots (addAll module set pools names) :=
  fun snapshots =>
    addAll_tracked (SameButSnapshots.tracks snapshots) ClaimSettings.likeness_eq module set pools
      names

theorem removeAll_ignoresSnapshots : IgnoresSnapshots (removeAll module set pools names) :=
  fun snapshots =>
    removeAll_tracked (SameButSnapshots.tracks snapshots) ClaimSettings.likeness_eq module set pools
      names

theorem setAnyone_ignoresSnapshots (anyone : Bool) : IgnoresSnapshots (do
    let address ← setAddress set
    updateSettings module fun c => .ok (c.setAnyone address anyone)) := by
  intro snapshots
  refine .bind (setAddress_tracked (SameButSnapshots.tracks snapshots) set) fun a => ?_
  exact updateSettings_tracked (SameButSnapshots.tracks snapshots) module
    fun _ _ h => .ok (ClaimSettings.likeness_eq.anyone h a anyone)

theorem claimOne_ignoresSnapshots (data : Value) :
    IgnoresSnapshots (claimOne module set pool name data) :=
  fun snapshots =>
    claimOne_tracked (SameButSnapshots.tracks snapshots) ClaimSettings.likeness_eq module set pool data
      name

end Settings

end Basketry.Chain
