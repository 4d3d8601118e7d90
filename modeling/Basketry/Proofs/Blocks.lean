import Basketry.Proofs.Footprints
import Basketry.Proofs.Moves

namespace Basketry.Chain

variable {p : Ref → Aspect → Prop} {floor : Nat} {w v : World}

/-- What the action does at `w`, to its end or up to its fault, are moves above the floor. -/
def MovesAt (p : Ref → Aspect → Prop) (floor : Nat) (a : Run α) (w : World) : Prop :=
  floor ≤ w.snapshots.length → Moves p floor w (a w).2

theorem EditsAt.moves {a : Run α} (h : EditsAt p a w) : MovesAt p floor a w :=
  fun _ => Edits.moves h

theorem MovesAt.bind {a : Run α} {f : α → Run β} (ha : MovesAt p floor a w)
    (hf : ∀ x v, a w = (.ok x, v) → MovesAt p floor (f x) v) : MovesAt p floor (a >>= f) w := by
  intro hl
  have hm := ha hl
  rw [bind_run]
  cases h : a w with
  | mk outcome v =>
    rw [h] at hm
    cases outcome with
    | error fault => exact hm
    | ok x => exact hm.trans (hf x v h (hm.below hl).1)

theorem MovesAt.read {a : Run α} {f : α → Run β} (ha : Reads a)
    (hf : ∀ x, (a w).1 = .ok x → MovesAt p floor (f x) w) : MovesAt p floor (a >>= f) w := by
  refine ha.edits.moves.bind fun x v h => ?_
  obtain ⟨hx,rfl⟩ := ha.ok h
  exact hf x hx

theorem MovesAt.guard {c : Prop} [Decidable c] {fault : Fault} {f : α → Run β} {b : Run β}
    (hb : MovesAt p floor b w) : MovesAt p floor (if c then throw fault >>= f else b) w := by
  split
  · exact (Reads.throw fault).edits.moves
  · exact hb

namespace World

theorem release_ofNat (w : World) (n : Nat) :
    w.release n = { w with snapshots := w.snapshots.take n } := by
  have hn : ¬ (n : Int) < 0 := by omega
  simp [release, hn]

theorem revert_ofNat (w : World) (n : Nat) :
    w.revert n = match w.snapshots[n]? with
      | none => .error (.unknownSnapshot n)
      | some s => .ok ({ w with snapshots := w.snapshots.take n }.restore s) := by
  have hn : ¬ (n : Int) < 0 := by omega
  unfold revert
  rw [if_neg hn]
  rfl

theorem settle_ok (x : α) (id : Nat) (w : World) :
    w.settle id (.ok x) = (.ok x, { w with snapshots := w.snapshots.take id }) := by
  unfold settle
  rw [release_ofNat]

theorem settle_refusal (reason : String) (id : Nat) (w : World) :
    w.settle (α := α) id (.error (.revert reason)) = match w.snapshots[id]? with
      | none => (.error (.unknownSnapshot id), w)
      | some s =>
        (.error (.revert reason), { w with snapshots := w.snapshots.take id }.restore s) := by
  simp only [settle, revert_ofNat]
  cases w.snapshots[id]? <;> rfl

theorem settle_fault {fault : Fault} (hf : ∀ reason, fault ≠ .revert reason) (id : Nat)
    (w : World) : w.settle (α := α) id (.error fault) = (.error fault, w) := by
  unfold settle
  split
  · rename_i he
    cases he
  · rename_i he
    cases he
    exact absurd rfl (hf _)
  · rename_i he
    cases he
    rfl

/-- A block can end, be refused or break off. -/
theorem outcome_cases (outcome : Except Fault α) :
    (∃ x, outcome = .ok x) ∨ (∃ reason, outcome = .error (.revert reason)) ∨
      ∃ fault, outcome = .error fault ∧ ∀ reason, fault ≠ .revert reason := by
  cases outcome with
  | ok x => exact .inl ⟨x, rfl⟩
  | error fault =>
    by_cases hr : ∃ reason, fault = .revert reason
    · obtain ⟨reason,rfl⟩ := hr
      exact .inr (.inl ⟨reason, rfl⟩)
    · exact .inr (.inr ⟨fault, rfl, fun reason he => hr ⟨reason, he⟩⟩)

theorem settle_moves (outcome : Except Fault α) {id : Nat} (hid : floor ≤ id) :
    Moves p floor w (w.settle id outcome).2 := by
  rcases outcome_cases outcome with ⟨x,rfl⟩ | ⟨reason,rfl⟩ | ⟨fault,rfl,hf⟩
  · rw [settle_ok]
    exact .single (.dropped w hid)
  · rw [settle_refusal]
    cases hs : w.snapshots[id]? with
    | none => exact .refl
    | some s => exact .single (.restored hid hs)
  · rw [settle_fault hf]

end World

theorem atomically_run (b : Run α) (w : World) :
    atomically b w = (b w.snapshot.2).2.settle w.snapshots.length (b w.snapshot.2).1 := rfl

theorem atomically_ok {b : Run α} (h : atomically b w = (.ok x, v)) :
    ∃ u, b w.snapshot.2 = (.ok x, u) := by
  rw [atomically_run] at h
  rcases hb : b w.snapshot.2 with ⟨outcome,u⟩
  rw [hb] at h
  rcases World.outcome_cases outcome with ⟨y,rfl⟩ | ⟨reason,rfl⟩ | ⟨fault,rfl,hf⟩
  · cases h
    exact ⟨u, rfl⟩
  · rw [World.settle_refusal] at h
    split at h <;> cases h
  · rw [World.settle_fault hf] at h
    cases h

/-- Whatever a block does above the floor, so does the whole of it with its own snapshot. -/
theorem atomically_moves {b : Run α} (hb : MovesAt p floor b w.snapshot.2) :
    MovesAt p floor (atomically b) w := by
  intro hl
  have hs : floor ≤ w.snapshot.2.snapshots.length := by
    simp only [World.snapshot, List.length_append]
    omega
  have htaken : Moves p floor w w.snapshot.2 := .single (.taken w)
  have hended := htaken.trans (hb hs)
  rw [atomically_run]
  exact hended.trans (World.settle_moves _ hl)

/-- Which aspects of which objects an action may change, as the world is when it begins. -/
abbrev Footprint := World → Ref → Aspect → Prop

/-- A block that edits within its footprint. -/
def Block (f : Footprint) (a : Run α) : Prop :=
  ∃ b : Run α, a = atomically b ∧ ∀ w, EditsAt (f w) b w.snapshot.2

variable {f : Footprint} {a : Run α}

theorem Block.moves (h : Block f a) (w : World) : MovesAt (f w) floor a w := by
  obtain ⟨b,rfl,hb⟩ := h
  exact atomically_moves (hb w).moves

/-- What is made of the answer does not matter to the block. -/
theorem Block.map (h : Block f a) (g : α → β) : Block f (a >>= fun x => pure (g x)) := by
  obtain ⟨b,rfl,hb⟩ := h
  refine ⟨b >>= fun x => pure (g x), ?_, fun w => (hb w).answer g⟩
  funext w
  rw [bind_run, atomically_run, atomically_run, bind_run]
  rcases b w.snapshot.2 with ⟨outcome,v⟩
  rcases World.outcome_cases outcome with ⟨x,rfl⟩ | ⟨reason,rfl⟩ | ⟨fault,rfl,hf⟩
  · rfl
  · simp only [World.settle_refusal]
    cases v.snapshots[w.snapshots.length]? <;> rfl
  · simp only [World.settle_fault hf]

/-- A block that leaves the snapshots alone ends above its own: success drops it, a refusal brings it
back, and any other fault leaves it there. -/
theorem atomically_ends {b : Run α} {u : World} {outcome : Except Fault α}
    (hb : b w.snapshot.2 = (outcome, u)) (hs : u.snapshots = w.snapshots ++ [w.shot]) :
    (∃ x, atomically b w = (.ok x, { u with snapshots := w.snapshots })) ∨
      (∃ reason, atomically b w =
        (.error (.revert reason), { u with snapshots := w.snapshots }.restore w.shot)) ∨
      ∃ fault, (∀ reason, fault ≠ .revert reason) ∧ atomically b w = (.error fault, u) := by
  rw [atomically_run, hb]
  rcases World.outcome_cases outcome with ⟨x,rfl⟩ | ⟨reason,rfl⟩ | ⟨fault,rfl,hf⟩
  · left
    rw [World.settle_ok, hs, List.take_left]
    exact ⟨x, rfl⟩
  · right; left
    rw [World.settle_refusal, hs, List.getElem?_concat_length, List.take_left]
    exact ⟨reason, rfl⟩
  · right; right
    rw [World.settle_fault hf]
    exact ⟨fault, hf, rfl⟩

theorem Block.ends (h : Block f a) (w : World) : ∃ u, Edits (f w) w.snapshot.2 u ∧
    ((∃ x, a w = (.ok x, { u with snapshots := w.snapshots })) ∨
      (∃ reason,
        a w = (.error (.revert reason), { u with snapshots := w.snapshots }.restore w.shot)) ∨
      ∃ fault, (∀ reason, fault ≠ .revert reason) ∧ a w = (.error fault, u)) := by
  obtain ⟨b,rfl,hb⟩ := h
  exact ⟨_, hb w, atomically_ends rfl (Edits.snapshots (hb w))⟩

theorem Block.refused (h : Block f a) (ha : a w = (.error (.revert reason), v)) :
    ∃ u, Edits (f w) w.snapshot.2 u ∧ v = { u with snapshots := w.snapshots }.restore w.shot := by
  obtain ⟨u,hu,⟨y,hy⟩ | ⟨r,hr⟩ | ⟨fault,hn,hf⟩⟩ := h.ends w
  · rw [ha] at hy
    cases hy
  · rw [ha] at hr
    cases hr
    exact ⟨u, hu, rfl⟩
  · rw [ha] at hf
    cases hf
    exact absurd rfl (hn reason)

theorem Block.breaks (h : Block f a) (ha : a w = (.error fault, v))
    (hn : ∀ reason, fault ≠ .revert reason) : Edits (f w) w.snapshot.2 v := by
  obtain ⟨u,hu,⟨y,hy⟩ | ⟨r,hr⟩ | ⟨fault',_,hf⟩⟩ := h.ends w
  · rw [ha] at hy
    cases hy
  · rw [ha] at hr
    cases hr
    exact absurd rfl (hn r)
  · rw [ha] at hf
    cases hf
    exact hu

end Basketry.Chain
