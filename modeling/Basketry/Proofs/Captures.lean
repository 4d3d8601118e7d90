import Basketry.Proofs.OrderlyHistories

namespace Basketry.Chain

variable {p : Ref → Aspect → Prop} {w v : World} {earlier : List World}

section Taking

/-- The module that a set is about to take off, if nothing keeps it from that. -/
def dismissed (set : Ref) (caller module : Value) : Run Ref := do
  onlyManager set caller
  if (← moduleState set module) ≠ .initialized then throw (.revert "Module must be added")
  match ← find module with
  | none => throw .missingAttribute
  | some ref =>
    match ← content ref with
    | .claimModule _ => return ref
    | .setToken _ | .setDraft _ => throw .wrongType
    | _ => throw .missingAttribute

/-- The worlds of which an operation takes a snapshot. A set that takes a module off has the module
forget it, in a block of its own. -/
def Operation.captures (w : World) : Operation → List World
  | .snapshot | .activate .. | .updateAnyoneClaim .. | .addClaim .. | .batchAddClaim ..
  | .removeClaim .. | .batchRemoveClaim .. | .forgetSet .. | .claim .. | .batchClaim .. => [w]
  | .removeModule set caller module =>
    match (dismissed set caller module w).1 with
    | .ok _ => [w]
    | .error _ => []
  | _ => []

mutual

/-- A block takes a snapshot before its first step. -/
def Step.captures (w : World) : Step → List World
  | .operation o => o.captures w
  | .fail _ => []
  | .attempt steps => blockCaptures w steps
  | .transaction steps => w :: blockCaptures w.snapshot.2 steps

def blockCaptures (w : World) : List Step → List World
  | [] => []
  | s :: ss => s.captures w ++ match s.run w with
    | (.ok _, v) => blockCaptures v ss
    | (.error _, _) => []

end

/-- The worlds of which a history takes snapshots, in order. -/
def World.captures (w : World) : List Step → List World
  | [] => []
  | s :: history => s.captures w ++ (s.run w).2.captures history

/-- The last of these worlds whose snapshot has got the number. -/
def lastUnder (id : Nat) (captures : List World) : Option World :=
  (captures.filter (·.snapshot.1 = id)).getLast?

/-- Every live snapshot is the last one that was taken under its number, of a world whose objects
are all still there, and below it lie the snapshots that were live then. -/
def World.Filed (captures : List World) (w : World) : Prop :=
  ∀ id < w.snapshots.length, ∃ u, lastUnder id captures = some u ∧
    w.snapshots[id]? = some u.shot ∧ w.snapshots.take id = u.snapshots ∧
    u.objects.length ≤ w.objects.length

end Taking

theorem lastUnder_append (id : Nat) (earlier : List World) (w : World) :
    lastUnder id (earlier ++ [w]) =
      if w.snapshots.length = id then some w else lastUnder id earlier := by
  have hnumber : w.snapshot.1 = w.snapshots.length := rfl
  unfold lastUnder
  rw [List.filter_append]
  by_cases hw : w.snapshots.length = id <;> simp [hnumber, hw]

theorem World.Filed.truncated {n : Nat} (h : w.Filed earlier)
    (hs : v.snapshots = w.snapshots.take n) (hl : w.objects.length ≤ v.objects.length) :
    v.Filed earlier := by
  intro id hid
  rw [hs, List.length_take] at hid
  have hn : id < n := Nat.lt_of_lt_of_le hid (Nat.min_le_left _ _)
  obtain ⟨u,hu,hget,hbelow,hobjects⟩ := h id (Nat.lt_of_lt_of_le hid (Nat.min_le_right _ _))
  refine ⟨u, hu, ?_, ?_, Nat.le_trans hobjects hl⟩
  · rw [hs, List.getElem?_take_of_lt hn, hget]
  · rw [hs, List.take_take, Nat.min_eq_left (Nat.le_of_lt hn), hbelow]

theorem World.Filed.same (h : w.Filed earlier) (hs : v.snapshots = w.snapshots)
    (hl : w.objects.length ≤ v.objects.length) : v.Filed earlier :=
  h.truncated (hs.trans List.take_length.symm) hl

/-- The new snapshot gets a number that none of the live ones has. -/
theorem World.Filed.taken (h : w.Filed earlier) : w.snapshot.2.Filed (earlier ++ [w]) := by
  intro id hid
  change id < (w.snapshots ++ [w.shot]).length at hid
  change ∃ u, _ ∧ (w.snapshots ++ [w.shot])[id]? = _ ∧ (w.snapshots ++ [w.shot]).take id = _ ∧
    _ ≤ w.objects.length
  rw [List.length_append, List.length_singleton] at hid
  rw [lastUnder_append]
  split
  · rename_i hlast
    subst hlast
    exact ⟨w, rfl, List.getElem?_concat_length, List.take_left, Nat.le_refl _⟩
  · have hid : id < w.snapshots.length := by omega
    rw [List.getElem?_append_left hid, List.take_append_of_le_length (Nat.le_of_lt hid)]
    exact h id hid

theorem World.Filed.restored (h : w.Filed earlier) (n : Nat) (s : Snapshot) :
    ({ w with snapshots := w.snapshots.take n }.restore s).Filed earlier := by
  refine h.truncated (World.snapshots_restore _ s) ?_
  rw [(World.restore_others _ s).2]
  exact Nat.le_add_right _ _

/-- The end of a block may only drop snapshots. -/
theorem World.Filed.settled (h : w.Filed earlier) (outcome : Except Fault α) (id : Nat) :
    (w.settle id outcome).2.Filed earlier := by
  rcases World.outcome_cases outcome with ⟨x,rfl⟩ | ⟨reason,rfl⟩ | ⟨fault,rfl,hf⟩
  · rw [World.settle_ok]
    exact h.truncated rfl (Nat.le_refl _)
  · rw [World.settle_refusal]
    cases w.snapshots[id]? with
    | none => exact h
    | some s => exact h.restored id s
  · rw [World.settle_fault hf]
    exact h

section Operations

theorem EditsAt.files {a : Run α} (h : EditsAt p a w) : KeepsAt (World.Filed earlier) a w :=
  fun hw => hw.same (Edits.snapshots h) (Nat.le_of_eq (Edits.others h).2.symm)

theorem create_files (make : Address → Contract) :
    KeepsAt (World.Filed earlier) (create make) w :=
  fun hw => hw.same rfl (Nat.le.intro List.length_append.symm)

theorem createSet_files (controller : Ref) (order : SetOrder) :
    KeepsAt (World.Filed earlier) (createSet controller order) w := by
  refine .guard fun _ => (create_files _).bind fun ref v hv => ?_
  obtain ⟨a,ha⟩ := content_create (fun a => .setDraft ⟨a, controller, none⟩) w
  cases hv
  exact (furnish_edits (p := anything) order ha trivial trivial).files

theorem createEnabledSet_files (controller : Ref) (order : SetOrder) :
    KeepsAt (World.Filed earlier) (createEnabledSet controller order) w := by
  refine (createSet_files controller order).bind fun ref v _ => EditsAt.files (p := anything) ?_
  refine .read (setAddress_reads ref) fun a _ => ?_
  refine .read (controllerAt_reads controller) fun c hc => ?_
  refine .read (.lift _) fun c' h => ?_
  refine EditsAt.answer (setContent_edits (k := .listing) trivial ?_) _
  rw [controllerAt_ok hc]
  exact .listing (.setAdded h)

theorem register_files (ref : Ref) (given : Value) :
    KeepsAt (World.Filed earlier) (register ref given) w := by
  have placed : ∀ a : Address,
      KeepsAt (World.Filed earlier) (do modify (·.register a ref); return a) w :=
    fun a hw => hw.same rfl (Nat.le_refl _)
  unfold register
  split
  · refine .read (content_reads ref) fun c _ => ?_
    cases c.address? with
    | none => exact (Reads.throw _).keeps
    | some own => exact .read (.pure own) fun a _ => placed a
  · exact .read (.lift _) fun a _ => placed a

theorem revertTo_files (id : Int) : KeepsAt (World.Filed earlier) (revertTo id) w := by
  intro hw
  rcases revertTo_ends id w with hv | ⟨_,s,_,hv⟩
  · rwa [hv]
  · rw [hv]
    exact hw.restored id.toNat s

/-- The snapshot of a block is on file while the block runs. -/
theorem atomically_files {b : Run α}
    (hb : KeepsAt (World.Filed (earlier ++ [w])) b w.snapshot.2) (hw : w.Filed earlier) :
    (atomically b w).2.Filed (earlier ++ [w]) := by
  rw [atomically_run]
  exact (hb hw.taken).settled _ _

theorem Block.files {f : Footprint} {a : Run α} (h : Block f a) (hw : w.Filed earlier) :
    (a w).2.Filed (earlier ++ [w]) := by
  obtain ⟨b,rfl,hb⟩ := h
  exact atomically_files (hb w).files hw

theorem dismissed_reads (set : Ref) (caller module : Value) :
    Reads (dismissed set caller module) := by
  refine .bind (onlyManager_reads set caller) fun _ => ?_
  refine .bind (moduleState_reads set module) fun _ => .guard ?_
  refine .byFound (find_reads module) (fun m => .byContent m fun c => ?_) (.throw _)
  cases c <;> first | exact .pure _ | exact .throw _

/-- The set is judged first, then the module forgets it, and last it the module. -/
theorem removeModule_eq (set : Ref) (caller module : Value) :
    removeModule set caller module = (do
      let m ← dismissed set caller module
      forgetSet m (.object set)
      setContent set (.setToken
        ((← setAt set).setModuleState (← Address.ofValue module) .none))) := by
  unfold removeModule dismissed
  simp only [bind_assoc]
  congr 1
  funext _
  congr 1
  funext state
  split
  · rfl
  · simp only [bind_assoc]
    congr 1
    funext found
    cases found with
    | none => rfl
    | some m =>
      simp only [bind_assoc]
      congr 1
      funext c
      cases c <;> rfl

theorem removeModule_files (set : Ref) (caller module : Value) (hw : w.Filed earlier) :
    (removeModule set caller module w).2.Filed
      (earlier ++ (Operation.removeModule set caller module).captures w) := by
  rw [removeModule_eq, bind_run, (dismissed_reads set caller module).run w]
  simp only [Operation.captures]
  cases (dismissed set caller module w).1 with
  | error fault => simpa using hw
  | ok m =>
    have hforgotten : (forgetSet m (.object set) w).2.Filed (earlier ++ [w]) :=
      forgetSet_block.files hw
    have hset : ∀ v, KeepsAt (World.Filed (earlier ++ [w])) (do
        setContent set (.setToken
          ((← setAt set).setModuleState (← Address.ofValue module) .none))) v :=
      fun v => (setState_edits (p := anything) module trivial .none).files
    dsimp only
    rw [bind_run]
    cases hrun : forgetSet m (.object set) w with
    | mk outcome v =>
      rw [hrun] at hforgotten
      cases outcome with
      | error fault => exact hforgotten
      | ok _ => exact hset v hforgotten

theorem Operation.files (o : Operation) (hw : w.Filed earlier) :
    (o.run w).2.Filed (earlier ++ o.captures w) := by
  have nothing : ∀ {a : Run Answer}, KeepsAt (World.Filed earlier) a w →
      (a w).2.Filed (earlier ++ []) := fun h => (List.append_nil earlier).symm ▸ h hw
  cases o with
  | snapshot => exact hw.taken
  | revert id => exact nothing ((revertTo_files id).answer _)
  | release id => exact nothing fun hw => hw.truncated rfl (Nat.le_refl _)
  | register ref given => exact nothing ((register_files ref given).answer _)
  | createRegistry => exact nothing ((create_files _).answer _)
  | createController registry =>
    exact nothing (KeepsAt.answer (.read (registryAt_reads registry) fun _ _ => create_files _) _)
  | createToken name symbol decimals => exact nothing ((create_files _).answer _)
  | createClaimAdapter => exact nothing ((create_files _).answer _)
  | createClaimModule controller => exact nothing ((create_files _).answer _)
  | createMorphoAdapter distributor =>
    exact nothing (KeepsAt.answer (.read (.lift _) fun _ _ hw =>
      hw.same rfl (Nat.le.intro List.length_append.symm)) _)
  | createSet controller order => exact nothing ((createSet_files controller order).answer _)
  | createEnabledSet controller order =>
    exact nothing ((createEnabledSet_files controller order).answer _)
  | removeModule set caller module =>
    change (done _ w).2.Filed _
    rw [done, answer_run]
    exact removeModule_files set caller module hw
  | activate | updateAnyoneClaim | addClaim | batchAddClaim | removeClaim | batchRemoveClaim
  | forgetSet | claim | batchClaim => exact Block.files (Operation.block (by trivial)) hw
  | _ => exact nothing (Operation.run_edits (by trivial)).files

end Operations

mutual

/-- By induction over the step and the blocks in it, with what was taken before it. -/
theorem Step.files {earlier : List World} {w : World} : (s : Step) → w.Filed earlier →
    (s.run w).2.Filed (earlier ++ s.captures w)
  | .operation o, hw => o.files hw
  | .fail _, hw => (List.append_nil earlier).symm ▸ hw
  | .attempt steps, hw => by
    rw [attempt_world]
    exact runSteps_files steps hw
  | .transaction steps, hw => by
    have hinner := runSteps_files steps hw.taken
    rw [List.append_assoc] at hinner
    rw [transaction_run]
    exact hinner.settled _ _

theorem runSteps_files {earlier : List World} {w : World} : (ss : List Step) →
    w.Filed earlier → (runSteps ss w).2.Filed (earlier ++ blockCaptures w ss)
  | [], hw => (List.append_nil earlier).symm ▸ hw
  | s :: ss, hw => by
    have hfirst := s.files hw
    rw [runSteps_cons, bind_run, blockCaptures]
    cases hone : s.run w with
    | mk outcome v =>
      rw [hone] at hfirst
      cases outcome with
      | error fault =>
        simp only [List.append_nil]
        exact hfirst
      | ok answer =>
        simp only [answer_run, ← List.append_assoc]
        exact runSteps_files ss hfirst

end

theorem World.Filed.after (hw : w.Filed earlier) (history : List Step) :
    (w.after history).Filed (earlier ++ w.captures history) := by
  induction history generalizing w earlier with
  | nil => exact (List.append_nil earlier).symm ▸ hw
  | cons s history ih =>
    rw [captures, ← List.append_assoc]
    exact ih (s.files hw)

/-- The same addresses, and the same content at each of them. -/
structure World.StandsAs (v u : World) : Prop where
  registered : v.registered = u.registered
  contents : ∀ ref ∈ u.registered.values, v.content ref = u.content ref

/-- Every controller in use stands at an address. -/
abbrev World.Closed (w : World) : Prop :=
  ∀ ref ∈ w.registered.values, ∀ c ∈ (w.content ref).controller?, w.isRegistered c = true

theorem revert_run (id : Int) (w : World) :
    (Operation.revert id).run w = match w.revert id with
      | .ok v => (.ok .nothing, v)
      | .error fault => (.error fault, w) := by
  change done (revertTo id) w = _
  have hread : revertTo id w = ((liftM (w.revert id) : Run World) >>= fun v => set v) w := rfl
  unfold done
  rw [answer_run, hread]
  cases w.revert id <;> rfl

/-- A live snapshot brings back the world that it is on file for. -/
theorem World.Filed.revert (h : w.Filed earlier) (hclosed : ∀ u ∈ earlier, u.Closed) {id : Nat}
    (hid : id < w.snapshots.length) :
    ∃ u x, lastUnder id earlier = some u ∧ (Operation.revert id).run w = (.ok .nothing, x) ∧
      x.StandsAs u ∧ x.snapshots = w.snapshots.take id ∧ x.Filed earlier := by
  obtain ⟨u,hu,hget,_,hobjects⟩ := h id hid
  have hmem : u ∈ earlier := List.mem_of_mem_filter (List.mem_of_getLast? hu)
  have hsame := World.sameState_restore (v := { w with snapshots := w.snapshots.take id }) hobjects
  refine ⟨u, _, hu, ?_, ⟨hsame.registered, fun ref hm => ?_⟩, World.snapshots_restore _ _,
    h.restored id u.shot⟩
  · rw [revert_run, World.revert_ofNat, hget]
  · exact World.content_restore_eq (World.strays_eq_nil (hclosed u hmem)) hm hobjects

/-- After any history, the number of a live snapshot brings back the addresses and the contents of
the world of which a snapshot was last taken under it. The snapshots with lower numbers stay live, and
each of them brings back its own world. Any other number is refused, and nothing changes. -/
theorem snapshots_bring_back_their_worlds {history : List Step} (hnew : w.snapshots = [])
    (hclosed : ∀ u ∈ w.captures history, u.Closed) (id : Int) :
    let v := w.after history
    (¬ (0 ≤ id ∧ id < v.snapshots.length) →
      (Operation.revert id).run v = (.error (.unknownSnapshot id), v)) ∧
    (0 ≤ id ∧ id < v.snapshots.length →
      ∃ u x, lastUnder id.toNat (w.captures history) = some u ∧
        (Operation.revert id).run v = (.ok .nothing, x) ∧ x.StandsAs u ∧
        x.snapshots = v.snapshots.take id.toNat ∧
        ∀ lower < id.toNat, ∃ u' x', lastUnder lower (w.captures history) = some u' ∧
          (Operation.revert lower).run x = (.ok .nothing, x') ∧ x'.StandsAs u') := by
  intro v
  have hfiled : v.Filed (w.captures history) := by
    have hstart : w.Filed [] := fun i hi => by simp [hnew] at hi
    exact hstart.after history
  constructor
  · intro hid
    have hunknown : v.revert id = .error (.unknownSnapshot id) := by
      unfold World.revert
      split
      · rfl
      · rw [List.getElem?_eq_none (by omega)]
    rw [revert_run, hunknown]
  · rintro ⟨hid,hlive⟩
    obtain ⟨n,rfl⟩ := Int.eq_ofNat_of_zero_le hid
    have hn : n < v.snapshots.length := Int.ofNat_lt.mp hlive
    obtain ⟨u,x,hu,hx,hstands,hsnapshots,hfiledx⟩ := hfiled.revert hclosed hn
    refine ⟨u, x, hu, hx, hstands, hsnapshots, fun lower hlower => ?_⟩
    have hlower' : lower < x.snapshots.length := by
      rw [hsnapshots, List.length_take]
      exact Nat.lt_min.mpr ⟨hlower, Nat.lt_trans hlower hn⟩
    obtain ⟨u',x',hu',hx',hstands',_⟩ := hfiledx.revert hclosed hlower'
    exact ⟨u', x', hu', hx', hstands'⟩

/-- A batch breaks off and leaves its snapshot, a token comes to stand at a second address in place
of an adapter, a block breaks off above a snapshot, and a number that was brought back is given out
again. -/
def Sample.stacked : List Step :=
  [.operation (.batchAddClaim 7 manager set [(account 3).toValue, .null] ["morpho", "morpho"]),
    .operation (.register 2 (account 50).toValue), .operation .snapshot,
    .operation (.mint 2 manager 5),
    .attempt [.transaction [.operation (.mint 2 manager 7), .operation .snapshot,
      .fail .wrongType]],
    .operation (.revert 1), .operation (.setManager 8 manager set), .operation .snapshot,
    .operation (.createToken "Reward" "RWD" 18), .operation (.mint 2 manager 9)]

theorem snapshots_bring_back_their_worlds_reused :
    let captures := Sample.world.captures Sample.stacked
    let v := Sample.world.after Sample.stacked
    Sample.world.snapshots = [] ∧ (∀ u ∈ captures, u.Closed) ∧ v.snapshots.length = 2 ∧
      ∃ u x, lastUnder 1 captures = some u ∧
        (Operation.revert 1).run v = (.ok .nothing, x) ∧ x.StandsAs u ∧
        x.snapshots = v.snapshots.take 1 ∧
        ∀ lower < 1, ∃ u' x', lastUnder lower captures = some u' ∧
          (Operation.revert lower).run x = (.ok .nothing, x') ∧ x'.StandsAs u' := by
  intro captures v
  have hlength : Sample.world.snapshots.length = 0 := by decide +kernel
  have hnew : Sample.world.snapshots = [] := List.eq_nil_of_length_eq_zero hlength
  have hclosed : ∀ u ∈ captures, u.Closed := by decide +kernel
  have hlive : v.snapshots.length = 2 := by decide +kernel
  have hid : 0 ≤ (1 : Int) ∧ (1 : Int) < v.snapshots.length := by omega
  exact ⟨hnew, hclosed, hlive, (snapshots_bring_back_their_worlds hnew hclosed 1).2 hid⟩

end Basketry.Chain
