import Basketry.Proofs.OwnAddresses
import Basketry.Proofs.Payouts

namespace Basketry.Chain

variable {w v u : World} {a : Address} {touched : Ref → Prop}

/-- The contracts differ at most in what belongs to the set at `a`. -/
inductive Contract.SameBut (a : Address) : Contract → Contract → Prop
  | same (c : Contract) : SameBut a c c
  | adapter {x x' : ClaimAdapter} (ha : x'.token.address = x.token.address)
      (hr : x'.rewards = x.rewards)
      (hb : ∀ b, b ≠ a → x'.token.balanceOf b = x.token.balanceOf b) :
      SameBut a (.claimAdapter x) (.claimAdapter x')
  | set {s s' : SetToken} (hs : s.address = a) (ha : s'.address = a)
      (hc : s'.controller = s.controller) : SameBut a (.setToken s) (.setToken s')
  | module {m m' : ClaimModule} (ha : m'.address = m.address) (hc : m'.controller = m.controller)
      (hs : ∀ b, b ≠ a → ClaimSettings.SameFor b m.settings m'.settings) :
      SameBut a (.claimModule m) (.claimModule m')

namespace Contract

theorem SameBut.trans {c c' c'' : Contract} (h : c.SameBut a c') (h' : c'.SameBut a c'') :
    c.SameBut a c'' := by
  cases h with
  | same => exact h'
  | adapter ha hr hb =>
    cases h' with
    | same => exact .adapter ha hr hb
    | adapter ha' hr' hb' =>
      exact .adapter (ha'.trans ha) (hr'.trans hr) fun b hne => (hb' b hne).trans (hb b hne)
  | set hs ha hc =>
    cases h' with
    | same => exact .set hs ha hc
    | set _ ha' hc' => exact .set hs ha' (hc'.trans hc)
  | module ha hc hs =>
    cases h' with
    | same => exact .module ha hc hs
    | module ha' hc' hs' =>
      exact .module (ha'.trans ha) (hc'.trans hc) fun b hne => (hs b hne).trans (hs' b hne)

theorem SameBut.address {c c' : Contract} (h : c.SameBut a c') : c'.address? = c.address? := by
  cases h with
  | same => rfl
  | adapter ha _ _ => exact congrArg some ha
  | set hs ha _ => exact congrArg some (ha.trans hs.symm)
  | module ha _ _ => exact congrArg some ha

theorem SameBut.paid (x : ClaimAdapter) (a : Address) :
    SameBut a (.claimAdapter x) (.claimAdapter (x.paid a)) :=
  .adapter rfl rfl fun b hne => (x.token.balanceOf_mint a b x.rewards).trans (if_neg hne)

end Contract

/-- What a call about the set at `a` changes in its module and in the set. -/
def concerns (module set : Ref) (a : Address) : Ref → Aspect → Prop := fun ref k =>
  (ref = module ∧ (k = .settings a ∨ k = .events)) ∨
    (ref = set ∧ (k = .basket ∨ k = .states))

/-- Only contracts in `touched` have changed, and they differ at most in what belongs to the set. -/
structure World.Within (w : World) (touched : Ref → Prop) (a : Address) (v : World) : Prop where
  others : v = { w with objects := v.objects }
  length : v.objects.length = w.objects.length
  kept : ∀ ref, ¬ touched ref → v.content ref = w.content ref
  contents : ∀ ref, (w.content ref).SameBut a (v.content ref)

namespace World

theorem Within.refl (w : World) : w.Within touched a w :=
  ⟨rfl, rfl, fun _ _ => rfl, fun _ => .same _⟩

theorem Within.trans (h : w.Within touched a v) (h' : v.Within touched a u) :
    w.Within touched a u :=
  ⟨by rw [h'.others, h.others], h'.length.trans h.length,
    fun ref hn => (h'.kept ref hn).trans (h.kept ref hn),
    fun ref => (h.contents ref).trans (h'.contents ref)⟩

theorem Within.registered (h : w.Within touched a v) : v.registered = w.registered := by
  rw [h.others]

theorem Within.snapshots (h : w.Within touched a v) : v.snapshots = w.snapshots := by
  rw [h.others]

theorem Within.setContent {ref : Ref} {c : Contract} (ht : touched ref)
    (hc : (w.content ref).SameBut a c) : w.Within touched a (w.setContent ref c) := by
  refine ⟨rfl, List.length_set, fun r hn => ?_, fun r => ?_⟩
  · rw [content_setContent, if_neg]
    rintro ⟨rfl,_⟩
    exact hn ht
  · rw [content_setContent]
    split
    · rename_i hr
      rw [hr.1]
      exact hc
    · exact .same _

end World

section Edited
variable {module set : Ref}

theorem Altered.sameBut {ref : Ref} {c c' : Contract}
    (h : Altered (concerns module set a ref) c c') (ha : ref = set → c.address? = some a) :
    c.SameBut a c' := by
  induction h with
  | refl => exact .same c
  | tail h hs ih =>
    have haddress := fun hr => (Altered.kept h).1.trans (ha hr)
    obtain ⟨k,hk,hs⟩ := hs
    refine ih.trans ?_
    cases hs with
    | settings h =>
      rcases hk with ⟨_,he | he⟩ | ⟨_,he | he⟩ <;> cases he
      exact .module rfl rfl fun b hne => h.others hne
    | event => exact .module rfl rfl fun b _ => .refl b _
    | basket =>
      rcases hk with ⟨_,he | he⟩ | ⟨hr,_⟩ <;> try cases he
      exact .set (Option.some.inj (haddress hr)) (Option.some.inj (haddress hr)) rfl
    | state =>
      rcases hk with ⟨_,he | he⟩ | ⟨hr,_⟩ <;> try cases he
      exact .set (Option.some.inj (haddress hr)) (Option.some.inj (haddress hr)) rfl
    | _ => simp [concerns] at hk

theorem Edits.within (h : Edits (concerns module set a) w v)
    (ha : (w.content set).address? = some a) (hm : touched module) (hs : touched set) :
    w.Within touched a v := by
  refine ⟨h.others.1, h.others.2, fun ref hn => ?_, fun ref => ?_⟩
  · have hkept : ∀ k, ¬ concerns module set a ref k := by
      rintro k (⟨rfl,_⟩ | ⟨rfl,_⟩)
      · exact hn hm
      · exact hn hs
    have hc := h.content ref
    generalize v.content ref = c at hc
    induction hc with
    | refl => rfl
    | tail _ hs _ =>
      obtain ⟨k,hk,_⟩ := hs
      exact absurd hk (hkept k)
  · exact (h.content ref).sameBut fun hr => hr ▸ ha

end Edited

section Claims
variable {module set : Ref} {name : String}

/-- Whatever adapter the name leads to, the claim reaches no other. -/
theorem claimOne_reach (ha : (w.content set).address? = some a) (hm : touched module)
    (hs : touched set)
    (hsource : ∀ d ref x, (namedAdapter module name w).1 = .ok d → w.find d = some ref →
      w.content ref = .claimAdapter x → x.token.address = d ∧ touched ref)
    (pool claimData : Value) :
    KeepsAt (w.Within touched a) (claimOne module set pool name claimData) w := by
  refine .read (isRewardPool_reads module _ pool) fun _ _ => ?_
  refine .guard fun _ => ?_
  refine .read (registeredAdapter_reads module _ pool name) fun d hd => ?_
  refine .read (moduleAt_reads module) fun m _ => ?_
  refine .read (setAddress_reads set) fun address hset => ?_
  obtain rfl : a = address := Option.some.inj (ha.symm.trans (setAddress_ok hset).2)
  refine .read (rewardToken_reads d pool) fun token _ => ?_
  refine .read (balanceOf_reads _ _) fun before _ => ?_
  refine .read (claimCall_reads d a pool claimData) fun c hc => ?_
  have invoked (caller : Value) : KeepsAt (w.Within touched a)
      (invoke set caller c.target.toValue (.bytes c.data)) w := by
    intro _
    cases hi : invoke set caller c.target.toValue (.bytes c.data) w with
    | mk outcome v =>
      obtain ⟨ref,hfind,⟨x,hx,hcall⟩ | ⟨x,_,hcall⟩⟩ := claimCall_ok hc
      · obtain ⟨rfl,ht⟩ := hsource d ref x (registeredAdapter_ok hd).1 hfind hx
        rcases invoke_adapter hset hfind hx hcall hi with ⟨_,_,rfl⟩ | ⟨_,rfl⟩
        · exact .refl _
        · exact .setContent ht (hx ▸ .paid x a)
      · cases invoke_distributor hset hcall hi
        exact .refl _
  refine (invoked _).bind fun _ v hv hwithin => hwithin.trans ?_
  have hav : (v.content set).address? = some a := (hwithin.contents set).address.trans ha
  refine Edits.within (EditsAt.read (balanceOf_reads _ _) fun now _ => ?_) hav hm hs
  refine (recalculate_edits _ _ (.inr ⟨rfl, .inl rfl⟩) before).bind fun _ u _ => ?_
  refine .read (.lift _) fun _ _ => ?_
  refine .read (.lift _) fun _ _ => ?_
  refine .read (moduleAt_reads module) fun m hm => ?_
  refine .bind (setContent_edits (.inl ⟨rfl, .inr rfl⟩) ?_) fun _ _ _ =>
    ((Reads.lift _).bind fun _ => .pure _).edits
  rw [moduleAt_ok hm]
  exact .event m _

/-- Between two claims of a batch. -/
def World.Claiming (w : World) (touched : Ref → Prop) (a : Address) (u : World) : Prop :=
  w.Within touched a u ∧ ClaimsApart w u

/-- In the middle of a batch the names lead where they led at its beginning. -/
theorem claimOne_within (hw : w.OwnAddresses) (ha : (w.content set).address? = some a)
    (hm : touched module) (hs : touched set)
    (hsource : ∀ d ref x, (namedAdapter module name w).1 = .ok d → w.find d = some ref →
      w.content ref = .claimAdapter x → touched ref)
    (pool claimData : Value) :
    KeepsAt (w.Claiming touched a) (claimOne module set pool name claimData) u := by
  rintro ⟨hwithin,hapart⟩
  have hedits : EditsAt onlyClaims (claimOne module set pool name claimData) u :=
    claimOne_edits pool claimData name (fun _ => .inl rfl) (.inr (.inl rfl)) (.inr (.inr rfl))
  refine ⟨hwithin.trans ?_, hapart.trans (Edits.claimsApart hedits)⟩
  refine claimOne_reach ((hwithin.contents set).address.trans ha) hm hs ?_ pool claimData (.refl u)
  intro d ref x hd hfind hx
  rw [namedAdapter_steady module name w u hapart] at hd
  rw [World.find, hwithin.registered] at hfind
  have hc := hwithin.contents ref
  have hown := (hw.found hfind).2 x.token.address (by rw [← hc.address, hx]; rfl)
  generalize hc₀ : w.content ref = c₀ at hc
  rw [hx] at hc
  cases hc with
  | same => exact ⟨hown, hsource d ref x hd hfind hc₀⟩
  | @adapter x₀ _ _ _ => exact ⟨hown, hsource d ref x₀ hd hfind hc₀⟩

end Claims

section Ended

/-- A reference may have come to lead elsewhere, where the same contract stands. -/
def World.Leads (w v : World) (place : Ref → Ref) : Prop :=
  ∀ r, place r = r ∨ v.content (place r) = w.content r

/-- What became of a contract, whose controller may have been brought back at a new place. -/
def World.Became (w : World) (touched : Ref → Prop) (a : Address) (v : World) (ref : Ref) : Prop :=
  ∃ place c, w.Leads v place ∧ (w.content ref).SameBut a c ∧ (touched ref ∨ c = w.content ref) ∧
    v.content ref = c.redirect place

/-- Two worlds between which a call about the set at `a` has ended or failed. -/
structure World.Apart (w : World) (touched : Ref → Prop) (a : Address) (v : World) : Prop where
  registered : v.registered = w.registered
  contents : ∀ ref < w.objects.length, w.Became touched a v ref

namespace World

theorem Within.became (h : w.Within touched a u) {ref : Ref} (hv : v.content ref = u.content ref) :
    w.Became touched a v ref := by
  refine ⟨id, u.content ref, fun _ => .inl rfl, h.contents ref, ?_, ?_⟩
  · by_cases ht : touched ref
    · exact .inl ht
    · exact .inr (h.kept ref ht)
  · exact hv.trans (Contract.redirect_self _ fun _ _ => rfl).symm

theorem Within.restored (h : w.Within touched a u) : w.Apart touched a (u.restore w.shot) := by
  have hleads : w.Leads (u.restore w.shot) (u.moved w.shot) := by
    intro r
    by_cases hr : r ∈ w.strays
    · exact .inr (content_moved hr)
    · exact .inl (moved_of_not_mem (by simpa [shot, contentsOf, Function.comp_def] using hr))
  refine ⟨by rw [(u.restore_others w.shot).1]; rfl, fun ref hr => ?_⟩
  rcases content_back u w ref with hc | ⟨_,hc⟩ | ⟨hge,_⟩
  · exact h.became hc
  · exact ⟨_, _, hleads, .same _, .inr rfl, hc⟩
  · exact absurd (h.length ▸ hge) (Nat.not_le.mpr hr)

/-- The snapshots on the way make no difference. -/
theorem Within.elsewhere (h : w.Within touched a u) (snapshots : List Snapshot) :
    ({ w with snapshots := snapshots } : World).Within touched a { u with snapshots := snapshots } := by
  refine ⟨?_, h.length, h.kept, h.contents⟩
  rw [h.others]

end World

theorem atomically_apart {b : Run α} (h : w.snapshot.2.Within touched a (b w.snapshot.2).2) :
    w.Apart touched a (atomically b w).2 := by
  cases hb : b w.snapshot.2 with
  | mk outcome u =>
    rw [hb] at h
    have hend : w.Within touched a { u with snapshots := w.snapshots } :=
      h.elsewhere w.snapshots
    rcases atomically_ends hb h.snapshots with ⟨_,he⟩ | ⟨_,he⟩ | ⟨_,_,he⟩
    · rw [he]
      exact ⟨hend.registered, fun ref _ => hend.became rfl⟩
    · rw [he]
      exact hend.restored
    · rw [he]
      exact ⟨hend.registered, fun ref _ => hend.became rfl⟩

end Ended

section Operations
variable {module set : Ref} {caller given : Value} {names : List String}

/-- What is asked of a module about a set: the module and the set. -/
def Operation.viewing? : Operation → Option (Ref × Value)
  | .anyoneMayClaim module set | .rewardPools module set | .rewardPoolAt module set _
  | .isRewardPool module set _ | .rewardPoolClaims module set _ | .isClaimRegistered module set _ _
  | .isRewardPoolClaim module set _ _ | .rewardsOf module set _ _ => some (module, set)
  | _ => none

/-- The calls of a module that name a set: the module, the set, and under which names it claims. -/
def Operation.naming? : Operation → Option (Ref × Value × List String)
  | .activate module _ set _ _ _ | .updateAnyoneClaim module _ set _ | .addClaim module _ set _ _
  | .batchAddClaim module _ set _ _ | .removeClaim module _ set _ _
  | .batchRemoveClaim module _ set _ _ | .forgetSet module set => some (module, set, [])
  | .claim module _ set _ name _ => some (module, set, [name])
  | .batchClaim module _ set _ names _ => some (module, set, names)
  | o => o.viewing?.map fun e => (e.1, e.2, [])

/-- A claim adapter that the module knows under one of the names. -/
def World.Source (w : World) (module : Ref) (names : List String) (ref : Ref) : Prop :=
  ∃ name ∈ names, ∃ d x, (namedAdapter module name w).1 = .ok d ∧ w.find d = some ref ∧
    w.content ref = .claimAdapter x

/-- What a call can change: the module, the set and the claim adapters that are claimed from. -/
def World.Reach (w : World) (module set : Ref) (names : List String) (ref : Ref) : Prop :=
  ref = module ∨ ref = set ∨ w.Source module names ref

theorem managed_concerns (hs : (resolveSet given w).1 = .ok set)
    (ha : (w.content set).address? = some a) {ref : Ref} {k : Aspect}
    (h : managed module caller given w ref k) : concerns module set a ref k := by
  obtain ⟨rfl,set',b,⟨hs',_⟩,hb,rfl⟩ := h
  cases hs.symm.trans hs'
  cases ha.symm.trans hb
  exact .inl ⟨rfl, .inl rfl⟩

theorem Block.apart {f : Footprint} {act : Run α} (h : Block f act)
    (hf : ∀ ref k, f w ref k → concerns module set a ref k)
    (ha : (w.content set).address? = some a) :
    w.Apart (w.Reach module set names) a (act w).2 := by
  obtain ⟨b,rfl,hb⟩ := h
  have hedits : Edits (concerns module set a) w.snapshot.2 (b w.snapshot.2).2 :=
    Edits.mono hf (hb w)
  exact atomically_apart (hedits.within ha (.inl rfl) (.inr (.inl rfl)))

theorem claimable_apart (hs : (resolveSet given w).1 = .ok set) {claims : Ref → Run α}
    (hc : KeepsAt (w.snapshot.2.Claiming touched a) (claims set) w.snapshot.2) :
    w.Apart touched a (atomically (claimableSet module caller given >>= claims) w).2 := by
  have hkeeps : KeepsAt (w.snapshot.2.Claiming touched a)
      (claimableSet module caller given >>= claims) w.snapshot.2 := by
    refine .read (claimableSet_reads module caller given) fun set' hs' => ?_
    cases hs.symm.trans (claimableSet_snapshot hs').found
    exact hc
  exact atomically_apart (hkeeps ⟨.refl _, ⟨rfl, fun _ => rfl⟩⟩).1

theorem claimOne_reached (hw : w.OwnAddresses) (ha : (w.content set).address? = some a) {name : String}
    (hn : name ∈ names) (pool data : Value) :
    KeepsAt (w.snapshot.2.Claiming (w.Reach module set names) a)
      (claimOne module set pool name data) u := by
  refine claimOne_within hw.taken ha (.inl rfl) (.inr (.inl rfl)) ?_ pool data
  intro d ref x hd hfind hx
  have hd : (namedAdapter module name w).1 = .ok d :=
    ((namedAdapter_reads module name).answer w _).symm.trans hd
  exact .inr (.inr ⟨name, hn, d, x, hd, hfind, hx⟩)

/-- Whether it ends or fails, a call reaches no further. -/
theorem Operation.apart {o : Operation} (hw : w.OwnAddresses)
    (ho : o.naming? = some (module, given, names)) (hs : (resolveSet given w).1 = .ok set)
    (ha : (w.content set).address? = some a) :
    w.Apart (w.Reach module set names) a (o.run w).2 := by
  have asked (hplain : o.IsPlain) (hidle : ∀ ref k, ¬ o.touches w ref k) :
      w.Apart (w.Reach module set names) a (o.run w).2 := by
    have hedits : Edits (concerns module set a) w (o.run w).2 :=
      Edits.mono (fun ref k hk => absurd hk (hidle ref k)) (Operation.run_edits hplain)
    have hwithin : w.Within (w.Reach module set names) a (o.run w).2 :=
      hedits.within ha (.inl rfl) (.inr (.inl rfl))
    exact ⟨hwithin.registered, fun ref _ => hwithin.became rfl⟩
  have managing {f : Footprint} (hblock : Block f o.run)
      (hf : ∀ ref k, f w ref k → concerns module set a ref k) :
      w.Apart (w.Reach module set names) a (o.run w).2 := hblock.apart hf ha
  cases o with
  | activate m caller s anyone pools names =>
    cases ho
    refine managing (Operation.block trivial) fun ref k hk => ?_
    rcases hk with hk | ⟨⟨hs',_⟩,rfl⟩
    · exact managed_concerns hs ha hk
    · cases hs.symm.trans hs'
      exact .inr ⟨rfl, .inr rfl⟩
  | updateAnyoneClaim | addClaim | batchAddClaim | removeClaim | batchRemoveClaim =>
    cases ho
    exact managing (Operation.block trivial) fun ref k hk => managed_concerns hs ha hk
  | forgetSet m s =>
    cases ho
    refine managing (Operation.block trivial) fun ref k hk => ?_
    obtain ⟨rfl,set',b,hs',hb,rfl⟩ := hk
    cases hs.symm.trans hs'
    cases ha.symm.trans hb
    exact .inl ⟨rfl, .inl rfl⟩
  | claim m caller s pool name data =>
    cases ho
    rw [show (claim module caller given pool name data).run w = _ from answer_run _ Answer.event w]
    exact claimable_apart hs (claimOne_reached hw ha (by simp) pool data)
  | batchClaim m caller s pools names data =>
    cases ho
    rw [show (batchClaim module caller given pools names data).run w = _ from
      answer_run _ Answer.events w]
    refine claimable_apart hs ?_
    refine .read (checkArrays_reads pools names) fun _ _ => .guard fun _ => .mapM ?_
    intro e he v
    have hn : e.1.2 ∈ names := (List.of_mem_zip (List.of_mem_zip he).1).2
    exact claimOne_reached hw ha hn e.1.1 e.2
  | anyoneMayClaim | rewardPools | rewardPoolAt | isRewardPool | rewardPoolClaims
  | isClaimRegistered | isRewardPoolClaim | rewardsOf => exact asked trivial fun _ _ => id
  | _ => cases ho

end Operations

end Basketry.Chain
