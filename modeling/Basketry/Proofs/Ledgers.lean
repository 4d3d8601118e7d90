import Basketry.Proofs.EncodedCalls
import Basketry.Proofs.Keeping
import Basketry.Proofs.Spelling

namespace Basketry.Chain

/-- The books of a token: what is there is held by somebody, who stands in them once. -/
structure Token.Balanced (t : Token) : Prop where
  supply : t.totalSupply = t.balances.values.sum
  held : ∀ n ∈ t.balances.values, 0 ≤ n
  once : t.balances.keys.Nodup

namespace Token

variable {t t' : Token} {amount : Int} {sender receiver : Address}

theorem Balanced.balance (h : t.Balanced) (holder : Address) : 0 ≤ t.balanceOf holder := by
  unfold balanceOf Table.getD
  cases hg : t.balances.get? holder with
  | none => exact Int.le_refl 0
  | some n => exact h.held n (Table.mem_values_of_get? hg)

/-- The supply follows what a holder gains or loses. -/
theorem Balanced.put (h : t.Balanced) (holder : Address) {n supply : Int} (hn : 0 ≤ n)
    (hs : supply = t.totalSupply + (n - t.balanceOf holder)) :
    ({ t with balances := t.balances.put holder n, totalSupply := supply } : Token).Balanced := by
  refine ⟨?_, fun m hm => ?_, Table.nodup_keys_put h.once holder n⟩
  · rw [Table.sum_put, ← h.supply]
    exact hs
  · rcases Table.mem_values_put hm with rfl | hm
    · exact hn
    · exact h.held m hm

theorem Balanced.mint (h : t.Balanced) (receiver : Address) (ha : 0 ≤ amount) :
    (t.mint receiver amount).Balanced := by
  have hn := h.balance receiver
  exact h.put receiver (by omega) (by omega)

/-- What the sender gives away is booked before the receiver is looked up, so that a transfer to
oneself comes out even. -/
theorem Balanced.move (h : t.Balanced) (ha : 0 ≤ amount) (hc : t.covers sender amount = .ok ())
    (hm : t.move sender receiver amount = .ok t') : t'.Balanced := by
  unfold Token.move at hm
  cases hs : t.balances.get? sender with
  | none =>
    rw [hs] at hm
    cases hm
  | some n =>
    have hn : t.balanceOf sender = n := Table.getD_of_get? hs 0
    have hcovered : amount ≤ n := by
      unfold covers at hc
      split at hc
      · cases hc
      · omega
    have hleft : 0 ≤ n - amount := by omega
    have hsupply : t.totalSupply - amount = t.totalSupply + (n - amount - t.balanceOf sender) := by
      omega
    have hreceived := (h.put sender hleft hsupply).mint receiver ha
    rw [hs] at hm
    cases hm
    exact ⟨(Int.sub_add_cancel _ _).symm.trans hreceived.supply, hreceived.held, hreceived.once⟩

end Token

/-- A contract whose books balance, if it has any, and which promises no negative reward. -/
def Contract.Balanced : Contract → Prop
  | .token t => t.Balanced
  | .claimAdapter a => a.token.Balanced ∧ 0 ≤ a.rewards
  | _ => True

section Actions
variable {w : World} {ref : Ref}

/-- The books of every token balance, in the objects and in the snapshots. -/
abbrev World.Balanced (w : World) : Prop := w.Everywhere Contract.Balanced

theorem setContent_balanced {c : Contract} (hc : w.Balanced → c.Balanced) :
    KeepsAt World.Balanced (setContent ref c) w := by
  intro hw
  refine ⟨fun r => ?_, hw.contents, hw.strays⟩
  change ((w.setContent ref c).content r).Balanced
  rw [World.content_setContent]
  split
  · exact hc hw
  · exact hw.objects r

theorem tokenAt_balanced {t : Token} (ht : (tokenAt ref w).1 = .ok t) (hw : w.Balanced) :
    t.Balanced := by
  have hc := hw.objects ref
  rcases tokenAt_ok ht with h | ⟨a,h,rfl⟩
  · rwa [h] at hc
  · rw [h] at hc
    exact hc.1

theorem setToken_balanced {t : Token} (ht : w.Balanced → t.Balanced) :
    KeepsAt World.Balanced (setToken ref t) w := by
  unfold setToken
  refine .read (content_reads ref) fun c hc => ?_
  have hw : w.content ref = c := by
    cases hc
    rfl
  cases c with
  | claimAdapter a =>
    refine setContent_balanced fun h => ⟨ht h, ?_⟩
    have ha := h.objects ref
    rw [hw] at ha
    exact ha.2
  | _ => exact setContent_balanced ht

theorem mint_balanced {receiver : Value} {amount : Int} (ha : w.Balanced → 0 ≤ amount) :
    KeepsAt World.Balanced (mint ref receiver amount) w := by
  refine .read (.lift _) fun receiver _ => ?_
  refine .read (tokenAt_reads ref) fun t ht => ?_
  exact setToken_balanced fun hw => (tokenAt_balanced ht hw).mint receiver (ha hw)

theorem transfer_balanced {sender receiver : Value} {amount : Int} (ha : 0 ≤ amount) :
    KeepsAt World.Balanced (transfer ref sender receiver amount) w := by
  refine .read (.lift _) fun sender _ => ?_
  refine .read (tokenAt_reads ref) fun t ht => ?_
  refine .read (.lift _) fun _ hc => ?_
  refine .read (.lift _) fun receiver _ => ?_
  refine .read (tokenAt_reads ref) fun t' ht' => ?_
  refine .read (.lift _) fun u hu => ?_
  obtain rfl : t = t' := Except.ok.inj (ht.symm.trans ht')
  exact setToken_balanced fun hw => (tokenAt_balanced ht hw).move ha hc hu

theorem perform_balanced {c : TokenCall} (hc : c.Nonnegative) (sender : Address) :
    KeepsAt World.Balanced (perform ref sender c) w := by
  cases c with
  | transfer receiver amount => exact (transfer_balanced hc).answer _
  | mint receiver amount => exact (mint_balanced fun _ => hc).answer _
  | claimRewards holder =>
    refine .read (adapterAt_reads ref) fun a ha => ?_
    refine (mint_balanced fun hw => ?_).answer _
    have h := hw.objects ref
    rw [adapterAt_ok ha] at h
    exact h.2

theorem call_balanced (sender target data : Value) :
    KeepsAt World.Balanced (call sender target data) w := by
  have answer : ∀ ref adapter, KeepsAt World.Balanced (call.answer sender data ref adapter) w := by
    intro ref adapter
    refine .read (.lift _) fun _ _ => ?_
    refine .read (.lift _) fun _ _ => ?_
    refine .read (.lift _) fun c hc => ?_
    exact perform_balanced (TokenCall.decode_nonnegative hc) _
  refine .read (find_reads target) fun found _ => ?_
  cases found with
  | none => exact (Reads.pure _).keeps
  | some ref =>
    refine .read (content_reads ref) fun c _ => ?_
    cases c with
    | token t => exact answer ref false
    | claimAdapter a => exact answer ref true
    | _ => exact (Reads.pure _).keeps

theorem setRewards_balanced {rewards : Int} (hr : 0 ≤ rewards) :
    KeepsAt World.Balanced (setRewards ref rewards) w := by
  refine .read (adapterAt_reads ref) fun a ha => ?_
  refine setContent_balanced fun hw => ?_
  have h := hw.objects ref
  rw [adapterAt_ok ha] at h
  exact ⟨h.1, hr⟩

theorem invoke_balanced (caller target data : Value) :
    KeepsAt World.Balanced (invoke ref caller target data) w := by
  refine .read (onlyModule_reads ref caller) fun _ _ => ?_
  refine .read (setAddress_reads ref) fun a _ => ?_
  exact call_balanced a.toValue target data

/-- What touches neither ledgers nor rewards keeps the books as they are. -/
theorem balanced_of_moves {p : Ref → Aspect → Prop} {floor : Nat} {v : World}
    (hp : ∀ ref k, p ref k → k ≠ .ledger ∧ k ≠ .rewards) (h : Moves p floor w v)
    (hw : w.Balanced) : v.Balanced := by
  refine h.kept ?_ ?_ ?_ hw
  · intro c hn
    cases hn with
    | token => exact ⟨rfl, by simp [Table.values], by simp [Table.keys]⟩
    | claimAdapter => exact ⟨⟨rfl, by simp [Table.values], by simp [Table.keys]⟩, Int.le_refl 0⟩
    | _ => trivial
  · intro c f hc
    cases c <;> exact hc
  · intro ref k c c' hk hchange hc
    obtain ⟨hl,hr⟩ := hp ref k hk
    cases hchange with
    | token => exact absurd rfl hl
    | adapterToken => exact absurd rfl hl
    | rewards => exact absurd rfl hr
    | _ => trivial

theorem claimOne_balanced {module set : Ref} (pool : Value) (name : String) (claimData : Value) :
    KeepsAt World.Balanced (claimOne module set pool name claimData) w := by
  have edited : ∀ {α : Type} {a : Run α} {v : World},
      EditsAt (fun _ k => k = .basket ∨ k = .events) a v → KeepsAt World.Balanced a v := by
    intro α a v h hw
    have hmoves : Moves _ 0 v (a v).2 := Edits.moves h
    refine balanced_of_moves ?_ hmoves hw
    rintro ref k (rfl | rfl) <;> simp
  refine .read (isRewardPool_reads module _ pool) fun _ _ => ?_
  refine .guard fun _ => ?_
  refine .read (registeredAdapter_reads module _ pool name) fun adapter _ => ?_
  refine .read (moduleAt_reads module) fun m _ => ?_
  refine .read (setAddress_reads set) fun address _ => ?_
  refine .read (rewardToken_reads adapter pool) fun token _ => ?_
  refine .read (balanceOf_reads _ _) fun before _ => ?_
  refine .read (claimCall_reads adapter address pool claimData) fun c _ => ?_
  refine (invoke_balanced _ _ _).bind fun _ v _ => ?_
  refine .read (balanceOf_reads _ _) fun now _ => ?_
  refine (edited (recalculate_edits _ _ (.inl rfl) before)).bind fun _ u _ => edited ?_
  refine .read (.lift _) fun _ _ => ?_
  refine .read (.lift _) fun _ _ => ?_
  refine .read (moduleAt_reads module) fun m hm => ?_
  refine .bind (setContent_edits (.inr rfl) ?_) fun _ _ _ =>
    ((Reads.lift _).bind fun _ => .pure _).edits
  rw [moduleAt_ok hm]
  exact .event m _

end Actions

section Histories
variable {w : World}

theorem balanced_carried : Carried World.Balanced := by
  have kept : ∀ {w v : World}, Move (fun _ _ => False) 0 w v → w.Balanced → v.Balanced :=
    fun h hw => balanced_of_moves (fun _ _ hp => hp.elim) (.single h) hw
  exact ⟨kept (.taken _), fun hs => kept (.restored (Nat.zero_le _) hs),
    fun n => kept (.dropped _ (Nat.zero_le n))⟩

namespace Operation

/-- An amount that an operation is given is not negative. -/
def Nonnegative : Operation → Prop
  | .mint _ _ amount | .transfer _ _ _ amount | .setRewards _ amount => 0 ≤ amount
  | _ => True

/-- The operations that reach the books of a token. -/
def IsBooking : Operation → Prop
  | .call .. | .invoke .. | .mint .. | .transfer .. | .setRewards .. | .claim ..
  | .batchClaim .. => True
  | _ => False

theorem touches_no_books {o : Operation} {ref : Ref} {k : Aspect} (h : ¬ o.IsBooking)
    (hk : o.touches w ref k) : k ≠ .ledger ∧ k ≠ .rewards := by
  cases o <;> simp [touches, managed, named, fresh, IsBooking] at h hk ⊢ <;> grind

theorem balanced {o : Operation} (h : o.Nonnegative) : KeepsAt World.Balanced o.run w := by
  by_cases hb : o.IsBooking
  · cases o with
    | call sender target data => exact (call_balanced sender target data).answer _
    | invoke set caller target data => exact (invoke_balanced caller target data).answer _
    | mint token receiver amount => exact (mint_balanced fun _ => h).answer _
    | transfer token sender receiver amount => exact (transfer_balanced h).answer _
    | setRewards adapter rewards => exact (setRewards_balanced h).answer _
    | claim module caller set pool name data =>
      refine KeepsAt.answer (.atomically balanced_carried ?_) _
      refine .read (claimableSet_reads module caller set) fun set _ => ?_
      exact claimOne_balanced pool name data
    | batchClaim module caller set pools names data =>
      refine KeepsAt.answer (.atomically balanced_carried ?_) _
      refine .read (claimableSet_reads module caller set) fun set _ => ?_
      refine .read (checkArrays_reads pools names) fun _ _ => ?_
      refine .guard fun _ => ?_
      exact .mapM fun e _ v => claimOne_balanced e.1.1 e.1.2 e.2
    | _ => exact hb.elim
  · intro hw
    have hmoves : Moves (o.touches w) 0 w (o.run w).2 := o.run_moves o.spares_zero (Nat.zero_le _)
    exact balanced_of_moves (fun _ _ hk => touches_no_books hb hk) hmoves hw

end Operation

theorem deployed_balanced (accounts : Nat → Address) (owner : Option String) :
    (World.deployed accounts owner).2.Balanced := by
  have hempty : World.Balanced { accounts } := ⟨fun _ => trivial, by simp, by simp⟩
  have moved : ∀ {α : Type} {a : Run α} {w : World}, MovesAt (fun _ _ => False) 0 a w →
      KeepsAt World.Balanced a w :=
    fun h => h.keeps fun _ => balanced_of_moves fun _ _ hp => hp.elim
  have hdeploying : Deploying World.Balanced :=
    ⟨moved (create_moves fun a => .registry a), fun r => moved (createController_moves r),
      fun _ _ _ => moved (create_moves fun a => .token a _ _ _),
      moved fun _ => .single (.drawn _), fun _ _ _ ha => mint_balanced fun _ => ha⟩
  exact hdeploying.deployed accounts owner hempty

/-- As long as no amount that is minted, transferred or promised is negative, the supply of every
token is the sum of its balances, no balance is negative and nobody stands in the books twice.
Steps of the history may fail at any point, be undone as a block or be taken back to a snapshot. -/
theorem token_books_balance {accounts : Nat → Address} {owner : Option String}
    {history : List Step} (h : ∀ s ∈ history, s.Each Operation.Nonnegative) {token : Ref}
    {t : Token} (ht : (tokenAt token ((World.deployed accounts owner).2.after history)).1 = .ok t) :
    t.totalSupply = t.balances.values.sum ∧ (∀ n ∈ t.balances.values, 0 ≤ n) ∧
      (∀ holder, 0 ≤ t.balanceOf holder) ∧ (t.balances.keys.map Address.text).Nodup := by
  have hafter := World.after_keeps balanced_carried (fun _ _ => Operation.balanced)
    (World.throughout_of_each h) (deployed_balanced accounts owner)
  have hbooks := tokenAt_balanced ht hafter
  refine ⟨hbooks.supply, hbooks.held, hbooks.balance, ?_⟩
  exact List.Pairwise.map Address.text (fun _ _ hne he => hne (Address.text_injective he))
    hbooks.once

namespace Sample

/-- Payments of all kinds: one to the sender, one that is not covered, an encoded one and a block of
payments that is undone. -/
def payments : List Step :=
  [.operation (.mint 2 manager 5),
    .operation (.transfer 2 manager manager 3),
    .operation (.transfer 2 manager pool 9),
    .operation (.call manager pool (.bytes (CallData.selector TokenCall.transferSignature ++
      Abi.encodeArguments [.address, .uint 32] [.account (account 61), .number 2]))),
    .transaction [.operation (.mint 2 pool 1), .fail (.revert "undone")]]

end Sample

theorem token_books_balance_paid : ∃ t,
    (tokenAt 2 ((World.deployed Sample.account (some Sample.owner)).2.after Sample.payments)).1 =
      .ok t ∧
    t.totalSupply = t.balances.values.sum ∧ (∀ n ∈ t.balances.values, 0 ≤ n) ∧
      (∀ holder, 0 ≤ t.balanceOf holder) ∧ (t.balances.keys.map Address.text).Nodup := by
  have h : ∀ s ∈ Sample.payments, s.Each Operation.Nonnegative := by
    simp [Sample.payments, Step.Each, AllEach, Operation.Nonnegative]
  obtain ⟨t,v,ht⟩ := ok_of_fault? (a := tokenAt 2)
    (w := (World.deployed Sample.account (some Sample.owner)).2.after Sample.payments)
    (by decide +kernel)
  exact ⟨t, congrArg Prod.fst ht, token_books_balance h (congrArg Prod.fst ht)⟩

end Histories

end Basketry.Chain
