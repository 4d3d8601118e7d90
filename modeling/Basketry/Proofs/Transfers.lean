import Basketry.Proofs.DirectCalls

namespace Basketry.Chain

namespace Token
variable {t t' : Token} {a b : Address} {n : Int}

/-- Somebody who has ever been given anything, if only nothing, has an account. -/
def HasAccount (t : Token) (a : Address) : Prop := t.balances.contains a = true

instance : Decidable (t.HasAccount a) := inferInstanceAs (Decidable (_ = true))

theorem hasAccount_iff : t.HasAccount a ↔ t.balances.get? a ≠ none := by
  simp [HasAccount, Table.contains, Option.isSome_iff_ne_none]

theorem balanceOf_of_no_account (h : ¬ t.HasAccount a) : t.balanceOf a = 0 := by
  rw [hasAccount_iff, not_not] at h
  exact Table.getD_of_get?_none h 0

theorem covers_of_le (h : n ≤ t.balanceOf a) : t.covers a n = .ok () := if_neg (Int.not_lt.mpr h)

theorem transfer_uncovered (b : Address) (h : t.balanceOf a < n) :
    t.transfer a b n = .error (.revert "ERC20: transfer amount exceeds balance") := by
  rw [transfer, covers, if_pos h]
  rfl

/-- The check takes an absent account for an empty one, and the debit does not. -/
theorem transfer_unheld (b : Address) (h : n ≤ t.balanceOf a) (ha : ¬ t.HasAccount a) :
    t.transfer a b n = .error .missingKey := by
  rw [hasAccount_iff, not_not] at ha
  rw [transfer, covers_of_le h]
  change t.move a b n = _
  rw [move, ha]

/-- The receiver is looked up after the sender is debited, so that who sends to himself keeps what he
has. -/
theorem move_ok (h : t.move a b n = .ok t') :
    t' = { t with balances := t'.balances } ∧ ∀ c, t'.balanceOf c =
      t.balanceOf c - (if c = a then n else 0) + if c = b then n else 0 := by
  unfold move at h
  split at h
  · cases h
  · rename_i held hheld
    cases h
    have hbalance : t.balanceOf a = held := Table.getD_of_get? hheld 0
    refine ⟨rfl, fun c => ?_⟩
    simp only [balanceOf, Table.getD_put] at hbalance ⊢
    by_cases hb : c = b
    · subst hb
      by_cases ha : c = a
      · subst ha
        simp [hbalance]
      · simp [ha]
    · by_cases ha : c = a
      · subst ha
        simp [hb, hbalance]
      · simp [ha, hb]

theorem transfer_done (b : Address) (h : n ≤ t.balanceOf a) (ha : t.HasAccount a) :
    ∃ t', t.transfer a b n = .ok t' ∧ t' = { t with balances := t'.balances } ∧
      ∀ c, t'.balanceOf c = t.balanceOf c - (if c = a then n else 0) + if c = b then n else 0 := by
  obtain ⟨held,hheld⟩ := Option.isSome_iff_exists.mp ha
  obtain ⟨t',ht'⟩ : ∃ t', t.move a b n = .ok t' := by
    rw [move, hheld]
    exact ⟨_, rfl⟩
  refine ⟨t', ?_, move_ok ht'⟩
  rw [transfer, covers_of_le h]
  exact ht'

end Token

/-- The contract with other books. -/
def Contract.withToken (t : Token) : Contract → Contract
  | .claimAdapter x => .claimAdapter { x with token := t }
  | _ => .token t

variable {w : World} {ref : Ref} {t : Token} {sender receiver : Value} {a b : Address}

theorem setToken_run (ref : Ref) (t : Token) (w : World) :
    setToken ref t w = (.ok (), w.setContent ref ((w.content ref).withToken t)) := by
  unfold setToken
  rw [content_bind]
  cases w.content ref <;> rfl

theorem tokenAt_plain (hc : w.content ref = .token t) : (tokenAt ref w).1 = .ok t := by
  rw [tokenAt, content_bind, hc]
  rfl

theorem tokenAt_withToken (ht : (tokenAt ref w).1 = .ok t) (t' : Token) :
    (tokenAt ref (w.setContent ref ((w.content ref).withToken t'))).1 = .ok t' := by
  have hthere : w.content ref ≠ .chain := by
    intro hc
    rw [tokenAt, content_bind, hc] at ht
    cases ht
  have hset : (w.setContent ref ((w.content ref).withToken t')).content ref = (w.content ref).withToken t' :=
    World.content_setContent_self rfl hthere
  obtain hc | ⟨x,hc,rfl⟩ := tokenAt_ok ht
  · rw [hc] at hset ⊢
    exact tokenAt_plain hset
  · rw [tokenAt, content_bind, hset, hc]
    rfl

/-- However the two are written, a transfer is one between their accounts. The token is read twice, and
is the same both times. -/
theorem transfer_run (ht : (tokenAt ref w).1 = .ok t) (hs : Address.ofValue sender = .ok a)
    (hr : Address.ofValue receiver = .ok b) (n : Int) : transfer ref sender receiver n w =
      ((liftM (t.transfer a b n) : Run Token) >>= setToken ref) w := by
  have hread := (tokenAt_reads ref).run_ok ht
  unfold transfer
  rw [hs, hr]
  change (tokenAt ref >>= fun t => (liftM (t.covers a n) : Run Unit) >>= fun _ =>
    tokenAt ref >>= fun t => (liftM (t.move a b n) : Run Token) >>= setToken ref) w = _
  rw [bind_of_ok hread, Token.transfer]
  cases hcovers : t.covers a n with
  | error fault => rfl
  | ok _ => exact bind_of_ok hread _

/-- For every token in every state of the chain, whoever sends and receives and however they are written:
an amount that the sender does not hold is refused, and nothing changes. Any other is sent by whoever has an
account, as everybody has who holds anything: the sender loses it and the receiver gains it, which comes
out even where they are the same, and no other balance, not the supply and nothing else on the chain
changes. Only somebody without an account cannot send nothing; then nothing changes either, but the fault
is no refusal. -/
theorem transfers_move_what_is_held (ht : (tokenAt ref w).1 = .ok t)
    (hs : Address.ofValue sender = .ok a) (hr : Address.ofValue receiver = .ok b) (n : Int) :
    (t.balanceOf a < n → transfer ref sender receiver n w =
      (.error (.revert "ERC20: transfer amount exceeds balance"), w)) ∧
    (n ≤ t.balanceOf a → 0 < n ∨ t.HasAccount a → ∃ t',
      transfer ref sender receiver n w =
        (.ok (), w.setContent ref ((w.content ref).withToken t')) ∧
      (tokenAt ref (transfer ref sender receiver n w).2).1 = .ok t' ∧
      t' = { t with balances := t'.balances } ∧ ∀ c, t'.balanceOf c =
        t.balanceOf c - (if c = a then n else 0) + if c = b then n else 0) ∧
    (n ≤ t.balanceOf a → ¬ (0 < n ∨ t.HasAccount a) →
      transfer ref sender receiver n w = (.error .missingKey, w)) := by
  rw [transfer_run ht hs hr]
  refine ⟨fun hn => ?_, fun hn hsendable => ?_, fun hn hnot => ?_⟩
  · rw [Token.transfer_uncovered b hn]
    rfl
  · have haccount : t.HasAccount a := by
      by_contra hnone
      have hzero := Token.balanceOf_of_no_account hnone
      have hpos := hsendable.resolve_right hnone
      omega
    obtain ⟨t',htransfer,hchange⟩ := Token.transfer_done b hn haccount
    have hrun : ((liftM (t.transfer a b n) : Run Token) >>= setToken ref) w =
        (.ok (), w.setContent ref ((w.content ref).withToken t')) := by
      rw [htransfer]
      exact setToken_run ref t' w
    rw [hrun]
    exact ⟨t', rfl, tokenAt_withToken ht t', hchange⟩
  · rw [Token.transfer_unheld b hn fun haccount => hnot (.inr haccount)]
    rfl

/-- Wrapped ether as it is deployed, with what others were given since. -/
def Sample.ether (given : List (Address × Int)) : Token :=
  let million := 1000000000000000000000000
  ⟨account 2, "Wrapped Ether", "WETH", 18, million + (given.map (·.2)).sum,
    ⟨(account 169, million) :: given⟩⟩

theorem transfers_move_what_is_held_minted :
    let w := (World.deployed Sample.account (some Sample.owner)).2.after
      [.operation (.mint 2 Sample.manager 5)]
    let sender := Value.text (Sample.account 60).lowerText
    let receiver := (Sample.account 61).toValue
    (∃ t', (tokenAt 2 (transfer 2 sender receiver 3 w).2).1 = .ok t' ∧
        t'.balanceOf (Sample.account 60) = 2 ∧ t'.balanceOf (Sample.account 61) = 3) ∧
      transfer 2 sender receiver 9 w =
        (.error (.revert "ERC20: transfer amount exceeds balance"), w) := by
  intro w sender receiver
  have hc : w.content 2 = .token (Sample.ether [(Sample.account 60, 5)]) := by decide +kernel
  have hs : Address.ofValue sender = .ok (Sample.account 60) := by decide
  have hr : Address.ofValue receiver = .ok (Sample.account 61) := Address.ofValue_toValue _
  clear_value w
  have ht := tokenAt_plain hc
  obtain ⟨-,hdone,-⟩ := transfers_move_what_is_held ht hs hr 3
  obtain ⟨hrefused,-⟩ := transfers_move_what_is_held ht hs hr 9
  obtain ⟨t',-,ht',-,hbalances⟩ := hdone (by decide) (.inl (by decide))
  refine ⟨⟨t', ht', ?_, ?_⟩, hrefused (by decide)⟩
  · rw [hbalances]
    decide
  · rw [hbalances]
    decide

/-- On a new chain nobody but the owner can send nothing, though nothing is what everybody holds. -/
theorem nothing_is_not_sent_without_account :
    let w := (World.deployed Sample.account (some Sample.owner)).2
    (∃ t, (tokenAt 2 w).1 = .ok t ∧ 0 ≤ t.balanceOf (Sample.account 61)) ∧
      transfer 2 (Sample.account 61).toValue (Sample.account 60).toValue 0 w =
        (.error .missingKey, w) := by
  intro w
  have hc : w.content 2 = .token (Sample.ether []) := by decide +kernel
  clear_value w
  have ht := tokenAt_plain hc
  refine ⟨⟨_, ht, by decide⟩, ?_⟩
  rw [transfer_run ht (Address.ofValue_toValue _) (Address.ofValue_toValue _),
    Token.transfer_unheld _ (by decide) (by decide)]
  rfl

end Basketry.Chain
