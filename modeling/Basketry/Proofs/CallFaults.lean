import Basketry.Proofs.Transfers
import Basketry.Proofs.Transactions
import Basketry.Proofs.Effects

namespace Basketry

/-- Something good is read exactly where it is legible, and what is not legible is no refusal. -/
structure ReadWhere (legible : Prop) (good : α → Prop) (outcome : Except Fault α) : Prop where
  ok : legible → ∃ x, outcome = .ok x ∧ good x
  fault : ¬ legible → ∃ fault, outcome = .error fault ∧ ∀ reason, fault ≠ .revert reason

namespace ReadWhere
variable {p q : Prop} {good : α → Prop} {fine : β → Prop}

theorem pure {x : α} (h : good x) : ReadWhere True good (.ok x) :=
  ⟨fun _ => ⟨x, rfl, h⟩, fun hn => absurd trivial hn⟩

theorem ite [Decidable p] {x : α} {fault : Fault} (h : p → good x)
    (hf : ∀ reason, fault ≠ .revert reason) :
    ReadWhere p good (if p then .ok x else .error fault) :=
  ⟨fun hp => ⟨x, if_pos hp, h hp⟩, fun hp => ⟨fault, if_neg hp, hf⟩⟩

/-- What is read next may depend on what was read first, but not where it is legible. -/
theorem bind {a : Except Fault α} {f : α → Except Fault β} (ha : ReadWhere p good a)
    (hf : ∀ x, good x → ReadWhere q fine (f x)) : ReadWhere (p ∧ q) fine (a >>= f) := by
  by_cases hp : p
  · obtain ⟨x,hx,hgood⟩ := ha.ok hp
    have hrest := hf x hgood
    rw [hx]
    exact ⟨fun h => hrest.ok h.2, fun h => hrest.fault fun hq => h ⟨hp, hq⟩⟩
  · obtain ⟨fault,hfault,hn⟩ := ha.fault hp
    rw [hfault]
    exact ⟨fun h => absurd h.1 hp, fun _ => ⟨fault, rfl, hn⟩⟩

theorem congr {outcome : Except Fault α} (h : ReadWhere p good outcome) (hpq : p ↔ q) :
    ReadWhere q good outcome :=
  ⟨fun hq => h.ok (hpq.mpr hq), fun hq => h.fault fun hp => hq (hpq.mp hp)⟩

/-- What is made of something that was read. -/
theorem map {a : Except Fault α} {f : α → Except Fault β} (ha : ReadWhere p good a)
    (hf : ∀ x, good x → ∃ y, f x = .ok y ∧ fine y) : ReadWhere p fine (a >>= f) := by
  have hread : ∀ x, good x → ReadWhere True fine (f x) := by
    intro x hx
    obtain ⟨y,hy,hfine⟩ := hf x hx
    rw [hy]
    exact .pure hfine
  exact (ha.bind hread).congr (iff_of_eq (and_true p))

end ReadWhere

namespace Abi

theorem window_readWhere (data : List UInt8) (pos : Nat) :
    ReadWhere (pos + 32 ≤ data.length) (fun slot => slot = (data.drop pos).take 32 ∧ slot.length = 32)
      (window data pos 32) := by
  refine ReadWhere.congr (.ite (fun h => ⟨rfl, h⟩) nofun) ?_
  rw [List.length_take, List.length_drop]
  omega

theorem lowBytes_readWhere {slot : List UInt8} (hl : slot.length = 32) :
    ReadWhere (∀ x ∈ slot.take 12, x = 0) (fun bs => bs.length = 20) (lowBytes slot 20 0) := by
  refine ReadWhere.congr (.ite (fun _ => ?_) nofun) ?_
  · simp [hl]
  · simp

theorem decode_uint256_readWhere (data : List UInt8) (pos : Nat) :
    ReadWhere (pos + 32 ≤ data.length) (fun x => ∃ n : Nat, x = .number n)
      (decode (.uint 32) data pos) := by
  rw [decode]
  refine (window_readWhere data pos).map fun slot _ => ?_
  exact ⟨_, rfl, _, rfl⟩

/-- An address stands behind twelve bytes that are zero. -/
theorem decode_address_readWhere (data : List UInt8) (pos : Nat) :
    ReadWhere (pos + 32 ≤ data.length ∧ ∀ x ∈ (data.drop pos).take 12, x = 0)
      (fun x => ∃ a, x = .account a) (decode .address data pos) := by
  rw [decode]
  refine (window_readWhere data pos).bind fun slot ⟨hslot,hl⟩ => ?_
  have hclean : slot.take 12 = (data.drop pos).take 12 := by simp [hslot, List.take_take]
  rw [← hclean]
  refine (lowBytes_readWhere hl).map fun bs hbs => ?_
  simp only [Address.ofBytes?, hbs, ↓reduceDIte]
  exact ⟨_, rfl, _, rfl⟩

theorem decodeMembers_nil_readWhere (data : List UInt8) (base start : Nat) :
    ReadWhere True (fun xs => xs = []) (decodeMembers [] data base start) := by
  rw [decodeMembers]
  exact .pure rfl

theorem decodeMembers_cons_readWhere {t : Ty} {ts : List Ty} {data : List UInt8} {start : Nat}
    {p q : Prop} {good : Datum → Prop} {fine : List Datum → Prop} (base : Nat)
    (ht : t.isDynamic = false) (hx : ReadWhere p good (decode t data start))
    (hxs : ReadWhere q fine (decodeMembers ts data base (start + t.headSize))) :
    ReadWhere (p ∧ q) (fun xs => ∃ y ys, good y ∧ fine ys ∧ xs = y :: ys)
      (decodeMembers (t :: ts) data base start) := by
  rw [decodeMembers_static ht]
  exact hx.bind fun y hy => hxs.map fun ys hys => ⟨_, rfl, y, ys, hy, hys, rfl⟩

end Abi

namespace Chain.TokenCall
open CallData (selector)

/-- How many bytes the arguments of a call take at least. -/
def argumentSize (bs : List UInt8) : Nat :=
  if bs.take 4 = selector claimRewardsSignature then 32 else 64

/-- Arguments that can be read: there are enough bytes of them, and zeros in front of the address. What is
behind them does not matter. -/
structure Legible (bs : List UInt8) : Prop where
  long : 4 + argumentSize bs ≤ bs.length
  clean : ∀ x ∈ (bs.drop 4).take 12, x = 0

/-- A call that a token can be asked for: no amount is negative, and rewards are known to an adapter only. -/
def Known (adapter : Bool) : TokenCall → Prop
  | .transfer _ amount | .mint _ amount => 0 ≤ amount
  | .claimRewards _ => adapter = true

section Decoding
variable {adapter : Bool} {bs : List UInt8}

theorem account_readWhere (make : Address → TokenCall) (hl : 4 ≤ bs.length)
    (hsize : argumentSize bs = 32) (hm : ∀ a, (make a).Known adapter) :
    ReadWhere (Legible bs) (Known adapter) (account make (bs.drop 4)) := by
  unfold account
  rw [Abi.decodeArguments_static rfl]
  have hread := Abi.decodeMembers_cons_readWhere 0 rfl (Abi.decode_address_readWhere (bs.drop 4) 0)
    (Abi.decodeMembers_nil_readWhere _ 0 _)
  rw [List.length_drop, List.drop_zero] at hread
  refine ReadWhere.congr (hread.map fun xs hxs => ?_) ?_
  · obtain ⟨_,_,⟨a,rfl⟩,rfl,rfl⟩ := hxs
    exact ⟨_, rfl, hm a⟩
  · constructor
    · rintro ⟨⟨hlong,hclean⟩,-⟩
      exact ⟨by omega, hclean⟩
    · rintro ⟨hlong,hclean⟩
      exact ⟨⟨by omega, hclean⟩, trivial⟩

theorem accountAndAmount_readWhere (make : Address → Int → TokenCall) (hl : 4 ≤ bs.length)
    (hsize : argumentSize bs = 64) (hm : ∀ a n, 0 ≤ n → (make a n).Known adapter) :
    ReadWhere (Legible bs) (Known adapter) (accountAndAmount make (bs.drop 4)) := by
  unfold accountAndAmount
  rw [Abi.decodeArguments_static rfl]
  have hamount := Abi.decodeMembers_cons_readWhere 0 rfl (Abi.decode_uint256_readWhere (bs.drop 4) 32)
    (Abi.decodeMembers_nil_readWhere _ 0 _)
  have hread := Abi.decodeMembers_cons_readWhere 0 rfl (Abi.decode_address_readWhere (bs.drop 4) 0)
    hamount
  rw [List.length_drop, List.drop_zero] at hread
  refine ReadWhere.congr (hread.map fun xs hxs => ?_) ?_
  · obtain ⟨_,_,⟨a,rfl⟩,⟨_,_,⟨n,rfl⟩,rfl,rfl⟩,rfl⟩ := hxs
    exact ⟨_, rfl, hm a n (Int.natCast_nonneg n)⟩
  · constructor
    · rintro ⟨⟨_,hclean⟩,hlong,-⟩
      exact ⟨by omega, hclean⟩
    · rintro ⟨hlong,hclean⟩
      exact ⟨⟨by omega, hclean⟩, by omega, trivial⟩

/-- A call that begins with a selector is read exactly where its arguments are legible. -/
theorem decode_readWhere (h : bs.take 4 ∈ selectors adapter) :
    ReadWhere (Legible bs) (Known adapter) (decode adapter bs) := by
  have hl : 4 ≤ bs.length := by
    have := length_of_mem_selectors h
    rw [List.length_take] at this
    omega
  have htransfer : selector transferSignature ≠ selector claimRewardsSignature := by
    rw [transfer_selector, claimRewards_selector]
    decide
  have hmint : selector mintSignature ≠ selector claimRewardsSignature := by
    rw [mint_selector, claimRewards_selector]
    decide
  simp only [decode]
  split
  · rename_i hs
    exact accountAndAmount_readWhere .transfer hl (if_neg (hs ▸ htransfer)) fun _ _ hn => hn
  split
  · rename_i hs
    exact accountAndAmount_readWhere .mint hl (if_neg (hs ▸ hmint)) fun _ _ hn => hn
  split
  · rename_i hs
    exact account_readWhere .claimRewards hl (if_pos hs.2) fun _ => hs.1
  · rename_i hntransfer hnmint hnclaim
    rcases mem_selectors.mp h with hs | hs | hs
    · exact absurd hs hntransfer
    · exact absurd hs hnmint
    · exact absurd hs hnclaim

end Decoding

end Chain.TokenCall

namespace Chain
variable {w v : World} {ref : Ref} {adapter : Bool} {a b : Address} {bs : List UInt8}

section Transfers
variable {t : Token}

/-- Only somebody without an account who sends nothing is neither refused nor served. -/
theorem Token.transfer_cases (t : Token) (sender receiver : Address) {n : Int} (h : 0 ≤ n) :
    (t.balances.get? sender = none ∧ n = 0 ∧ t.transfer sender receiver n = .error .missingKey) ∨
    (t.balances.get? sender ≠ none ∨ n ≠ 0) ∧
      ((∃ t', t.transfer sender receiver n = .ok t') ∨
        t.transfer sender receiver n = .error (.revert "ERC20: transfer amount exceeds balance")) := by
  by_cases haccount : t.HasAccount sender
  · refine .inr ⟨.inl (hasAccount_iff.mp haccount), ?_⟩
    by_cases hn : t.balanceOf sender < n
    · exact .inr (transfer_uncovered receiver hn)
    · obtain ⟨t',ht',-⟩ := transfer_done receiver (Int.not_lt.mp hn) haccount
      exact .inl ⟨t', ht'⟩
  · have hnone := not_not.mp (mt hasAccount_iff.mpr haccount)
    have hzero := balanceOf_of_no_account haccount
    by_cases hn : n = 0
    · exact .inl ⟨hnone, hn, transfer_unheld receiver (by omega) haccount⟩
    · exact .inr ⟨.inr hn, .inr (transfer_uncovered receiver (by omega))⟩

end Transfers

theorem settled_error {fault : Fault} :
    Settled (.error fault : Except Fault α) ↔ ∃ reason, fault = .revert reason :=
  ⟨fun h => h fault rfl, fun h _ he => Except.error.inj he ▸ h⟩

/-- An ending that is settled unless `p`, and whatever fails leaves the world as it was. -/
structure SettlesUnless (p : Prop) (w : World) (ending : Except Fault α × World) : Prop where
  settled : Settled ending.1 ↔ ¬ p
  unchanged : ∀ fault, ending.1 = .error fault → ending.2 = w

namespace SettlesUnless
variable {p : Prop}

theorem done (hn : ¬ p) {x : α} : SettlesUnless p w (.ok x, v) :=
  ⟨iff_of_true nofun hn, nofun⟩

theorem refused (hn : ¬ p) {reason : String} :
    SettlesUnless (α := α) p w (.error (.revert reason), w) :=
  ⟨iff_of_true (settled_error.mpr ⟨reason, rfl⟩) hn, fun _ _ => rfl⟩

theorem broken (hp : p) {fault : Fault} (hf : ∀ reason, fault ≠ .revert reason) :
    SettlesUnless (α := α) p w (.error fault, w) := by
  refine ⟨iff_of_false (fun h => ?_) (not_not_intro hp), fun _ _ => rfl⟩
  obtain ⟨reason,hr⟩ := settled_error.mp h
  exact hf reason hr

theorem congr {q : Prop} {ending : Except Fault α × World} (h : SettlesUnless p w ending)
    (hpq : p ↔ q) : SettlesUnless q w ending :=
  ⟨h.settled.trans (not_congr hpq), h.unchanged⟩

theorem answer {a : Run α} (h : SettlesUnless p w (a w)) (f : α → β) :
    SettlesUnless p w ((a >>= fun x => pure (f x)) w) := by
  rw [answer_run]
  obtain ⟨hsettled,hunchanged⟩ := h
  cases hx : (a w).1 with
  | ok x =>
    rw [hx] at hsettled
    exact .done (hsettled.mp nofun)
  | error fault =>
    rw [hx, settled_error] at hsettled
    exact ⟨settled_error.trans hsettled, fun _ _ => hunchanged fault hx⟩

end SettlesUnless

/-- A transfer of nothing from somebody who has no account with the token. -/
def World.Unheld (w : World) (ref : Ref) (sender : Address) (c : TokenCall) : Prop :=
  ∃ t receiver, (tokenAt ref w).1 = .ok t ∧ t.balances.get? sender = none ∧ c = .transfer receiver 0

theorem World.Answering.token_ok (h : w.Answering a ref adapter) : ∃ t, (tokenAt ref w).1 = .ok t := by
  unfold tokenAt
  rw [content_bind]
  cases h with
  | token hf hc => exact ⟨_, by rw [hc]; rfl⟩
  | adapter hf hc => exact ⟨_, by rw [hc]; rfl⟩

theorem World.Answering.eq {ref' : Ref} {adapter' : Bool} (h : w.Answering a ref adapter)
    (h' : w.Answering a ref' adapter') : ref' = ref ∧ adapter' = adapter := by
  cases h <;> cases h' <;> simp_all

theorem transfer_settles {t : Token} (ht : (tokenAt ref w).1 = .ok t) (sender receiver : Address) {n : Int}
    (h : 0 ≤ n) : SettlesUnless (w.Unheld ref sender (.transfer receiver n)) w
      (transfer ref sender.toValue receiver.toValue n w) := by
  have hheld : t.balances.get? sender ≠ none ∨ n ≠ 0 → ¬ w.Unheld ref sender (.transfer receiver n) := by
    rintro h ⟨t',_,ht',hg,hc⟩
    cases ht.symm.trans ht'
    cases hc
    exact h.elim (absurd hg) (absurd rfl)
  rw [transfer_run ht (Address.ofValue_toValue _) (Address.ofValue_toValue _)]
  obtain ⟨hg,rfl,hr⟩ | ⟨hn,⟨t',hr⟩ | hr⟩ := t.transfer_cases sender receiver h
  · rw [hr]
    exact .broken ⟨t, receiver, ht, hg, rfl⟩ nofun
  · rw [hr]
    change SettlesUnless _ w (setToken ref t' w)
    rw [setToken_run]
    exact .done (hheld hn)
  · rw [hr]
    exact .refused (hheld hn)

theorem perform_settles (h : w.Answering a ref adapter) (sender : Address) {c : TokenCall}
    (hc : c.Known adapter) : SettlesUnless (w.Unheld ref sender c) w (perform ref sender c w) := by
  obtain ⟨t,ht⟩ := h.token_ok
  cases c with
  | transfer receiver n => exact (transfer_settles ht sender receiver hc).answer _
  | mint receiver n =>
    have hminted := (mint_run ht receiver n).trans (setToken_run ref (t.mint receiver n) w)
    rw [perform, bind_of_ok hminted]
    refine .done ?_
    rintro ⟨_,_,_,_,hc⟩
    cases hc
  | claimRewards holder =>
    cases h with
    | token => cases hc
    | adapter hf hx =>
      rw [perform_claimRewards hx]
      refine .done ?_
      rintro ⟨_,_,_,_,hc⟩
      cases hc

section Calls
variable {sender target data : Value}

/-- A call that begins with a selector of what answers it, and that cannot be read or asks for a transfer of
nothing from somebody without an account. -/
structure World.Breaks (w : World) (sender : Address) (bs : List UInt8) (ref : Ref) (adapter : Bool) :
    Prop where
  selected : bs.take 4 ∈ TokenCall.selectors adapter
  broken : ¬ TokenCall.Legible bs ∨
    ∃ c, TokenCall.decode adapter bs = .ok c ∧ w.Unheld ref sender c

/-- What answers a call reads it or not, and does what it says or not. -/
theorem call_answered_settles (hs : Address.ofValue sender = .ok b)
    (ht : Address.ofValue target = .ok a) (hd : CallData.bytesOfValue data = .ok bs)
    (h : w.Answering a ref adapter) :
    SettlesUnless (w.Breaks b bs ref adapter) w (call sender target data w) := by
  rw [call_run hs ht hd h]
  by_cases hsel : bs.take 4 ∈ TokenCall.selectors adapter
  · have hread := TokenCall.decode_readWhere hsel
    by_cases hl : TokenCall.Legible bs
    · obtain ⟨c,hc,hknown⟩ := hread.ok hl
      rw [hc]
      refine (perform_settles h b hknown).congr ⟨fun hu => ⟨hsel, .inr ⟨c, hc, hu⟩⟩, ?_⟩
      rintro ⟨-,hn | ⟨c',hc',hu⟩⟩
      · exact absurd hl hn
      · cases hc.symm.trans hc'
        exact hu
    · obtain ⟨fault,hfault,hn⟩ := hread.fault hl
      rw [hfault]
      exact .broken ⟨hsel, .inl hl⟩ hn
  · rw [TokenCall.decode_unselected hsel]
    exact .refused fun hb => hsel hb.selected

theorem call_settles (hs : Address.ofValue sender = .ok b) (ht : Address.ofValue target = .ok a)
    (hd : CallData.bytesOfValue data = .ok bs) :
    SettlesUnless (∃ ref adapter, w.Answering a ref adapter ∧ w.Breaks b bs ref adapter) w
      (call sender target data w) := by
  obtain ⟨ref,adapter,h⟩ | ⟨hn,hrun⟩ := call_cases ht
  · refine (call_answered_settles hs ht hd h).congr ⟨fun hb => ⟨ref, adapter, h, hb⟩, ?_⟩
    rintro ⟨ref',adapter',h',hb⟩
    obtain ⟨rfl,rfl⟩ := h.eq h'
    exact hb
  · rw [hrun]
    exact .done fun ⟨ref,adapter,h,_⟩ => hn ref adapter h

end Calls

section Blocks
variable {steps rest : List Step} {answers : List Answer} {s : Step} {fault : Fault} {u : World}

/-- Steps go no further than to the first that fails. -/
theorem runSteps_fault (h : runSteps steps w = (.ok answers, v)) (hs : s.run v = (.error fault, u)) :
    runSteps (steps ++ s :: rest) w = (.error fault, u) := by
  induction steps generalizing w answers with
  | nil =>
    cases h
    rw [List.nil_append, runSteps_cons, bind_run, hs]
  | cons first steps ih =>
    rw [runSteps_cons] at h
    obtain ⟨x,z,hx,h⟩ := bind_ok h
    obtain ⟨xs,z',hxs,h⟩ := bind_ok h
    cases h
    rw [List.cons_append, runSteps_cons, bind_of_ok hx, answer_run, ih hxs]
    rfl

theorem call_step {sender target data : Value} (h : call sender target data w = (.error fault, v)) :
    (Step.operation (.call sender target data)).run w = (.error fault, v) := by
  rw [Step.run, Operation.run, answer_run, h]
  rfl

/-- A block is undone by a step that is refused, and by no other fault. -/
theorem transaction_fault (h : runSteps steps w.snapshot.2 = (.ok answers, v))
    (hs : s.run v = (.error fault, u)) :
    (Step.transaction (steps ++ s :: rest)).run w = u.settle w.snapshots.length (.error fault) := by
  rw [transaction_run, runSteps_fault h hs]
  rfl

end Blocks

/-- Whatever bytes a call is made with, from whatever address to whatever address, it changes nothing
unless it succeeds. It succeeds or is refused, but for two cases: what it calls knows its selector and
cannot read its arguments, or it asks for a transfer of nothing from somebody who never had an account.
A block in which a call is refused is undone, and a block in which one breaks off so stays as it is. -/
theorem calls_settle_unless_they_break (w : World) (sender target data : Value) (b a : Address)
    (bs : List UInt8) (hs : Address.ofValue sender = .ok b) (ht : Address.ofValue target = .ok a)
    (hd : CallData.bytesOfValue data = .ok bs) :
    (∀ fault, (call sender target data w).1 = .error fault → (call sender target data w).2 = w) ∧
    (Settled (call sender target data w).1 ↔
      ¬ ∃ ref adapter, w.Answering a ref adapter ∧ w.Breaks b bs ref adapter) ∧
    ∀ v steps rest answers fault, runSteps steps v.snapshot.2 = (.ok answers, w) →
      (call sender target data w).1 = .error fault →
      let block := Step.transaction (steps ++ .operation (.call sender target data) :: rest)
      ((∃ reason, fault = .revert reason) → AllSpare (v.snapshots.length + 1) steps →
        ∃ u, block.run v = (.error fault, u) ∧ v.SameState u ∧ u.snapshots = v.snapshots) ∧
      ((∀ reason, fault ≠ .revert reason) → block.run v = (.error fault, w)) := by
  obtain ⟨hsettled,hunchanged⟩ := call_settles (w := w) hs ht hd
  refine ⟨hunchanged, hsettled, ?_⟩
  intro v steps rest answers fault hsteps hfault block
  have hcall : call sender target data w = (.error fault, w) :=
    Prod.ext hfault (hunchanged fault hfault)
  have hblock : block.run v = w.settle v.snapshots.length (.error fault) :=
    transaction_fault hsteps (call_step hcall)
  constructor
  · rintro ⟨reason,rfl⟩ hown
    obtain ⟨hl,htake,hget⟩ := runSteps_below hown
    rw [hsteps] at hl htake hget
    have hsame : v.SameState ({ w with snapshots := v.snapshots }.restore v.shot) :=
      World.sameState_restore hl
    refine ⟨_, ?_, hsame, World.snapshots_restore _ _⟩
    rw [hblock, World.settle_refusal, hget, htake]
  · intro hn
    rw [hblock, World.settle_fault hn]

namespace Sample

/-- The call by which an amount goes to a holder. -/
def transferCall (amount : Int) : List UInt8 :=
  CallData.selector TokenCall.transferSignature ++
    Abi.encodeArguments [.address, .uint 32] [.account (account 61), .number amount]

def payment : List Step := [.operation (.mint 2 manager 5)]

def paid : World := (runSteps payment world.snapshot.2).2

/-- A block that pays somebody and then makes a call in his name. -/
def paidCall (data : List UInt8) : Step :=
  .transaction (payment ++ [.operation (.call manager pool (.bytes data))])

theorem payment_ok : ∃ answers, runSteps payment world.snapshot.2 = (.ok answers, paid) := by
  obtain ⟨answers,v,hv⟩ : ∃ answers v, runSteps payment world.snapshot.2 = (.ok answers, v) :=
    ok_of_fault? (by decide +kernel)
  exact ⟨answers, run_of_answer (congrArg Prod.fst hv)⟩

theorem sent_by_manager (h : w.Answering (account 2) 2 false) (bs : List UInt8) :
    call manager pool (.bytes bs) w =
      ((liftM (TokenCall.decode false bs) : Run TokenCall) >>= perform 2 (account 60)) w := by
  have hsender : Address.ofValue manager = .ok (account 60) := Address.ofValue_toValue _
  have htarget : Address.ofValue pool = .ok (account 2) := Address.ofValue_toValue _
  exact call_run hsender htarget rfl h

theorem call_decoded (h : w.Answering (account 2) 2 false) {c : TokenCall}
    (hc : TokenCall.decode false bs = .ok c) :
    call manager pool (.bytes bs) w = perform 2 (account 60) c w := by
  rw [sent_by_manager h, hc]
  rfl

theorem call_undecoded (h : w.Answering (account 2) 2 false) {fault : Fault}
    (hc : TokenCall.decode false bs = .error fault) :
    call manager pool (.bytes bs) w = (.error fault, w) := by
  rw [sent_by_manager h, hc]
  rfl

end Sample

theorem calls_settle_unless_they_break_refused :
    let data := Sample.transferCall 9
    (call Sample.manager Sample.pool (.bytes data) Sample.paid).2 = Sample.paid ∧
      (¬ ∃ ref adapter, Sample.paid.Answering (Sample.account 2) ref adapter ∧
        Sample.paid.Breaks (Sample.account 60) data ref adapter) ∧
      ∃ u, (Sample.paidCall data).run Sample.world =
          (.error (.revert "ERC20: transfer amount exceeds balance"), u) ∧
        Sample.world.SameState u ∧ u.snapshots = Sample.world.snapshots := by
  intro data
  obtain ⟨answers,hpaid⟩ := Sample.payment_ok
  have hdecode : TokenCall.decode false data = .ok (.transfer (Sample.account 61) 9) :=
    TokenCall.decode_transfer false _ (by decide) (by decide)
  have hperform : (perform 2 (Sample.account 60) (.transfer (Sample.account 61) 9) Sample.paid).1 =
      .error (.revert "ERC20: transfer amount exceeds balance") := by decide +kernel
  have hcall : (call Sample.manager Sample.pool (.bytes data) Sample.paid).1 =
      .error (.revert "ERC20: transfer amount exceeds balance") := by
    rw [Sample.call_decoded (by decide +kernel) hdecode]
    exact hperform
  have hown : AllSpare (Sample.world.snapshots.length + 1) Sample.payment := ⟨trivial, trivial⟩
  obtain ⟨hunchanged,hsettled,hblock⟩ := calls_settle_unless_they_break Sample.paid Sample.manager
    Sample.pool (.bytes data) _ _ data (Address.ofValue_toValue _) (Address.ofValue_toValue _) rfl
  refine ⟨hunchanged _ hcall, hsettled.mp ?_, ?_⟩
  · rw [hcall]
    exact settled_error.mpr ⟨_, rfl⟩
  · obtain ⟨hrefused,-⟩ := hblock Sample.world _ [] _ _ hpaid hcall
    exact hrefused ⟨_, rfl⟩ hown

/-- A call that is cut short, one whose address is not clean, and one that transfers nothing break off,
and the block of the first keeps what it paid. -/
theorem some_calls_are_not_refused :
    let cut := CallData.selector TokenCall.transferSignature
    let dirty := cut ++ List.replicate 64 1
    (call Sample.manager Sample.pool (.bytes cut) Sample.world).1 = .error .shortData ∧
      (call Sample.manager Sample.pool (.bytes dirty) Sample.world).1 = .error .dirtyPadding ∧
      (call Sample.manager Sample.pool (.bytes (Sample.transferCall 0)) Sample.world).1 =
        .error .missingKey ∧
      (Sample.paidCall cut).run Sample.world = (.error .shortData, Sample.paid) ∧
      Sample.paid.content 2 ≠ Sample.world.content 2 := by
  intro cut dirty
  obtain ⟨answers,hpaid⟩ := Sample.payment_ok
  have hcut : TokenCall.decode false cut = .error .shortData := by
    simp only [cut, TokenCall.decode, transfer_selector]
    decide +kernel
  have hdirty : TokenCall.decode false dirty = .error .dirtyPadding := by
    simp only [dirty, cut, TokenCall.decode, transfer_selector]
    decide +kernel
  have hzero : TokenCall.decode false (Sample.transferCall 0) =
      .ok (.transfer (Sample.account 61) 0) :=
    TokenCall.decode_transfer false _ (by decide) (by decide)
  have hperform : (perform 2 (Sample.account 60) (.transfer (Sample.account 61) 0) Sample.world).1 =
      .error .missingKey := by decide +kernel
  have hfound : Sample.world.Answering (Sample.account 2) 2 false := by decide +kernel
  have hfound' : Sample.paid.Answering (Sample.account 2) 2 false := by decide +kernel
  have hbroken := call_step (Sample.call_undecoded hfound' hcut)
  have hn : ∀ reason, Fault.shortData ≠ .revert reason := by
    intro reason h
    cases h
  refine ⟨?_, ?_, ?_, ?_, by decide +kernel⟩
  · rw [Sample.call_undecoded hfound hcut]
  · rw [Sample.call_undecoded hfound hdirty]
  · rw [Sample.call_decoded hfound hzero]
    exact hperform
  · rw [Sample.paidCall, transaction_fault hpaid hbroken, World.settle_fault hn]

end Chain

end Basketry
