import Basketry.Chain.Token
import Basketry.Morpho.Claim
import Basketry.Proofs.EncodedArguments

namespace Basketry

namespace Abi

theorem decode_uint {size start : Nat} {data : List UInt8} {x : Datum}
    (h : decode (.uint size) data start = .ok x) : ∃ n : Nat, x = .number n := by
  rw [decode] at h
  obtain ⟨slot,_,h⟩ := bind_eq_ok.mp h
  obtain ⟨bs,_,h⟩ := bind_eq_ok.mp h
  cases h
  exact ⟨_, rfl⟩

theorem decodeArguments_amount {t : Ty} {data : List UInt8} {x : Datum} {n : Int} {size : Nat}
    (ht : t.isDynamic = false) (h : decodeArguments [t, .uint size] data = .ok [x, .number n]) :
    0 ≤ n := by
  have hstatic : anyDynamic [t, .uint size] = false := by simp [anyDynamic, ht, Ty.isDynamic]
  rw [decodeArguments_static hstatic, decodeMembers_static ht] at h
  obtain ⟨y,_,h⟩ := bind_eq_ok.mp h
  obtain ⟨ys,hys,h⟩ := bind_eq_ok.mp h
  rw [decodeMembers_static rfl] at hys
  obtain ⟨z,hz,hys⟩ := bind_eq_ok.mp hys
  obtain ⟨m,rfl⟩ := decode_uint hz
  cases hys
  cases h
  exact Int.natCast_nonneg m

theorem decode_account (a : Address) :
    decodeArguments [.address] (encodeArguments [.address] [Datum.account a]) = .ok [.account a] := by
  refine decodeArguments_encodeArguments (.cons (.address a) .nil) (reach_static ?_)
  simp [Ty.isDynamic]

theorem decode_accountAndAmount (a : Address) {n : Int} (h : 0 ≤ n) (hn : n < BigEndian.count 32) :
    decodeArguments [.address, .uint 32]
      (encodeArguments [.address, .uint 32] [Datum.account a, Datum.number n]) =
        .ok [.account a, .number n] := by
  refine decodeArguments_encodeArguments ?_ (reach_static ?_)
  · exact .cons (.address a) (.cons (.uint (by decide) h hn) .nil)
  · simp [Ty.isDynamic]

end Abi

namespace Chain
open CallData (selector)

theorem transfer_selector : selector TokenCall.transferSignature = [0xa9, 0x05, 0x9c, 0xbb] := by
  decide +kernel

theorem mint_selector : selector TokenCall.mintSignature = [0x40, 0xc1, 0x0f, 0x19] := by
  decide +kernel

theorem claimRewards_selector :
    selector TokenCall.claimRewardsSignature = [0xef, 0x5c, 0xfb, 0x8c] := by decide +kernel

theorem distributor_selector :
    selector Morpho.ClaimAdapter.signature = [0xfa, 0xbe, 0xd4, 0x12] := by decide +kernel

namespace TokenCall

/-- A call of an amount that is not negative. -/
def Nonnegative : TokenCall → Prop
  | .transfer _ amount | .mint _ amount => 0 ≤ amount
  | .claimRewards _ => True

theorem accountAndAmount_nonnegative {make : Address → Int → TokenCall} {data : List UInt8}
    {c : TokenCall} (hm : ∀ a n, 0 ≤ n → (make a n).Nonnegative)
    (h : accountAndAmount make data = .ok c) : c.Nonnegative := by
  obtain ⟨xs,hx,h⟩ := bind_eq_ok.mp h
  split at h
  · rename_i a n
    cases h
    exact hm a n (Abi.decodeArguments_amount rfl hx)
  · cases h

/-- Amounts arrive as numbers without sign. -/
theorem decode_nonnegative {adapter : Bool} {data : List UInt8} {c : TokenCall}
    (h : decode adapter data = .ok c) : c.Nonnegative := by
  simp only [decode] at h
  split at h
  · refine accountAndAmount_nonnegative ?_ h
    exact fun _ _ hn => hn
  split at h
  · refine accountAndAmount_nonnegative ?_ h
    exact fun _ _ hn => hn
  split at h
  · obtain ⟨xs,_,h⟩ := bind_eq_ok.mp h
    split at h
    · cases h
      trivial
    · cases h
  · cases h

theorem accountAndAmount_encoded (make : Address → Int → TokenCall) (a : Address) {n : Int}
    (h : 0 ≤ n) (hn : n < BigEndian.count 32) :
    accountAndAmount make (Abi.encodeArguments [.address, .uint 32] [.account a, .number n]) =
      .ok (make a n) := by
  rw [accountAndAmount, Abi.decode_accountAndAmount a h hn]
  rfl

theorem decode_transfer (adapter : Bool) (a : Address) {n : Int} (h : 0 ≤ n)
    (hn : n < BigEndian.count 32) :
    decode adapter (selector transferSignature ++
      Abi.encodeArguments [.address, .uint 32] [.account a, .number n]) = .ok (.transfer a n) := by
  simp [decode, transfer_selector, accountAndAmount_encoded _ a h hn]

theorem decode_claimRewards (set : Address) :
    decode true (selector claimRewardsSignature ++
      Abi.encodeArguments [.address] [.account set]) = .ok (.claimRewards set) := by
  simp [decode, transfer_selector, mint_selector, claimRewards_selector, account,
    Abi.decode_account, bind, Except.bind, pure, Except.pure]

theorem decode_unknown (adapter : Bool) (arguments : List UInt8) :
    decode adapter (selector Morpho.ClaimAdapter.signature ++ arguments) =
      .error (.revert "Function selector was not recognized") := by
  simp [decode, transfer_selector, mint_selector, claimRewards_selector, distributor_selector]

end TokenCall

/-- The call by which a set claims is read by the adapter as a claim for this set. -/
theorem ClaimAdapter.claimCall_ok {a : ClaimAdapter} {set : Address} {c : CallData}
    (h : a.claimCall set = .ok c) :
    c.target = a.token.address ∧ TokenCall.decode true c.data = .ok (.claimRewards set) := by
  have hset : Abi.Datum.ofArguments [.address] [set.toValue] = .ok [.account set] := by
    simp [Abi.Datum.ofArguments, Abi.Datum.ofValues, Abi.Datum.ofValue, Abi.Datum.accountOf,
      Address.toValue, Address.ofBytes?, set.length_bytes, bind, Except.bind, pure, Except.pure]
  obtain ⟨data,hdata,h⟩ := bind_eq_ok.mp h
  obtain ⟨xs,hxs,hdata⟩ := bind_eq_ok.mp hdata
  rw [hset] at hxs
  cases hxs
  cases hdata
  cases h
  exact ⟨rfl, TokenCall.decode_claimRewards set⟩

/-- No token knows the call that a distributor answers. -/
theorem Morpho.claimCall_ok {m : Morpho.ClaimAdapter} {account pool claimData : Value}
    {c : CallData} (h : m.claimCall account pool claimData = .ok c) (adapter : Bool) :
    c.target = m.distributor ∧
      TokenCall.decode adapter c.data =
        .error (.revert "Function selector was not recognized") := by
  obtain ⟨data,_,h⟩ := bind_eq_ok.mp h
  obtain ⟨claim,_,h⟩ := bind_eq_ok.mp h
  obtain ⟨a,_,h⟩ := bind_eq_ok.mp h
  obtain ⟨p,_,h⟩ := bind_eq_ok.mp h
  cases h
  exact ⟨rfl, TokenCall.decode_unknown adapter _⟩

end Chain

end Basketry
