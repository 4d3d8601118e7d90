import Basketry.Swap.Uniswap
import Basketry.Swap.Slipstream
import Basketry.Proofs.PackedPaths

namespace Basketry

namespace CallData
open Abi (Ty Datum)

theorem pack_nil {bs : List UInt8} : pack [] [] = .ok bs ↔ bs = [] :=
  ⟨fun h => (Except.ok.inj h).symm, fun h => h ▸ rfl⟩

/-- Values are packed one after another. -/
theorem pack_cons {t : Ty} {ts : List Ty} {v : Value} {vs : List Value} {bs : List UInt8} :
    pack (t :: ts) (v :: vs) = .ok bs ↔
      ∃ x rest, Datum.ofValue t v = .ok x ∧ pack ts vs = .ok rest ∧ bs = Abi.packed t x ++ rest := by
  have hlength : (t :: ts).length = (v :: vs).length ↔ ts.length = vs.length := by simp
  by_cases h : ts.length = vs.length
  · simp only [pack, Datum.ofArguments, if_pos h, if_pos (hlength.mpr h), Datum.ofValues, bind_eq_ok]
    constructor
    · rintro ⟨xs,⟨x,hx,ys,hys,hxs⟩,hbs⟩
      cases hxs
      cases hbs
      exact ⟨x, _, hx, ⟨ys, hys, rfl⟩, rfl⟩
    · rintro ⟨x,rest,hx,⟨ys,hys,hrest⟩,rfl⟩
      cases hrest
      exact ⟨_, ⟨x, hx, ys, hys, rfl⟩, rfl⟩
  · simp only [pack, Datum.ofArguments, if_neg h, if_neg (mt hlength.mp h), error_bind]
    simp

end CallData

namespace Swap
open Abi (Ty Datum)

/-- The type as which a fee is packed. -/
def feeType (signed : Bool) : Ty := if signed then .int 3 else .uint 3

/-- Each token in front of its fee. -/
def interleaved : List Address → List Value → List Value
  | token :: tokens, fee :: fees => token.toValue :: fee :: interleaved tokens fees
  | _, _ => []

section Values
variable {signed : Bool}

theorem ranged_eq_ok {low high n : Int} {x : Datum} :
    Datum.ranged low high n = .ok x ↔ (low ≤ n ∧ n < high) ∧ x = .number n := by
  by_cases h : low ≤ n ∧ n < high
  · simp [Datum.ranged, h, eq_comm]
  · simp [Datum.ranged, h]

theorem ofValue_fee {v : Value} {x : Datum} :
    Datum.ofValue (feeType signed) v = .ok x ↔
      ∃ fee, v = .int fee ∧ IsFee signed fee ∧ x = .number fee := by
  cases v with
  | int n =>
    have hn : Datum.ofValue (feeType signed) (.int n) = .ok x ↔ IsFee signed n ∧ x = .number n := by
      cases signed <;> exact ranged_eq_ok
    rw [hn]
    constructor
    · exact fun h => ⟨n, rfl, h⟩
    · rintro ⟨_,⟨⟩,h⟩
      exact h
  | _ => cases signed <;> simp [feeType, Datum.ofValue]

theorem ofValue_token (a : Address) : Datum.ofValue .address a.toValue = .ok (.account a) := by
  rw [Datum.ofValue, Address.toValue, Datum.accountOf, Address.ofBytes?_eq_some.mpr rfl]
  rfl

theorem packed_fee (fee : Int) :
    Abi.packed (feeType signed) (.number fee) = BigEndian.ofInt feeWidth fee := by
  cases signed <;> simp [feeType, Abi.packed, feeWidth]

/-- Hops are made of tokens that are addresses. -/
theorem hopValues_eq_ok {tokens fees hops : List Value} (h : tokens.length = fees.length) :
    hopValues tokens fees = .ok hops ↔
      ∃ as : List Address, tokens.map Address.ofValue = as.map .ok ∧ hops = interleaved as fees := by
  induction tokens generalizing fees hops with
  | nil =>
    constructor
    · rintro ⟨⟩
      exact ⟨[], rfl, rfl⟩
    · rintro ⟨as,has,rfl⟩
      rw [List.map_eq_nil_iff.mp has.symm]
      rfl
  | cons token tokens ih =>
    obtain ⟨fee,fees,rfl⟩ := List.exists_cons_of_length_eq_add_one h.symm
    simp only [hopValues, bind_eq_ok, ih (Nat.succ.inj h), List.map_cons]
    constructor
    · rintro ⟨a,ha,_,⟨as,has,rfl⟩,⟨⟩⟩
      exact ⟨a :: as, by rw [ha, has, List.map_cons], rfl⟩
    · rintro ⟨as,has,rfl⟩
      obtain ⟨a,as,rfl,ha,has⟩ := List.map_eq_cons_iff.mp has.symm
      exact ⟨a, ha.symm, _, ⟨as, has.symm, rfl⟩, rfl⟩

/-- Interleaved tokens and fees with a last token are packed as their path. The induction is on the
fees, each of which takes the token in front of it. -/
theorem pack_interleaved {as : List Address} {last : Address} {fees vs : List Value} {ts : List Ty}
    {bs : List UInt8} (h : as.length = fees.length) :
    CallData.pack
        ((List.replicate fees.length [Ty.address, feeType signed]).flatten ++ .address :: ts)
        (interleaved as fees ++ last.toValue :: vs) = .ok bs ↔
      ∃ numbers rest, fees = numbers.map .int ∧ (∀ fee ∈ numbers, IsFee signed fee) ∧
        CallData.pack ts vs = .ok rest ∧ bs = Path.packed ⟨as ++ [last], numbers⟩ ++ rest := by
  induction fees generalizing as bs with
  | nil =>
    rw [List.eq_nil_of_length_eq_zero h]
    simp only [List.length_nil, List.replicate_zero, List.flatten_nil, List.nil_append, interleaved,
      CallData.pack_cons, ofValue_token]
    constructor
    · rintro ⟨_,rest,⟨⟩,hrest,rfl⟩
      exact ⟨[], rest, rfl, by simp, hrest, by simp [Path.packed, packHops, Abi.packed]⟩
    · rintro ⟨numbers,rest,hn,-,hrest,rfl⟩
      rw [List.map_eq_nil_iff.mp hn.symm]
      exact ⟨_, rest, rfl, hrest, by simp [Path.packed, packHops, Abi.packed]⟩
  | cons fee fees ih =>
    obtain ⟨a,as,rfl⟩ := List.exists_cons_of_length_eq_add_one h
    have hstep : ∀ n numbers, Path.packed ⟨a :: as ++ [last], n :: numbers⟩ =
        a.bytes ++ (BigEndian.ofInt feeWidth n ++ Path.packed ⟨as ++ [last], numbers⟩) := by
      intro n numbers
      cases as <;> rfl
    simp only [List.length_cons, List.replicate_succ, List.flatten_cons, List.cons_append,
      List.nil_append, interleaved, CallData.pack_cons, ofValue_token, ofValue_fee,
      ih (Nat.succ.inj h)]
    constructor
    · rintro ⟨_,_,⟨⟩,⟨_,_,⟨n,rfl,hn,rfl⟩,⟨numbers,rest,rfl,hf,hrest,rfl⟩,rfl⟩,rfl⟩
      refine ⟨n :: numbers, rest, rfl, by simpa using ⟨hn, hf⟩, hrest, ?_⟩
      rw [← List.cons_append, hstep, packed_fee, Abi.packed, List.append_assoc, List.append_assoc]
    · rintro ⟨numbers,rest,hn,hf,hrest,rfl⟩
      obtain ⟨n,numbers,rfl,rfl,rfl⟩ := List.map_eq_cons_iff.mp hn.symm
      rw [List.forall_mem_cons] at hf
      refine ⟨_, _, rfl, ⟨_, _, ⟨n, rfl, hf.1, rfl⟩, ⟨numbers, rest, rfl, hf.2, hrest, rfl⟩, rfl⟩, ?_⟩
      rw [← List.cons_append, hstep, packed_fee, Abi.packed, List.append_assoc, List.append_assoc]

end Values

theorem length_addresses {tokens : List Value} {as : List Address}
    (h : tokens.map Address.ofValue = as.map .ok) : tokens.length = as.length := by
  simpa using congrArg List.length h

theorem head?_addresses {tokens : List Value} {as : List Address}
    (h : tokens.map Address.ofValue = as.map .ok) :
    tokens.head?.map Address.ofValue = as.head?.map .ok := by
  rw [← List.head?_map, h, List.head?_map]

theorem getLast?_addresses {tokens : List Value} {as : List Address}
    (h : tokens.map Address.ofValue = as.map .ok) :
    tokens.getLast?.map Address.ofValue = as.getLast?.map .ok := by
  rw [← List.getLast?_map, h, List.getLast?_map]

/-- Addresses are tokens in their own right. -/
theorem map_toValue (as : List Address) :
    (as.map Address.toValue).map Address.ofValue = as.map .ok := by
  rw [List.map_map]
  exact List.map_congr_left fun a _ => Address.Written.bytes.ofValue

/-- A legal path is given by two tokens or more and by one fee less. -/
theorem Path.Legal.counts {signed : Bool} {p : Path} {tokens fees : List Value} (h : p.Legal signed)
    (ht : tokens.map Address.ofValue = p.tokens.map .ok) (hf : fees = p.fees.map .int) :
    ¬ (tokens.length < 2 ∨ fees.length ≠ tokens.length - 1) := by
  have htokens := length_addresses ht
  have hends := h.ends
  have hhops := h.hops
  rw [hf, List.length_map]
  omega

/-- What both adapters do: the numbers of tokens and fees are checked, the tokens are read, and the
path is packed in front of a trailer. -/
def packTokens (signed : Bool) (trailer : List Ty) (values : List Value) (refusal : Fault)
    (tokens fees : List Value) : Except Fault (List UInt8) :=
  match tokens.getLast? with
  | some last =>
    if tokens.length < 2 ∨ fees.length ≠ tokens.length - 1 then .error refusal
    else do
      let hops ← hopValues tokens.dropLast fees
      let last ← Address.ofValue last
      CallData.pack
        ((List.replicate fees.length [Ty.address, feeType signed]).flatten ++ .address :: trailer)
        (hops ++ last.toValue :: values)
  | none => .error refusal

section Packing
variable {signed : Bool} {trailer : List Ty} {front tokens fees values : List Value} {last : Value}
  {refusal : Fault} {bs : List UInt8}

theorem packTokens_of_counts (h : tokens.length < 2 ∨ fees.length ≠ tokens.length - 1) :
    packTokens signed trailer values refusal tokens fees = .error refusal := by
  rw [packTokens]
  cases tokens.getLast? with
  | none => rfl
  | some last => exact if_pos h

/-- In the right numbers the tokens in front are packed with the fees, and the last one behind. -/
theorem packTokens_concat (h : front.length = fees.length) (hhops : 1 ≤ fees.length) :
    packTokens signed trailer values refusal (front ++ [last]) fees = .ok bs ↔
      ∃ as a, front.map Address.ofValue = as.map .ok ∧ Address.ofValue last = .ok a ∧
        CallData.pack
          ((List.replicate fees.length [Ty.address, feeType signed]).flatten ++ .address :: trailer)
          (interleaved as fees ++ a.toValue :: values) = .ok bs := by
  have hcounts : ¬ ((front ++ [last]).length < 2 ∨ fees.length ≠ (front ++ [last]).length - 1) := by
    rw [List.length_append, List.length_singleton]
    omega
  simp only [packTokens, List.getLast?_concat, if_neg hcounts, List.dropLast_concat, bind_eq_ok,
    hopValues_eq_ok h]
  constructor
  · rintro ⟨_,⟨as,has,rfl⟩,a,ha,hpack⟩
    exact ⟨as, a, has, ha, hpack⟩
  · rintro ⟨as,a,has,ha,hpack⟩
    exact ⟨_, ⟨as, has, rfl⟩, a, ha, hpack⟩

theorem packTokens_eq_ok :
    packTokens signed trailer values refusal tokens fees = .ok bs ↔
      ∃ p : Path, tokens.map Address.ofValue = p.tokens.map .ok ∧ fees = p.fees.map .int ∧
        p.Legal signed ∧
        ∃ rest, CallData.pack trailer values = .ok rest ∧ bs = p.packed ++ rest := by
  by_cases hcounts : tokens.length < 2 ∨ fees.length ≠ tokens.length - 1
  · rw [packTokens_of_counts hcounts]
    constructor
    · rintro ⟨⟩
    · rintro ⟨p,ht,hf,hp,-⟩
      exact absurd hcounts (hp.counts ht hf)
  rcases List.eq_nil_or_concat tokens with rfl | ⟨front,last,rfl⟩
  · exact absurd (Or.inl Nat.two_pos) hcounts
  rw [List.concat_eq_append] at hcounts ⊢
  rw [List.length_append, List.length_singleton] at hcounts
  have hfront : front.length = fees.length := by omega
  rw [packTokens_concat hfront (by omega)]
  constructor
  · rintro ⟨as,a,has,ha,hpack⟩
    have hcount : as.length = fees.length := (length_addresses has).symm.trans hfront
    obtain ⟨numbers,rest,rfl,hf,hrest,rfl⟩ := (pack_interleaved hcount).mp hpack
    rw [List.length_map] at hcount hcounts
    refine ⟨⟨as ++ [a], numbers⟩, by simp [has, ha], rfl, ⟨?_, ?_, hf⟩, rest, hrest, rfl⟩
    · dsimp only
      omega
    · simp [hcount]
  · rintro ⟨⟨as,numbers⟩,has,rfl,hp,rest,hrest,rfl⟩
    rw [List.map_append] at has
    obtain ⟨as,ends,rfl,hfs,hls⟩ := List.map_eq_append_iff.mp has.symm
    obtain ⟨a,ends,rfl,ha,hnil⟩ := List.map_eq_cons_iff.mp hls
    obtain rfl := List.map_eq_nil_iff.mp hnil
    have hcount : as.length = (numbers.map Value.int).length :=
      (length_addresses hfs.symm).symm.trans hfront
    exact ⟨as, a, hfs.symm, ha.symm,
      (pack_interleaved hcount).mpr ⟨numbers, rest, rfl, hp.fees, hrest, rfl⟩⟩

end Packing

theorem UniswapAdapter.tradeData_eq_packTokens (tokens fees : List Value) (fixInput : Value) :
    tradeData tokens fees fixInput =
      packTokens false [.bool] [fixInput] (.revert "Invalid path length") tokens fees := by
  unfold tradeData packTokens
  cases tokens.getLast? with
  | none => rfl
  | some last =>
    dsimp only
    split <;> simp [dataTypes, feeType, error_bind]

theorem SlipstreamAdapter.pathData_eq_packTokens (tokens spacings : List Value) :
    pathData tokens spacings =
      packTokens true [] [] (reason "invalid input lengths") tokens spacings := by
  unfold pathData packTokens
  cases tokens.getLast? with
  | none => rfl
  | some last =>
    dsimp only
    split <;> simp [pathTypes, feeType, error_bind]

/-- Trade data is the packed path with the flag behind it. -/
theorem UniswapAdapter.tradeData_eq_ok {tokens fees : List Value} {fixInput : Value}
    {data : List UInt8} :
    tradeData tokens fees fixInput = .ok data ↔
      ∃ p : Path, tokens.map Address.ofValue = p.tokens.map .ok ∧ fees = p.fees.map .int ∧
        p.Legal false ∧ ∃ b : Bool, fixInput = .bool b ∧ data = p.packed ++ [if b then 1 else 0] := by
  have hflag : ∀ rest, CallData.pack [.bool] [fixInput] = .ok rest ↔
      ∃ b : Bool, fixInput = .bool b ∧ rest = [if b then 1 else 0] := by
    intro rest
    cases fixInput <;> simp [CallData.pack_cons, CallData.pack_nil, Datum.ofValue, Abi.packed]
  rw [tradeData_eq_packTokens, packTokens_eq_ok]
  simp only [hflag]
  constructor
  · rintro ⟨p,ht,hf,hp,rest,⟨b,hb,rfl⟩,hdata⟩
    exact ⟨p, ht, hf, hp, b, hb, hdata⟩
  · rintro ⟨p,ht,hf,hp,b,hb,hdata⟩
    exact ⟨p, ht, hf, hp, _, ⟨b, hb, rfl⟩, hdata⟩

/-- Path data is the packed path. -/
theorem SlipstreamAdapter.pathData_eq_ok {tokens spacings : List Value} {data : List UInt8} :
    pathData tokens spacings = .ok data ↔
      ∃ p : Path, tokens.map Address.ofValue = p.tokens.map .ok ∧ spacings = p.fees.map .int ∧
        p.Legal true ∧ data = p.packed := by
  rw [pathData_eq_packTokens, packTokens_eq_ok]
  simp [CallData.pack_nil]

end Swap

end Basketry
