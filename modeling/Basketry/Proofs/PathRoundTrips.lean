import Basketry.Proofs.PathData

namespace Basketry

namespace CallData
open Abi (Ty Datum)

section Pack
variable {t : Ty} {ts : List Ty} {v : Value} {vs : List Value}

/-- A value out of range is reported wherever it stands in front of values yet unread. -/
theorem pack_of_range (h : Datum.ofValue t v = .error .argumentRange) :
    pack (t :: ts) (v :: vs) = .error .argumentRange := by
  rw [pack, Datum.ofArguments]
  split
  · rw [Datum.ofValues, h]
    rfl
  · rfl

theorem pack_of_pack {x : Datum} {fault : Fault} (h : Datum.ofValue t v = .ok x)
    (hrest : pack ts vs = .error fault) : pack (t :: ts) (v :: vs) = .error fault := by
  have hlength : (t :: ts).length = (v :: vs).length ↔ ts.length = vs.length := by simp
  rw [pack, Datum.ofArguments] at hrest ⊢
  by_cases hl : ts.length = vs.length
  · rw [if_pos hl] at hrest
    rw [if_pos (hlength.mpr hl), Datum.ofValues, h, ok_bind]
    cases hvs : Datum.ofValues ts vs with
    | error e =>
      rw [hvs] at hrest
      exact hrest
    | ok xs =>
      rw [hvs] at hrest
      cases hrest
  · rw [if_neg hl] at hrest
    rw [if_neg (mt hlength.mp hl)]
    exact hrest

end Pack

end CallData

namespace Swap
open Abi (Ty Datum)

theorem ofValue_fee_of_range {signed : Bool} {n : Int} (h : ¬ IsFee signed n) :
    Datum.ofValue (feeType signed) (.int n) = .error .argumentRange := by
  cases signed <;> exact if_neg h

section Numbers
variable {signed : Bool} {addresses : List Address} {numbers : List Int}

/-- A path is legal by the counts of its tokens and numbers and by the range of each number. -/
theorem Path.legal_iff {tokens : List Value} (h : tokens.map Address.ofValue = addresses.map .ok) :
    Path.Legal signed ⟨addresses, numbers⟩ ↔
      2 ≤ tokens.length ∧ numbers.length = tokens.length - 1 ∧ ∀ n ∈ numbers, IsFee signed n := by
  rw [length_addresses h]
  constructor
  · rintro ⟨hhops,hends,hfees⟩
    simp only at hhops hends
    exact ⟨by omega, by omega, hfees⟩
  · rintro ⟨htwo,hcount,hfees⟩
    exact ⟨by simp only; omega, by simp only; omega, hfees⟩

/-- The packing stops at the first number out of its range. The induction is on the numbers: one in
its range passes with its token, and the stop comes from behind it. -/
theorem pack_interleaved_of_range {last : Address} {ts : List Ty} {vs : List Value}
    (h : addresses.length = numbers.length) (hn : ¬ ∀ n ∈ numbers, IsFee signed n) :
    CallData.pack
        ((List.replicate numbers.length [Ty.address, feeType signed]).flatten ++ .address :: ts)
        (interleaved addresses (numbers.map .int) ++ last.toValue :: vs) =
      .error .argumentRange := by
  induction numbers generalizing addresses with
  | nil => exact absurd (by simp) hn
  | cons n numbers ih =>
    obtain ⟨a,as,rfl⟩ := List.exists_cons_of_length_eq_add_one h
    simp only [List.length_cons, List.replicate_succ, List.flatten_cons, List.cons_append,
      List.nil_append, interleaved, List.map_cons]
    apply CallData.pack_of_pack (ofValue_token a)
    by_cases hfee : IsFee signed n
    · have hrest : ¬ ∀ m ∈ numbers, IsFee signed m := by
        intro hall
        exact hn (List.forall_mem_cons.mpr ⟨hfee, hall⟩)
      exact CallData.pack_of_pack (ofValue_fee.mpr ⟨n, rfl, hfee, rfl⟩) (ih (Nat.succ.inj h) hrest)
    · exact CallData.pack_of_range (ofValue_fee_of_range hfee)

section Tokens
variable {tokens values : List Value} {trailer : List Ty} {refusal : Fault}

theorem packTokens_of_range (h : tokens.map Address.ofValue = addresses.map .ok)
    (hcounts : ¬ (tokens.length < 2 ∨ (numbers.map Value.int).length ≠ tokens.length - 1))
    (hn : ¬ ∀ n ∈ numbers, IsFee signed n) :
    packTokens signed trailer values refusal tokens (numbers.map .int) = .error .argumentRange := by
  rcases List.eq_nil_or_concat tokens with rfl | ⟨front,last,rfl⟩
  · exact absurd (Or.inl Nat.two_pos) hcounts
  rw [List.concat_eq_append] at h hcounts ⊢
  rw [List.map_append] at h
  obtain ⟨as,ends,rfl,has,hends⟩ := List.map_eq_append_iff.mp h.symm
  obtain ⟨a,ends,rfl,ha,-⟩ := List.map_eq_cons_iff.mp hends
  have hfront : front.length = (numbers.map Value.int).length := by
    rw [List.length_append, List.length_singleton] at hcounts
    omega
  have hhops := (hopValues_eq_ok hfront).mpr ⟨as, has.symm, rfl⟩
  rw [packTokens, List.getLast?_concat]
  simp only [if_neg hcounts, List.dropLast_concat, hhops, ← ha, ok_bind]
  rw [List.length_map] at hfront ⊢
  exact pack_interleaved_of_range ((length_addresses has.symm).symm.trans hfront) hn

/-- Only wrong counts are refused for the counts. -/
theorem packTokens_eq_refusal (h : tokens.map Address.ofValue = addresses.map .ok)
    (hvalues : ∃ rest, CallData.pack trailer values = .ok rest) (hr : refusal ≠ .argumentRange) :
    packTokens signed trailer values refusal tokens (numbers.map .int) = .error refusal ↔
      tokens.length < 2 ∨ numbers.length ≠ tokens.length - 1 := by
  rw [← List.length_map Value.int]
  constructor
  · intro hrefused
    by_contra hcounts
    by_cases hn : ∀ n ∈ numbers, IsFee signed n
    · obtain ⟨rest,hrest⟩ := hvalues
      have hlegal := (Path.legal_iff h).mpr ⟨by omega, by simp at hcounts; omega, hn⟩
      rw [packTokens_eq_ok.mpr ⟨_, h, rfl, hlegal, rest, hrest, rfl⟩] at hrefused
      cases hrefused
    · rw [packTokens_of_range h hcounts hn] at hrefused
      exact hr (Except.error.inj hrefused).symm
  · exact packTokens_of_counts

/-- Tokens and numbers are those of one path only. -/
theorem exists_path_iff {P : Path → Prop} (h : tokens.map Address.ofValue = addresses.map .ok) :
    (∃ p : Path, tokens.map Address.ofValue = p.tokens.map .ok ∧
        numbers.map Value.int = p.fees.map .int ∧ P p) ↔ P ⟨addresses, numbers⟩ := by
  constructor
  · rintro ⟨⟨as,ns⟩,ht,hf,hp⟩
    obtain rfl := (List.map_inj_right fun _ _ => Except.ok.inj).mp (h.symm.trans ht)
    obtain rfl := (List.map_inj_right fun _ _ => Value.int.inj).mp hf
    exact hp
  · intro hp
    exact ⟨_, h, rfl, hp⟩

end Tokens

/-- The width of a fee keeps the rest that a fee leaves, so a sign is not seen in it. -/
theorem packHops_mod (numbers : List Int) (addresses : List Address) :
    packHops (numbers.map (· % 2 ^ 24)) addresses = packHops numbers addresses := by
  induction numbers generalizing addresses with
  | nil => rfl
  | cons n numbers ih =>
    have hcount : (BigEndian.count feeWidth : Int) = 2 ^ 24 := by decide
    have hwidth : BigEndian.ofInt feeWidth (n % 2 ^ 24) = BigEndian.ofInt feeWidth n := by
      rw [BigEndian.ofInt, BigEndian.ofInt, hcount, Int.emod_emod]
    cases addresses with
    | nil => rfl
    | cons a addresses => rw [List.map_cons, packHops, packHops, hwidth, ih]

/-- Read without a sign, the numbers of a path are what is left of them. -/
theorem Path.Legal.decode_unsigned {reason : String} (h : Path.Legal signed ⟨addresses, numbers⟩) :
    decodePathBytes (Path.packed ⟨addresses, numbers⟩) false reason =
      .ok ⟨addresses, numbers.map (· % 2 ^ 24)⟩ := by
  have hpacked : Path.packed ⟨addresses, numbers.map (· % 2 ^ 24)⟩ =
      Path.packed ⟨addresses, numbers⟩ := by
    cases addresses with
    | nil => rfl
    | cons a addresses => simp only [packed, packHops_mod]
  have hlegal : Path.Legal false ⟨addresses, numbers.map (· % 2 ^ 24)⟩ := by
    refine ⟨by simpa using h.hops, by simpa using h.ends, ?_⟩
    intro m hm
    obtain ⟨n,-,rfl⟩ := List.mem_map.mp hm
    exact ⟨Int.emod_nonneg n (by decide), Int.emod_lt_of_pos n (by decide)⟩
  rw [← hpacked]
  exact hlegal.decode_packed

end Numbers

/-- Three tokens for two hops. -/
def threeTokens : List Address :=
  [1, 2, 3].map fun n => ⟨List.replicate Swap.addressWidth n, List.length_replicate⟩

section RoundTrips
variable {tokens : List Value} {addresses : List Address}

theorem UniswapAdapter.tradeData_ints (h : tokens.map Address.ofValue = addresses.map .ok)
    {fees : List Int} {fixInput : Bool} {data : List UInt8} :
    tradeData tokens (fees.map .int) (.bool fixInput) = .ok data ↔
      Path.Legal false ⟨addresses, fees⟩ ∧
        data = Path.packed ⟨addresses, fees⟩ ++ [if fixInput then 1 else 0] := by
  rw [tradeData_eq_ok, exists_path_iff h]
  simp

/-- Trade data is made of two addresses or more with one fee a hop that three bytes hold. Wrong
counts are refused before a fee is looked at, and a fee out of range behind them. The data has the
length of its hops, its path is read back with the same fees, the flag stands at the end, and no other
addresses, fees or flag have the same data. -/
theorem UniswapAdapter.trade_data_is_read_back (h : tokens.map Address.ofValue = addresses.map .ok)
    (fees : List Int) (fixInput : Bool) :
    let reply := tradeData tokens (fees.map .int) (.bool fixInput)
    ((∃ data, reply = .ok data) ↔
      2 ≤ tokens.length ∧ fees.length = tokens.length - 1 ∧ ∀ fee ∈ fees, 0 ≤ fee ∧ fee < 2 ^ 24) ∧
    (reply = .error (.revert "Invalid path length") ↔
      tokens.length < 2 ∨ fees.length ≠ tokens.length - 1) ∧
    (∀ (values : List Value) (flag : Value),
      (tokens.length < 2 ∨ values.length ≠ tokens.length - 1) →
        tradeData tokens values flag = .error (.revert "Invalid path length")) ∧
    (2 ≤ tokens.length → fees.length = tokens.length - 1 →
      (∃ fee ∈ fees, ¬ (0 ≤ fee ∧ fee < 2 ^ 24)) → reply = .error .argumentRange) ∧
    ∀ data, reply = .ok data →
      data.length = 20 + 23 * fees.length + 1 ∧
      (∀ reason, decodePath (.bytes data.dropLast) false reason = .ok ⟨addresses, fees⟩) ∧
      data.getLast? = some (if fixInput then 1 else 0) ∧
      ∀ (tokens' : List Value) (addresses' : List Address) (fees' : List Int) (fixInput' : Bool),
        tokens'.map Address.ofValue = addresses'.map .ok →
        tradeData tokens' (fees'.map .int) (.bool fixInput') = .ok data →
          addresses' = addresses ∧ fees' = fees ∧ fixInput' = fixInput := by
  intro reply
  have hok : ∀ data, reply = .ok data ↔ _ := fun _ => tradeData_ints h
  have hform : reply = packTokens _ _ _ _ tokens (fees.map .int) := tradeData_eq_packTokens ..
  refine ⟨?_, ?_, ?_, ?_, ?_⟩
  · simp only [hok, exists_and_left, exists_eq, and_true]
    exact Path.legal_iff h
  · rw [hform]
    exact packTokens_eq_refusal h ⟨_, rfl⟩ nofun
  · intro values flag hcounts
    rw [tradeData_eq_packTokens]
    exact packTokens_of_counts hcounts
  · rintro htwo hcount ⟨fee,hmem,hfee⟩
    rw [hform]
    exact packTokens_of_range h (by simp; omega) fun hall => hfee (hall fee hmem)
  · intro data hdata
    obtain ⟨hpath,rfl⟩ := (hok data).mp hdata
    refine ⟨by simp [hpath.length_packed], ?_, by simp, ?_⟩
    · intro reason
      rw [List.dropLast_concat]
      exact hpath.decode_packed
    · intro tokens' addresses' fees' fixInput' h' hdata'
      obtain ⟨hpath',hsame⟩ := (tradeData_ints h').mp hdata'
      obtain ⟨hpacked,hflag⟩ := List.append_inj' hsame rfl
      -- Both paths are read from the same bytes.
      have hread : decodePathBytes (Path.packed ⟨addresses, fees⟩) false "" = .ok ⟨addresses, fees⟩ :=
        hpath.decode_packed
      rw [hpacked, hpath'.decode_packed] at hread
      cases hread
      exact ⟨rfl, rfl, by cases fixInput <;> cases fixInput' <;> simp_all⟩

/-- The lowest and the highest fee. -/
theorem UniswapAdapter.trade_data_is_read_back_two_hops :
    ∃ data, tradeData (threeTokens.map Address.toValue) [.int 0, .int 16777215] (.bool true) =
        .ok data ∧ data.length = 67 ∧ data.getLast? = some 1 ∧
      decodePath (.bytes data.dropLast) false "Invalid data" = .ok ⟨threeTokens, [0, 16777215]⟩ := by
  obtain ⟨hok,-,-,-,hread⟩ := trade_data_is_read_back (map_toValue threeTokens) [0, 16777215] true
  obtain ⟨data,hdata⟩ := hok.mpr (by decide)
  obtain ⟨hlength,hpath,hflag,-⟩ := hread data hdata
  exact ⟨data, hdata, hlength, hflag, hpath _⟩

theorem SlipstreamAdapter.pathData_ints (h : tokens.map Address.ofValue = addresses.map .ok)
    {spacings : List Int} {data : List UInt8} :
    pathData tokens (spacings.map .int) = .ok data ↔
      Path.Legal true ⟨addresses, spacings⟩ ∧ data = Path.packed ⟨addresses, spacings⟩ := by
  rw [pathData_eq_ok, exists_path_iff h]

/-- Path data is made of two addresses or more with one spacing a hop that three bytes with a sign
hold; wrong counts are refused, and behind them a spacing out of range. The data has the length of a
path, which is read back with the same spacings, negative ones too; read without a sign it has the
same tokens and what is left of the spacings. -/
theorem SlipstreamAdapter.path_data_is_read_back
    (h : tokens.map Address.ofValue = addresses.map .ok) (spacings : List Int) :
    let reply := pathData tokens (spacings.map .int)
    ((∃ data, reply = .ok data) ↔
      2 ≤ tokens.length ∧ spacings.length = tokens.length - 1 ∧
        ∀ x ∈ spacings, -2 ^ 23 ≤ x ∧ x < 2 ^ 23) ∧
    (reply = .error (reason "invalid input lengths") ↔
      tokens.length < 2 ∨ spacings.length ≠ tokens.length - 1) ∧
    (2 ≤ tokens.length → spacings.length = tokens.length - 1 →
      (∃ x ∈ spacings, ¬ (-2 ^ 23 ≤ x ∧ x < 2 ^ 23)) → reply = .error .argumentRange) ∧
    ∀ data, reply = .ok data →
      isPathLength data.length = true ∧
      (∀ reason, decodePath (.bytes data) true reason = .ok ⟨addresses, spacings⟩) ∧
      ∀ reason, decodePath (.bytes data) false reason =
        .ok ⟨addresses, spacings.map (· % 2 ^ 24)⟩ := by
  intro reply
  have hok : ∀ data, reply = .ok data ↔ _ := fun _ => pathData_ints h
  have hform : reply = packTokens _ _ _ _ tokens (spacings.map .int) := pathData_eq_packTokens ..
  refine ⟨?_, ?_, ?_, ?_⟩
  · simp only [hok, exists_and_left, exists_eq, and_true]
    exact Path.legal_iff h
  · rw [hform]
    exact packTokens_eq_refusal h ⟨_, rfl⟩ nofun
  · rintro htwo hcount ⟨x,hmem,hx⟩
    rw [hform]
    exact packTokens_of_range h (by simp; omega) fun hall => hx (hall x hmem)
  · intro data hdata
    obtain ⟨hpath,rfl⟩ := (hok data).mp hdata
    refine ⟨?_, fun reason => hpath.decode_packed, fun reason => hpath.decode_unsigned⟩
    exact (isPathLength_iff _).mpr ⟨_, hpath.hops, hpath.length_packed⟩

/-- The lowest spacing is read without a sign as half of the turn. -/
theorem SlipstreamAdapter.path_data_is_read_back_two_hops :
    ∃ data, pathData (threeTokens.map Address.toValue) [.int (-8388608), .int 100] = .ok data ∧
      decodePath (.bytes data) true "Invalid data" = .ok ⟨threeTokens, [-8388608, 100]⟩ ∧
      decodePath (.bytes data) false "Invalid data" = .ok ⟨threeTokens, [8388608, 100]⟩ := by
  obtain ⟨hok,-,-,hread⟩ := path_data_is_read_back (map_toValue threeTokens) [-8388608, 100]
  obtain ⟨data,hdata⟩ := hok.mpr (by decide)
  obtain ⟨-,hsigned,hunsigned⟩ := hread data hdata
  exact ⟨data, hdata, hsigned _, hunsigned _⟩

end RoundTrips

end Swap

end Basketry
