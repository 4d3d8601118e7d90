import Basketry.Morpho.Claim
import Basketry.Proofs.SwapCalls
import Basketry.Proofs.DecodedArguments

namespace Basketry.Morpho.ClaimAdapter
open Abi (Datum wordOfNat Stands)

/-- An amount and a proof that claim data can carry. -/
structure IsClaim (claimable : Nat) (proof : List (List UInt8)) : Prop where
  amount : claimable < 2 ^ 256
  words : ∀ word ∈ proof, word.length = 32
  length : proof.length < 2 ^ 256

def claimDatums (claimable : Nat) (proof : List (List UInt8)) : List Datum :=
  [.number claimable, .items (proof.map .raw)]

/-- The encoding of a claim, with the proof at once behind the head. -/
def encodeClaim (claimable : Nat) (proof : List (List UInt8)) : List UInt8 :=
  Abi.encodeArguments claimTypes (claimDatums claimable proof)

/-- Claim data in any form: bytes may stand in front of the proof, where the offset skips them, and
behind it. -/
def CarriesClaim (data : List UInt8) (claimable : Nat) (proof : List (List UInt8)) : Prop :=
  ∃ gap rest, 64 + gap.length < 2 ^ 256 ∧
    data = wordOfNat claimable ++ wordOfNat (64 + gap.length) ++ gap ++
      wordOfNat proof.length ++ proof.flatten ++ rest

section Claims
variable {data : List UInt8} {claimable : Nat} {proof : List (List UInt8)}

theorem carriesClaim_iff :
    CarriesClaim data claimable proof ↔ ∃ offset, 64 ≤ offset ∧ offset < 2 ^ 256 ∧
      Stands data 0 (wordOfNat claimable ++ wordOfNat offset) ∧
      Stands data offset (wordOfNat proof.length ++ proof.flatten) := by
  have hword : ∀ n, (wordOfNat n).length = 32 := fun n => BigEndian.length_ofNat 32 n
  constructor
  · rintro ⟨gap,rest,hgap,hdata⟩
    have hfront : (wordOfNat claimable ++ wordOfNat (64 + gap.length) ++ gap).length =
        64 + gap.length := by
      simp only [List.length_append, hword]
    refine ⟨64 + gap.length, Nat.le_add_right .., hgap, ?_, ?_⟩
    · rw [hdata]
      exact ⟨gap ++ (wordOfNat proof.length ++ (proof.flatten ++ rest)), by simp⟩
    · rw [hdata, List.append_assoc _ _ proof.flatten, List.append_assoc _ _ rest]
      have h := Abi.stands_split (wordOfNat claimable ++ wordOfNat (64 + gap.length) ++ gap)
        (wordOfNat proof.length ++ proof.flatten) rest
      rwa [hfront] at h
  · rintro ⟨offset,hlow,hhigh,hhead,htail⟩
    have hne : wordOfNat proof.length ++ proof.flatten ≠ [] := by
      rw [← List.length_pos_iff, List.length_append, hword]
      omega
    obtain ⟨front,rest,hlength,hdata⟩ := htail.exists_split hne
    -- The head ends in front of the proof, so it begins what stands there.
    have hfront : wordOfNat claimable ++ wordOfNat offset <+: front := by
      rw [Stands, List.drop_zero, hdata] at hhead
      refine List.prefix_of_prefix_length_le hhead (List.prefix_append ..) ?_
      rw [List.length_append, hword, hword, hlength]
      exact hlow
    obtain ⟨gap,hgap⟩ := hfront
    have hoffset : 64 + gap.length = offset := by
      rw [← hlength, ← hgap]
      simp only [List.length_append, hword]
    refine ⟨gap, rest, hoffset ▸ hhigh, ?_⟩
    rw [hdata, hoffset, ← hgap]
    simp

/-- What is read of claim data is what the data carries. -/
theorem readClaim_eq_ok {xs : List Datum} :
    readClaim data = .ok xs ↔ ∃ claimable proof, IsClaim claimable proof ∧
      CarriesClaim data claimable proof ∧ xs = claimDatums claimable proof := by
  have hread : readClaim data = .ok xs ↔ Abi.decodeArguments claimTypes data = .ok xs := by
    rw [readClaim]
    cases Abi.decodeArguments claimTypes data <;> simp
  rw [hread, claimTypes, Abi.decodeArguments_static_dynamic rfl rfl]
  have hwidth : (Abi.Ty.uint 32).headSize = 32 := rfl
  simp only [Abi.decode_uint256_eq_ok, Abi.decode_words_eq_ok, Abi.readNat_eq_ok, hwidth]
  have hplaces : ∀ claimable offset : Nat, Stands data 0 (wordOfNat claimable ++ wordOfNat offset) ↔
      Stands data 0 (wordOfNat claimable) ∧ Stands data 32 (wordOfNat offset) := by
    intro claimable offset
    rw [Abi.stands_append, Nat.zero_add, wordOfNat, BigEndian.length_ofNat]
  constructor
  · rintro ⟨_,offset,_,⟨claimable,hamount,hlt,rfl⟩,⟨hoffset,hhigh⟩,hlow,-,⟨proof,hl,hwords,htail,rfl⟩,
      rfl⟩
    exact ⟨claimable, proof, ⟨hlt, hwords, hl⟩, carriesClaim_iff.mpr ⟨offset, hlow, hhigh,
      (hplaces claimable offset).mpr ⟨hamount, hoffset⟩, htail⟩, rfl⟩
  · rintro ⟨claimable,proof,hclaim,hcarries,rfl⟩
    obtain ⟨offset,hlow,hhigh,hhead,htail⟩ := carriesClaim_iff.mp hcarries
    obtain ⟨hamount,hoffset⟩ := (hplaces claimable offset).mp hhead
    have hinside : offset < data.length := by
      have hroom := htail.length_le
      rw [List.length_append, wordOfNat, BigEndian.length_ofNat] at hroom
      omega
    exact ⟨_, offset, _, ⟨claimable, hamount, hclaim.amount, rfl⟩, ⟨hoffset, hhigh⟩, hlow, hinside,
      ⟨proof, hclaim.length, hclaim.words, htail, rfl⟩, rfl⟩

/-- The encoding of a claim carries it at once behind the head. -/
theorem IsClaim.encodeClaim_eq (h : IsClaim claimable proof) :
    encodeClaim claimable proof =
      wordOfNat claimable ++ wordOfNat 64 ++ wordOfNat proof.length ++ proof.flatten := by
  have hamount : BigEndian.ofInt 32 claimable = wordOfNat claimable :=
    BigEndian.ofInt_of_nonneg (Int.natCast_nonneg claimable)
  have hparts : Abi.encodeParts claimTypes (claimDatums claimable proof) =
      [⟨false, wordOfNat claimable⟩, ⟨true, wordOfNat proof.length ++ proof.flatten⟩] := by
    simp only [claimTypes, claimDatums, Abi.encodeParts, Abi.encode_words h.words]
    rw [Abi.encode, hamount]
    rfl
  have hhead : (wordOfNat claimable).length = 32 := BigEndian.length_ofNat 32 claimable
  rw [encodeClaim, Abi.encodeArguments, hparts]
  simp [Abi.layout, Abi.heads, Abi.tails, Abi.headLength, Abi.Part.headSize, hhead]

theorem IsClaim.readClaim (h : IsClaim claimable proof) :
    readClaim (encodeClaim claimable proof) = .ok (claimDatums claimable proof) := by
  apply readClaim_eq_ok.mpr
  refine ⟨claimable, proof, h, ⟨[], [], by decide, ?_⟩, rfl⟩
  rw [h.encodeClaim_eq]
  simp

theorem mapM_words (h : ∀ word ∈ proof, word.length = 32) :
    (proof.map Value.bytes).mapM (Datum.ofValue (.word 32)) = .ok (proof.map .raw) := by
  induction proof with
  | nil => rfl
  | cons word proof ih =>
    rw [List.forall_mem_cons] at h
    have hword : Datum.ofValue (.word 32) (.bytes word) = .ok (.raw word) :=
      if_pos (Nat.le_of_eq h.1)
    rw [List.map_cons, List.mapM_cons, hword, ok_bind, ih h.2]
    rfl

/-- Claims are values that fit the types of claim data. -/
theorem IsClaim.ofValues (h : IsClaim claimable proof) :
    Datum.ofValues claimTypes [.int claimable, .list (proof.map .bytes)] =
      .ok (claimDatums claimable proof) := by
  have hamount : Datum.ofValue (.uint 32) (.int claimable) = .ok (.number claimable) := by
    refine Swap.ranged_eq_ok.mpr ⟨⟨Int.natCast_nonneg _, ?_⟩, rfl⟩
    exact_mod_cast h.amount
  have hproof : Datum.ofValue (.array (.word 32)) (.list (proof.map .bytes)) =
      .ok (.items (proof.map .raw)) := by
    rw [Datum.ofValue, mapM_words h.words]
    rfl
  rw [claimTypes, Datum.ofValues, hamount, ok_bind, Datum.ofValues, hproof, ok_bind]
  rfl

/-- Both accounts and a claim fit the call. -/
theorem IsClaim.ofArguments_call (h : IsClaim claimable proof) (a p : Address) :
    Datum.ofArguments argumentTypes
        [a.toValue, p.toValue, .int claimable, .list (proof.map .bytes)] =
      .ok (.account a :: .account p :: claimDatums claimable proof) := by
  have hclaim := h.ofValues
  rw [claimTypes] at hclaim
  rw [Datum.ofArguments, if_pos (by simp [argumentTypes]), argumentTypes, Datum.ofValues,
    Swap.ofValue_token, ok_bind, Datum.ofValues, Swap.ofValue_token, ok_bind, hclaim]
  rfl

section Calls
variable (m : ClaimAdapter) {account pool : Value} {a p : Address}

/-- The call is made of what was read. -/
theorem claimCall_of_readClaim {claim : List Datum} (ha : Address.ofValue account = .ok a)
    (hp : Address.ofValue pool = .ok p) (h : readClaim data = .ok claim) :
    m.claimCall account pool (.bytes data) = .ok ⟨m.distributor, 0, CallData.selector signature ++
      Abi.encodeArguments argumentTypes (.account a :: .account p :: claim)⟩ := by
  rw [claimCall, CallData.bytesOfValue, ok_bind, h, ok_bind, ha, ok_bind, hp]
  rfl

theorem claimCall_of_unread {fault : Fault} (h : readClaim data = .error fault) :
    m.claimCall account pool (.bytes data) = .error (.revert "Invalid claim data") := by
  rw [claimCall, CallData.bytesOfValue, ok_bind, ClaimAdapter.readClaim]
  rw [ClaimAdapter.readClaim] at h
  cases hd : Abi.decodeArguments claimTypes data with
  | error e => rfl
  | ok claim =>
    rw [hd] at h
    cases h

/-- What the call tells the distributor. -/
theorem IsClaim.decode_call (h : IsClaim claimable proof) (a p : Address) :
    Abi.decodeArguments argumentTypes (Abi.encodeArguments argumentTypes
        (.account a :: .account p :: claimDatums claimable proof)) =
      .ok (.account a :: .account p :: claimDatums claimable proof) := by
  have hamount : Abi.Fits (.uint 32) (.number claimable) := by
    apply Abi.Fits.uint (Nat.le_refl 32) (Int.natCast_nonneg _)
    exact_mod_cast h.amount
  have hproof := Abi.fits_words h.words h.length
  have hfits : Abi.FitAll argumentTypes (.account a :: .account p :: claimDatums claimable proof) :=
    .cons (.address a) (.cons (.address p) (.cons hamount (.cons hproof .nil)))
  refine Abi.decodeArguments_encodeArguments hfits ?_
  rw [Abi.LayoutReach, hfits.headLength_eq]
  exact ⟨show 128 < BigEndian.count 32 by decide, trivial⟩

/-- Claim data comes out of the adapter as it went in. For the encoding of any claim the distributor
is called with the accounts and this very claim. Any other data is either refused as no claim, which
is the only refusal, or it carries a claim, and then the call is that for the encoding of the claim;
where the proof stands in the data, and what follows it, does not matter. -/
theorem claims_are_encoded_anew (ha : Address.ofValue account = .ok a)
    (hp : Address.ofValue pool = .ok p) :
    let reply := fun data : List UInt8 => m.claimCall account pool (.bytes data)
    (∀ claimable proof, IsClaim claimable proof →
      Datum.ofArguments claimTypes [.int claimable, .list (proof.map .bytes)] =
        .ok (claimDatums claimable proof) ∧
      ∃ call, reply (encodeClaim claimable proof) = .ok ⟨m.distributor, 0, call⟩ ∧
        CallData.call signature argumentTypes
          [a.toValue, p.toValue, .int claimable, .list (proof.map .bytes)] = .ok call ∧
        call.take 4 = CallData.selector signature ∧
        Abi.decodeArguments argumentTypes (call.drop 4) =
          .ok [.account a, .account p, .number claimable, .items (proof.map .raw)]) ∧
    (∀ data, reply data = .error (.revert "Invalid claim data") ∨
      ∃ claimable proof, IsClaim claimable proof ∧ CarriesClaim data claimable proof ∧
        readClaim data = .ok [.number claimable, .items (proof.map .raw)] ∧
        reply data = reply (encodeClaim claimable proof)) ∧
    ∀ data claimable proof, IsClaim claimable proof → CarriesClaim data claimable proof →
      reply data = reply (encodeClaim claimable proof) := by
  intro reply
  have hcarried : ∀ data claimable proof, IsClaim claimable proof →
      CarriesClaim data claimable proof → reply data = reply (encodeClaim claimable proof) := by
    intro data claimable proof hclaim hcarries
    have hread := readClaim_eq_ok.mpr ⟨claimable, proof, hclaim, hcarries, rfl⟩
    exact (m.claimCall_of_readClaim ha hp hread).trans
      (m.claimCall_of_readClaim ha hp hclaim.readClaim).symm
  refine ⟨?_, ?_, hcarried⟩
  · intro claimable proof hclaim
    refine ⟨hclaim.ofValues, _, m.claimCall_of_readClaim ha hp hclaim.readClaim, ?_, ?_, ?_⟩
    · rw [CallData.call, hclaim.ofArguments_call a p]
      rfl
    · exact List.take_left' (CallData.length_selector signature)
    · rw [List.drop_left' (CallData.length_selector signature)]
      exact hclaim.decode_call a p
  · intro data
    cases hread : readClaim data with
    | error fault => exact .inl (m.claimCall_of_unread hread)
    | ok claim =>
      obtain ⟨claimable,proof,hclaim,hcarries,rfl⟩ := readClaim_eq_ok.mp hread
      exact .inr ⟨claimable, proof, hclaim, hcarries, rfl,
        hcarried data claimable proof hclaim hcarries⟩

/-- An amount with a proof of two words, encoded with its proof away from the head and with a byte
behind it. -/
theorem claims_are_encoded_anew_padded :
    let adapter : ClaimAdapter := ⟨Address.zero⟩
    let proof := [List.replicate 32 1, List.replicate 32 2]
    let padded := wordOfNat 5 ++ wordOfNat 67 ++ [7, 7, 7] ++ wordOfNat 2 ++ proof.flatten ++ [9]
    (∃ call, adapter.claimCall Address.zero.toValue Address.zero.toValue
      (.bytes (encodeClaim 5 proof)) = .ok ⟨Address.zero, 0, call⟩) ∧
    adapter.claimCall Address.zero.toValue Address.zero.toValue (.bytes padded) =
      adapter.claimCall Address.zero.toValue Address.zero.toValue (.bytes (encodeClaim 5 proof)) := by
  intro adapter proof padded
  have hzero : Address.ofValue Address.zero.toValue = .ok Address.zero := rfl
  have hclaim : IsClaim 5 proof := ⟨by decide, by decide, by decide⟩
  have hcarries : CarriesClaim padded 5 proof := ⟨[7, 7, 7], [9], by decide, rfl⟩
  obtain ⟨hanew,-,hany⟩ := claims_are_encoded_anew adapter hzero hzero
  obtain ⟨-,call,hcall,-⟩ := hanew 5 proof hclaim
  exact ⟨⟨call, hcall⟩, hany padded 5 proof hclaim hcarries⟩

end Calls

end Claims

end Basketry.Morpho.ClaimAdapter
