import Basketry.Swap.Path
import Basketry.Proofs.Outcomes
import Basketry.Proofs.PackedReaders

namespace Basketry

namespace CallData

/-- Digits of bytes are read as these bytes, in any letter case, with or without `0x`. -/
theorem bytesOfText_eq_ok {s : String} {bs : List UInt8}
    (h : s.toList.map Char.toLower = Hex.encodeChars bs ∨
      s.toList.map Char.toLower = '0' :: 'x' :: Hex.encodeChars bs) :
    bytesOfText s = .ok bs := by
  have hdigits := (Hex.map_dropPrefix (Hex.x_not_mem_encodeChars bs)).mpr h
  have heven : s.length % 2 = 0 := by
    have hlength : (s.toList.map Char.toLower).length = s.length := by
      rw [List.length_map, String.length_toList]
    have hwidth := Hex.length_encodeChars bs
    rcases h with h | h <;> rw [h] at hlength <;> grind
  have hascii : (Hex.dropPrefix s.toList).any (fun c => 128 ≤ c.toNat) = false := by
    rw [List.any_eq_false]
    intro c hc
    have hlow : c.toLower ∈ Hex.encodeChars bs := hdigits ▸ List.mem_map_of_mem hc
    obtain ⟨n,hn,hdigit⟩ := Hex.mem_encodeChars hlow
    have hcode := Char.toNat_toLower c
    rw [hdigit, Hex.toNat_digitChar n hn] at hcode
    simp only [decide_eq_true_eq]
    grind
  have hwhole : ¬ s.length % 2 = 1 := by omega
  simp only [bytesOfText, if_neg hwhole, hascii, Bool.false_eq_true, if_false,
    Hex.decode?_eq_some.mpr hdigits, Option.elim_some]

end CallData

namespace Swap

/-- What three bytes between two tokens stand for. -/
def IsFee (signed : Bool) (fee : Int) : Prop :=
  if signed then -2 ^ 23 ≤ fee ∧ fee < 2 ^ 23 else 0 ≤ fee ∧ fee < 2 ^ 24

/-- Each fee in front of the token behind it. -/
def packHops : List Int → List Address → List UInt8
  | fee :: fees, token :: tokens =>
    BigEndian.ofInt feeWidth fee ++ (token.bytes ++ packHops fees tokens)
  | _, _ => []

/-- The bytes of a path, without gaps. -/
def Path.packed (p : Path) : List UInt8 :=
  match p.tokens with
  | [] => []
  | token :: tokens => token.bytes ++ packHops p.fees tokens

/-- At least one hop, and a token at either end of each. -/
structure Path.Legal (signed : Bool) (p : Path) : Prop where
  hops : 1 ≤ p.fees.length
  ends : p.tokens.length = p.fees.length + 1
  fees : ∀ fee ∈ p.fees, IsFee signed fee

section Windows
variable (before after : List UInt8) {signed : Bool}

theorem readAddress_append (a : Address) :
    readAddress (before ++ (a.bytes ++ after)) (before.length : Nat) = .ok a :=
  (readAddress_reads.framed before a.bytes after a.length_bytes).trans (readAddress_bytes a)

/-- The three bytes of a fee are read as this fee, by the reader of its kind. -/
theorem read_of_isFee {fee start : Int} {data : List UInt8} (h : IsFee signed fee)
    (hw : window? feeWidth data start = some (BigEndian.ofInt feeWidth fee)) :
    (if signed then readSpacing data start else readFee data start) = .ok fee := by
  cases signed with
  | true =>
    have h : -2 ^ 23 ≤ fee ∧ fee < 2 ^ 23 := h
    rw [if_pos rfl, readSpacing, hw]
    exact congrArg Except.ok (BigEndian.toInt_ofInt h.1 h.2)
  | false =>
    have h : 0 ≤ fee ∧ fee < 2 ^ 24 := h
    rw [if_neg Bool.false_ne_true, readFee, hw]
    exact congrArg Except.ok (BigEndian.toNat_ofInt_of_lt h.1 h.2)

/-- Any three bytes are a fee. -/
theorem exists_fee (signed : Bool) {bs : List UInt8} (h : bs.length = feeWidth) :
    ∃ fee, IsFee signed fee ∧ BigEndian.ofInt feeWidth fee = bs := by
  cases signed with
  | true =>
    have hrange := BigEndian.toInt_range (show 0 < bs.length by rw [h]; decide)
    rw [h] at hrange
    exact ⟨BigEndian.toInt bs, hrange, h ▸ BigEndian.ofInt_toInt bs⟩
  | false =>
    have hlt := BigEndian.toNat_lt bs
    rw [h] at hlt
    refine ⟨BigEndian.toNat bs, ⟨Int.natCast_nonneg _, ?_⟩, h ▸ BigEndian.ofInt_natCast bs⟩
    exact_mod_cast hlt

end Windows

section Hops
variable {signed : Bool} {fees : List Int} {tokens : List Address}

theorem length_packHops (h : tokens.length = fees.length) :
    (packHops fees tokens).length = hopWidth * fees.length := by
  induction fees generalizing tokens with
  | nil => simp [packHops]
  | cons fee fees ih =>
    obtain ⟨token,tokens,rfl⟩ := List.exists_cons_of_length_eq_add_one h
    have hrest := ih (Nat.succ.inj h)
    simp only [packHops, List.length_append, BigEndian.length_ofInt, token.length_bytes, hrest,
      List.length_cons, hopWidth, addressWidth, feeWidth]
    omega

theorem readHops_succ (signed : Bool) (data : List UInt8) (hops start : Nat) :
    readHops signed data (hops + 1) start = do
      let fee ← (if signed then readSpacing data start else readFee data start)
      let token ← readAddress data (start + feeWidth : Nat)
      let (fees, tokens) ← readHops signed data hops (start + hopWidth)
      return (fee :: fees, token :: tokens) := by
  cases signed <;> rfl

/-- The hops are read back wherever they stand; the induction is on them, and what was read already
grows by one hop a step. -/
theorem readHops_packHops (before : List UInt8) (hl : tokens.length = fees.length)
    (hf : ∀ fee ∈ fees, IsFee signed fee) :
    readHops signed (before ++ packHops fees tokens) fees.length before.length =
      .ok (fees, tokens) := by
  induction fees generalizing tokens before with
  | nil => rw [List.eq_nil_of_length_eq_zero hl, List.length_nil, readHops]
  | cons fee fees ih =>
    obtain ⟨token,tokens,rfl⟩ := List.exists_cons_of_length_eq_add_one hl
    have hfee := read_of_isFee (hf fee (by simp)) (window?_append before
      (token.bytes ++ packHops fees tokens) (BigEndian.length_ofInt feeWidth fee))
    have htoken := readAddress_append (before ++ BigEndian.ofInt feeWidth fee)
      (packHops fees tokens) token
    have hrest := ih (before ++ (BigEndian.ofInt feeWidth fee ++ token.bytes)) (Nat.succ.inj hl)
      fun f hm => hf f (by simp [hm])
    have hstart : (before ++ (BigEndian.ofInt feeWidth fee ++ token.bytes)).length =
        before.length + hopWidth := by
      simp [token.length_bytes, hopWidth, addressWidth, Nat.add_comm]
    rw [hstart] at hrest
    rw [List.length_append, BigEndian.length_ofInt] at htoken
    simp only [List.append_assoc] at htoken hrest
    rw [packHops, List.length_cons, readHops_succ, hfee, ok_bind, htoken, ok_bind, hrest]
    rfl

/-- Bytes that are as long as hops are hops. -/
theorem exists_packHops (signed : Bool) {n : Nat} {bs : List UInt8} (h : bs.length = hopWidth * n) :
    ∃ fees tokens, fees.length = n ∧ tokens.length = n ∧ (∀ fee ∈ fees, IsFee signed fee) ∧
      packHops fees tokens = bs := by
  induction n generalizing bs with
  | zero => exact ⟨[], [], rfl, rfl, by simp, (List.eq_nil_of_length_eq_zero h).symm⟩
  | succ n ih =>
    have hlength : bs.length = feeWidth + (addressWidth + hopWidth * n) := by
      rw [h, Nat.mul_succ]
      simp only [hopWidth]
      omega
    have hfee : (bs.take feeWidth).length = feeWidth := by
      rw [List.length_take]
      omega
    have htoken : ((bs.drop feeWidth).take addressWidth).length = addressWidth := by
      rw [List.length_take, List.length_drop]
      omega
    have hrest : ((bs.drop feeWidth).drop addressWidth).length = hopWidth * n := by
      rw [List.length_drop, List.length_drop]
      omega
    obtain ⟨fee,hrange,hpack⟩ := exists_fee signed hfee
    obtain ⟨fees,tokens,hn,hm,hranges,hpacks⟩ := ih hrest
    refine ⟨fee :: fees, ⟨_, htoken⟩ :: tokens, by simp [hn], by simp [hm], ?_, ?_⟩
    · simpa using ⟨hrange, hranges⟩
    · rw [packHops, hpack, hpacks, List.take_append_drop, List.take_append_drop]

end Hops

section Paths
variable {signed : Bool} {p : Path} {reason : String}

/-- The lengths of packed paths. -/
theorem isPathLength_iff (length : Nat) :
    isPathLength length = true ↔ ∃ n ≥ 1, length = 20 + 23 * n := by
  have hread : isPathLength length = true ↔
      (20 + 23 : Int) ≤ length ∧ (length - 20 : Int) % 23 = 0 := by
    rw [isPathLength, Bool.and_eq_true, decide_eq_true_iff, beq_iff_eq]
    exact Iff.rfl
  rw [hread]
  constructor
  · rintro ⟨hlow,hhops⟩
    exact ⟨(length - 20) / 23, by omega, by omega⟩
  · rintro ⟨n,hn,rfl⟩
    omega

theorem isPathLength_eq_false {length : Nat} (h : ¬ ∃ n ≥ 1, length = 20 + 23 * n) :
    isPathLength length = false :=
  Bool.eq_false_iff.mpr fun hs => h ((isPathLength_iff _).mp hs)

namespace Path.Legal

theorem length_packed (h : p.Legal signed) : p.packed.length = 20 + 23 * p.fees.length := by
  obtain ⟨token,tokens,ht⟩ := List.exists_cons_of_length_eq_add_one h.ends
  have hhops := h.ends
  rw [ht] at hhops
  rw [packed, ht, List.length_append, token.length_bytes, length_packHops (Nat.succ.inj hhops)]
  rfl

/-- A path is read back from its bytes. -/
theorem decode_packed (h : p.Legal signed) : decodePathBytes p.packed signed reason = .ok p := by
  obtain ⟨token,tokens,ht⟩ := List.exists_cons_of_length_eq_add_one h.ends
  have hends := h.ends
  rw [ht] at hends
  have hpacked : p.packed = token.bytes ++ packHops p.fees tokens := by rw [packed, ht]
  have hfirst : readAddress p.packed 0 = .ok token := by
    rw [hpacked]
    exact readAddress_append [] _ token
  have hhops : readHops signed p.packed p.fees.length addressWidth = .ok (p.fees, tokens) := by
    rw [hpacked, addressWidth, ← token.length_bytes]
    exact readHops_packHops token.bytes (Nat.succ.inj hends) h.fees
  have hcount : (p.packed.length - addressWidth) / hopWidth = p.fees.length := by
    simp only [h.length_packed, addressWidth, hopWidth, feeWidth]
    omega
  have hshape := (isPathLength_iff _).mpr ⟨p.fees.length, h.hops, h.length_packed⟩
  simp only [decodePathBytes, hshape, Bool.not_true, Bool.false_eq_true, if_false, hcount, hfirst,
    hhops, ok_bind]
  rw [← ht]
  rfl

end Path.Legal

/-- Every string of the right length is a packed path. -/
theorem exists_legal (signed : Bool) {bs : List UInt8} {n : Nat} (hn : 1 ≤ n)
    (h : bs.length = 20 + 23 * n) :
    ∃ p : Path, p.Legal signed ∧ p.packed = bs := by
  have htoken : (bs.take addressWidth).length = 20 := by
    rw [List.length_take, h]
    exact Nat.min_eq_left (Nat.le_add_right ..)
  have hhops : (bs.drop addressWidth).length = hopWidth * n := by
    rw [List.length_drop, h]
    exact Nat.add_sub_cancel_left ..
  obtain ⟨fees,tokens,hf,ht,hranges,hpack⟩ := exists_packHops signed hhops
  refine ⟨⟨⟨_, htoken⟩ :: tokens, fees⟩, ⟨hf ▸ hn, by simp [hf, ht], hranges⟩, ?_⟩
  simp only [Path.packed, hpack, List.take_append_drop]

/-- The last token stands at the end. -/
theorem exists_front {tokens : List Address} {fees : List Int} {last : Address}
    (h : tokens.length = fees.length + 1) (hl : tokens.getLast? = some last) :
    ∃ front, Path.packed ⟨tokens, fees⟩ = front ++ last.bytes := by
  induction fees generalizing tokens with
  | nil =>
    obtain ⟨token,tokens,rfl⟩ := List.exists_cons_of_length_eq_add_one h
    rw [List.eq_nil_of_length_eq_zero (Nat.succ.inj h)] at hl ⊢
    cases hl
    exact ⟨[], List.append_nil _⟩
  | cons fee fees ih =>
    obtain ⟨token,tokens,rfl⟩ := List.exists_cons_of_length_eq_add_one h
    obtain ⟨next,tokens,rfl⟩ := List.exists_cons_of_length_eq_add_one (Nat.succ.inj h)
    rw [List.getLast?_cons_cons] at hl
    obtain ⟨front,hfront⟩ := ih (Nat.succ.inj h) hl
    refine ⟨token.bytes ++ (BigEndian.ofInt feeWidth fee ++ front), ?_⟩
    rw [List.append_assoc, List.append_assoc, ← hfront]
    rfl

/-- The readers find both ends of a path. -/
theorem Path.Legal.read_ends (h : p.Legal signed) :
    ∃ first last, p.tokens.head? = some first ∧ p.tokens.getLast? = some last ∧
      ∀ rest, readAddress (p.packed ++ rest) 0 = .ok first ∧
        readAddress (p.packed ++ rest) (p.packed.length - addressWidth : Nat) = .ok last := by
  obtain ⟨first,tokens,ht⟩ := List.exists_cons_of_length_eq_add_one h.ends
  have hne : p.tokens ≠ [] := by
    rw [ht]
    exact List.cons_ne_nil first tokens
  have hlast := List.getLast?_eq_some_getLast hne
  obtain ⟨front,hfront⟩ := exists_front h.ends hlast
  refine ⟨first, _, by rw [ht]; rfl, hlast, fun rest => ⟨?_, ?_⟩⟩
  · have hpacked : p.packed ++ rest = [] ++ (first.bytes ++ (packHops p.fees tokens ++ rest)) := by
      rw [packed, ht, List.nil_append, List.append_assoc]
    rw [hpacked]
    exact readAddress_append [] _ first
  · have hstart : p.packed.length - addressWidth = front.length := by
      rw [show p.packed = _ from hfront, List.length_append, Address.length_bytes, addressWidth,
        Nat.add_sub_cancel]
    rw [hstart, show p.packed = _ from hfront, List.append_assoc]
    exact readAddress_append front rest _

theorem decodePathBytes_of_length {bs : List UInt8} (h : ¬ ∃ n ≥ 1, bs.length = 20 + 23 * n) :
    decodePathBytes bs signed reason = .error (.revert reason) := by
  simp only [decodePathBytes, isPathLength_eq_false h, Bool.not_false, if_true, error_bind]

theorem decodePathBytes_eq_ok {bs : List UInt8} :
    decodePathBytes bs signed reason = .ok p ↔ p.Legal signed ∧ p.packed = bs := by
  constructor
  · intro h
    by_cases hlength : ∃ n ≥ 1, bs.length = 20 + 23 * n
    · obtain ⟨n,hn,hlength⟩ := hlength
      obtain ⟨q,hq,rfl⟩ := exists_legal signed hn hlength
      rw [hq.decode_packed] at h
      cases h
      exact ⟨hq, rfl⟩
    · rw [decodePathBytes_of_length hlength] at h
      cases h
  · rintro ⟨h,rfl⟩
    exact h.decode_packed

end Paths

/-- A path is read from exactly the strings of one token and at least one hop, and any other string is
refused with the given reason. What is read packs to the string again, so no other string is read so,
and the digits of the string are read like the string. -/
theorem paths_are_read_exactly (b : List UInt8) (signed : Bool) (reason : String) :
    ((∃ p, decodePath (.bytes b) signed reason = .ok p) ↔ ∃ n ≥ 1, b.length = 20 + 23 * n) ∧
    ((¬ ∃ n ≥ 1, b.length = 20 + 23 * n) →
      decodePath (.bytes b) signed reason = .error (.revert reason)) ∧
    (∀ p, decodePath (.bytes b) signed reason = .ok p →
      ∃ n ≥ 1, b.length = 20 + 23 * n ∧ p.tokens.length = n + 1 ∧ p.fees.length = n ∧
        (∀ fee ∈ p.fees, IsFee signed fee) ∧ p.packed = b ∧
        ∀ b' reason', decodePath (.bytes b') signed reason' = .ok p → b' = b) ∧
    ∀ s : String, (s.toList.map Char.toLower = Hex.encodeChars b ∨
        s.toList.map Char.toLower = '0' :: 'x' :: Hex.encodeChars b) →
      decodePath (.text s) signed reason = decodePath (.bytes b) signed reason := by
  have hread : ∀ b' reason', decodePath (.bytes b') signed reason' =
      decodePathBytes b' signed reason' := fun _ _ => rfl
  simp only [hread, decodePathBytes_eq_ok]
  refine ⟨⟨?_, ?_⟩, decodePathBytes_of_length, ?_, ?_⟩
  · rintro ⟨p,hp,rfl⟩
    exact ⟨_, hp.hops, hp.length_packed⟩
  · rintro ⟨n,hn,hlength⟩
    exact exists_legal signed hn hlength
  · rintro p ⟨hp,rfl⟩
    exact ⟨_, hp.hops, hp.length_packed, hp.ends, rfl, hp.fees, rfl, fun b' _ h => h.2.symm⟩
  · intro s hs
    rw [decodePath, CallData.bytesOfValue, CallData.bytesOfText_eq_ok hs]
    rfl

end Swap

end Basketry
