import Basketry.Proofs.EncodedArguments
import Basketry.Proofs.PathData

namespace Basketry

theorem Keccak.length_hash (bs : List UInt8) : (hash bs).length = 32 := by
  simp [hash, wordBytes, List.map_const']

theorem CallData.length_selector (signature : String) : (selector signature).length = 4 := by
  rw [selector, Keccak.hashText, List.length_take, Keccak.length_hash]
  rfl

namespace Swap
open Abi (Ty Datum)

/-- What a router is told: a path, the account that receives, and some amounts. -/
def routerMembers (amounts : Nat) : List Ty :=
  .bytes :: .address :: List.replicate amounts (.uint 32)

def routerData (path : List UInt8) (recipient : Address) (amounts : List Int) : List Datum :=
  .raw path :: .account recipient :: amounts.map .number

section Amounts
variable {amounts : List Int}

theorem ofValues_amounts (h : ∀ n ∈ amounts, 0 ≤ n ∧ n < 2 ^ 256) :
    Datum.ofValues (List.replicate amounts.length (.uint 32)) (amounts.map .int) =
      .ok (amounts.map .number) := by
  induction amounts with
  | nil => rfl
  | cons n amounts ih =>
    rw [List.forall_mem_cons] at h
    have hn : Datum.ofValue (.uint 32) (.int n) = .ok (.number n) := ranged_eq_ok.mpr ⟨h.1, rfl⟩
    rw [List.length_cons, List.replicate_succ, List.map_cons, Datum.ofValues, hn, ok_bind, ih h.2]
    rfl

theorem fitAll_amounts (h : ∀ n ∈ amounts, 0 ≤ n ∧ n < 2 ^ 256) :
    Abi.FitAll (List.replicate amounts.length (.uint 32)) (amounts.map .number) := by
  induction amounts with
  | nil => exact .nil
  | cons n amounts ih =>
    rw [List.forall_mem_cons] at h
    exact .cons (.uint (Nat.le_refl 32) h.1.1 h.1.2) (ih h.2)

theorem headSizes_routerMembers (n : Nat) : Abi.headSizes (routerMembers n) = 64 + n * 32 := by
  have hwords := Abi.headSizes_replicate (.uint 32) n
  rw [Abi.headSizes] at hwords
  rw [Abi.headSizes, routerMembers, List.foldr_cons, List.foldr_cons, hwords, ← Nat.add_assoc]
  simp [Ty.headSize, Ty.isDynamic, Ty.staticSize]

/-- A path whose length is a word and amounts that are words are read back. -/
theorem decode_routerData {path : List UInt8} (recipient : Address) (hp : path.length < 2 ^ 256)
    (h : ∀ n ∈ amounts, 0 ≤ n ∧ n < 2 ^ 256) (hl : amounts.length ≤ 3) :
    Abi.decodeArguments [.tuple (routerMembers amounts.length)]
        (Abi.encodeArguments [.tuple (routerMembers amounts.length)]
          [.items (routerData path recipient amounts)]) =
      .ok [.items (routerData path recipient amounts)] := by
  have hmembers : Abi.FitAll (routerMembers amounts.length) (routerData path recipient amounts) :=
    .cons (.bytes hp) (.cons (.address recipient) (fitAll_amounts h))
  have hstatic : ∀ t ∈ Ty.address :: List.replicate amounts.length (Ty.uint 32),
      t.isDynamic = false := by
    simp [Ty.isDynamic]
  have hroom : 64 + amounts.length * 32 < BigEndian.count 32 :=
    Nat.lt_of_le_of_lt (show _ ≤ 160 by omega) (by decide)
  -- Only the path has an offset, and it is as long as the head.
  have hreach : Abi.LayoutReach
      (Abi.encodeParts (routerMembers amounts.length) (routerData path recipient amounts)) := by
    rw [Abi.LayoutReach, hmembers.headLength_eq, headSizes_routerMembers]
    exact ⟨hroom, Abi.reach_static hstatic⟩
  have hsome : routerData path recipient amounts ≠ [] := List.cons_ne_nil _ _
  have hfits := Abi.FitAll.cons (.tuple hsome hmembers hreach) .nil
  refine Abi.decodeArguments_encodeArguments hfits ?_
  rw [Abi.LayoutReach, hfits.headLength_eq]
  exact ⟨show 32 < BigEndian.count 32 by decide, trivial⟩

/-- The call of a router that takes a path, an account and amounts in one tuple. -/
theorem exists_routerCall (signature : String) (path : List UInt8) (recipient : Address)
    (h : ∀ n ∈ amounts, 0 ≤ n ∧ n < 2 ^ 256) (hl : amounts.length ≤ 3) :
    ∃ call, CallData.call signature [.tuple (routerMembers amounts.length)]
        [.list (.bytes path :: recipient.toValue :: amounts.map .int)] = .ok call ∧
      call.take 4 = CallData.selector signature ∧
      call.drop 4 = Abi.encodeArguments [.tuple (routerMembers amounts.length)]
        [.items (routerData path recipient amounts)] ∧
      (path.length < 2 ^ 256 →
        Abi.decodeArguments [.tuple (routerMembers amounts.length)] (call.drop 4) =
          .ok [.items (routerData path recipient amounts)]) := by
  have hvalues : Datum.ofArguments [.tuple (routerMembers amounts.length)]
      [.list (.bytes path :: recipient.toValue :: amounts.map .int)] =
        .ok [.items (routerData path recipient amounts)] := by
    have hmembers : Datum.ofValues (routerMembers amounts.length)
        (.bytes path :: recipient.toValue :: amounts.map .int) =
          .ok (routerData path recipient amounts) := by
      rw [routerMembers, Datum.ofValues, Datum.ofValue, ok_bind, Datum.ofValues, ofValue_token,
        ok_bind, ofValues_amounts h]
      rfl
    have htuple : Datum.ofValue (.tuple (routerMembers amounts.length))
        (.list (.bytes path :: recipient.toValue :: amounts.map .int)) =
          .ok (.items (routerData path recipient amounts)) := by
      rw [Datum.ofValue, if_pos (by simp [routerMembers]), hmembers]
      rfl
    simp only [Datum.ofArguments, List.length_singleton, if_true, Datum.ofValues, htuple, ok_bind]
    rfl
  have hselector := CallData.length_selector signature
  refine ⟨_, by rw [CallData.call, hvalues]; rfl, ?_, ?_, fun hp => ?_⟩
  · exact List.take_left' hselector
  · exact List.drop_left' hselector
  · rw [List.drop_left' hselector]
    exact decode_routerData recipient hp h hl

end Amounts

end Swap

end Basketry
