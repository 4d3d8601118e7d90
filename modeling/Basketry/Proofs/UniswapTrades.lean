import Basketry.Proofs.SwapCalls

namespace Basketry.Swap

/-- The token that is sold: a path with the amount bought fixed runs backwards. -/
def Path.sold (p : Path) (fixInput : Bool) : Option Address :=
  if fixInput then p.tokens.head? else p.tokens.getLast?

def Path.bought (p : Path) (fixInput : Bool) : Option Address :=
  if fixInput then p.tokens.getLast? else p.tokens.head?

theorem readFlag_append (bs : List UInt8) (flag : UInt8) :
    readFlag (bs ++ [flag]) (bs.length : Nat) =
      if 1 < flag then .error (.revert "Invalid bool data") else .ok (flag = 1) :=
  (readFlag_reads.framed bs [flag] [] rfl).trans (readFlag_byte flag)

namespace UniswapAdapter

theorem isDataLength_iff (length : Nat) :
    isDataLength length = true ↔ ∃ n ≥ 1, length = 20 + 23 * n + 1 := by
  have hread : isDataLength length = true ↔
      20 + 23 + 1 ≤ length ∧ (length - 1 - 20) % 23 = 0 := by
    rw [isDataLength, Bool.and_eq_true, decide_eq_true_iff, beq_iff_eq]
    exact Iff.rfl
  rw [hread]
  constructor
  · rintro ⟨hlow,hhops⟩
    exact ⟨(length - 21) / 23, by omega, by omega⟩
  · rintro ⟨n,hn,rfl⟩
    omega

section Trade
variable (u : UniswapAdapter) {s d r : Value} {source destination recipient : Address} {q m : Int}

theorem trade_of_length {data : List UInt8} (h : ¬ ∃ n ≥ 1, data.length = 20 + 23 * n + 1) :
    u.trade s d r (.int q) (.int m) (.bytes data) = .error (.revert "Invalid data") := by
  have hshape : isDataLength data.length = false :=
    Bool.eq_false_iff.mpr fun hs => h ((isDataLength_iff _).mp hs)
  simp only [trade, CallData.bytesOfValue, ok_bind, hshape, Bool.not_false, if_true, error_bind]

/-- The two amounts in the order of the call. -/
def limits (fixInput : Bool) (q m : Int) : List Int := if fixInput then [q, m] else [m, q]

/-- The call names what the trade limits, and says it so that the decoder finds it again. -/
theorem exists_call (fixInput : Bool) (path : List UInt8) (recipient : Address)
    (hq : 0 ≤ q ∧ q < 2 ^ 256) (hm : 0 ≤ m ∧ m < 2 ^ 256) :
    let signature := if fixInput then exactInput else exactOutput
    let arguments := [Abi.Datum.items (routerData path recipient (limits fixInput q m))]
    ∃ call, CallData.call signature argumentTypes
        [.list (.bytes path :: recipient.toValue :: (limits fixInput q m).map .int)] = .ok call ∧
      call.take 4 = CallData.selector signature ∧
      call.drop 4 = Abi.encodeArguments argumentTypes arguments ∧
      (path.length < 2 ^ 256 → Abi.decodeArguments argumentTypes (call.drop 4) = .ok arguments) := by
  have hforth : ∀ n ∈ [q, m], 0 ≤ n ∧ n < 2 ^ 256 := by simpa using ⟨hq, hm⟩
  have hback : ∀ n ∈ [m, q], 0 ≤ n ∧ n < 2 ^ 256 := by simpa using ⟨hm, hq⟩
  cases fixInput with
  | true => exact exists_routerCall exactInput path recipient hforth (show 2 ≤ 3 by decide)
  | false => exact exists_routerCall exactOutput path recipient hback (show 2 ≤ 3 by decide)

/-- A path with a flag behind it is judged flag first, then the token sold, then the token bought. -/
theorem trade_packed {p : Path} (hp : p.Legal false) (flag : UInt8)
    (hs : Address.ofValue s = .ok source) (hd : Address.ofValue d = .ok destination)
    (hr : Address.ofValue r = .ok recipient) (hq : 0 ≤ q ∧ q < 2 ^ 256) (hm : 0 ≤ m ∧ m < 2 ^ 256) :
    let fixInput : Bool := flag = 1
    let arguments := [Abi.Datum.items (routerData p.packed recipient (limits fixInput q m))]
    ∃ call, u.trade s d r (.int q) (.int m) (.bytes (p.packed ++ [flag])) =
        (if 1 < flag then .error (.revert "Invalid bool data")
        else if p.sold fixInput ≠ some source then .error (.revert "Source token path mismatch")
        else if p.bought fixInput ≠ some destination then
          .error (.revert "Destination token path mismatch")
        else .ok ⟨u.router, 0, call⟩) ∧
      call.take 4 = CallData.selector (if fixInput then exactInput else exactOutput) ∧
      call.drop 4 = Abi.encodeArguments argumentTypes arguments ∧
      (p.packed.length < 2 ^ 256 →
        Abi.decodeArguments argumentTypes (call.drop 4) = .ok arguments) := by
  intro fixInput arguments
  obtain ⟨first,last,hfirst,hlast,hread⟩ := hp.read_ends
  obtain ⟨call,hcall,hcarries⟩ := exists_call fixInput p.packed recipient hq hm
  have hshape : isDataLength (p.packed ++ [flag]).length = true := by
    rw [isDataLength_iff, List.length_append, hp.length_packed]
    exact ⟨_, hp.hops, rfl⟩
  have hcount : (p.packed ++ [flag]).length - 1 = p.packed.length := by simp
  have hswap : ∀ a b : Address, some a ≠ some b ↔ b ≠ a := by simp [eq_comm]
  refine ⟨call, ?_, hcarries⟩
  simp only [trade, CallData.bytesOfValue, ok_bind, hshape, Bool.not_true, Bool.false_eq_true,
    if_false, hcount, readFlag_append, (hread _).1, (hread _).2, hs, hd, hr, List.dropLast_concat]
  by_cases hflag : 1 < flag
  · rw [if_pos hflag, if_pos hflag, error_bind]
  rw [if_neg hflag, if_neg hflag, ok_bind]
  cases hfix : fixInput <;> rw [hfix] at hcall <;>
    simp only [limits, Bool.false_eq_true, if_false, if_true, List.map_cons,
      List.map_nil] at hcall <;>
    simp only [show decide (flag = 1) = _ from hfix, Path.sold, Path.bought, hfirst, hlast,
      Bool.false_eq_true, if_false, if_true, hswap, error_bind, hcall, ok_bind] <;>
    rfl

/-- Trade data that is long enough is a path with a flag behind it. -/
theorem exists_path {data : List UInt8} {n : Nat} (hn : 1 ≤ n) (h : data.length = 20 + 23 * n + 1) :
    ∃ (p : Path) (flag : UInt8), p.Legal false ∧ p.packed ++ [flag] = data := by
  have hne : data ≠ [] := List.ne_nil_of_length_eq_add_one h
  obtain ⟨p,hp,hpack⟩ := exists_legal false hn
    (show data.dropLast.length = 20 + 23 * n by rw [List.length_dropLast, h, Nat.add_sub_cancel])
  exact ⟨p, data.getLast hne, hp, by rw [hpack, List.dropLast_concat_getLast]⟩

/-- A trade is accepted on a path with a flag behind it whose ends are the tokens of the trade. -/
theorem trade_accepted {data : List UInt8} (hs : Address.ofValue s = .ok source)
    (hd : Address.ofValue d = .ok destination) (hr : Address.ofValue r = .ok recipient)
    (hq : 0 ≤ q ∧ q < 2 ^ 256) (hm : 0 ≤ m ∧ m < 2 ^ 256) :
    (∃ call, u.trade s d r (.int q) (.int m) (.bytes data) = .ok call) ↔
      ∃ (p : Path) (fixInput : Bool), p.Legal false ∧ p.sold fixInput = some source ∧
        p.bought fixInput = some destination ∧ data = p.packed ++ [if fixInput then 1 else 0] := by
  constructor
  · rintro ⟨call,h⟩
    by_cases hlength : ∃ n ≥ 1, data.length = 20 + 23 * n + 1
    · obtain ⟨n,hn,hlength⟩ := hlength
      obtain ⟨p,flag,hp,rfl⟩ := exists_path hn hlength
      obtain ⟨call',hreply,-⟩ := trade_packed u hp flag hs hd hr hq hm
      rw [hreply] at h
      split at h
      · cases h
      rename_i hflag
      split at h
      · cases h
      rename_i hsold
      split at h
      · cases h
      rename_i hbought
      refine ⟨p, flag = 1, hp, not_not.mp hsold, not_not.mp hbought, ?_⟩
      obtain rfl | rfl | hmore := flag_cases flag
      · rfl
      · rfl
      · exact absurd hmore hflag
    · rw [trade_of_length u hlength] at h
      cases h
  · rintro ⟨p,fixInput,hp,hsold,hbought,rfl⟩
    have hone : decide ((if fixInput then 1 else 0 : UInt8) = 1) = fixInput := by
      cases fixInput <;> rfl
    have hflag : ¬ 1 < (if fixInput then 1 else 0 : UInt8) := by cases fixInput <;> decide
    obtain ⟨call,hreply,-⟩ := trade_packed u hp (if fixInput then 1 else 0) hs hd hr hq hm
    rw [hone, if_neg hflag, if_neg (not_not.mpr hsold), if_neg (not_not.mpr hbought)] at hreply
    exact ⟨_, hreply⟩

end Trade

/-- What is packed from tokens is a path with a flag behind it, and its ends are those of the
tokens. -/
theorem tradeData_image {data : List UInt8} {source destination : Address} :
    (∃ (tokens : List Value) (fees : List Int) (fixInput : Bool),
      (∀ fee ∈ fees, 0 ≤ fee ∧ fee < 2 ^ 24) ∧
      tradeData tokens (fees.map .int) (.bool fixInput) = .ok data ∧
      (if fixInput then tokens.head? else tokens.getLast?).map Address.ofValue = some (.ok source) ∧
      (if fixInput then tokens.getLast? else tokens.head?).map Address.ofValue =
        some (.ok destination)) ↔
    ∃ (p : Path) (fixInput : Bool), p.Legal false ∧ p.sold fixInput = some source ∧
      p.bought fixInput = some destination ∧ data = p.packed ++ [if fixInput then 1 else 0] := by
  have hends : ∀ (tokens : List Value) (p : Path) (b : Bool),
      tokens.map Address.ofValue = p.tokens.map .ok →
      ((if b then tokens.head? else tokens.getLast?).map Address.ofValue = some (.ok source) ↔
        p.sold b = some source) ∧
      ((if b then tokens.getLast? else tokens.head?).map Address.ofValue = some (.ok destination) ↔
        p.bought b = some destination) := by
    intro tokens p b ht
    cases b <;>
      simp [Path.sold, Path.bought, head?_addresses ht, getLast?_addresses ht]
  constructor
  · rintro ⟨tokens,fees,fixInput,-,hdata,hsold,hbought⟩
    obtain ⟨p,ht,hf,hp,_,⟨⟩,hdata⟩ := tradeData_eq_ok.mp hdata
    exact ⟨p, fixInput, hp, (hends tokens p fixInput ht).1.mp hsold,
      (hends tokens p fixInput ht).2.mp hbought, hdata⟩
  · rintro ⟨p,fixInput,hp,hsold,hbought,hdata⟩
    have ht := map_toValue p.tokens
    exact ⟨_, p.fees, fixInput, hp.fees,
      tradeData_eq_ok.mpr ⟨p, ht, rfl, hp, fixInput, rfl, hdata⟩,
      (hends _ p fixInput ht).1.mpr hsold, (hends _ p fixInput ht).2.mpr hbought⟩

section Accepted
variable (u : UniswapAdapter) (data : List UInt8) {s d r : Value}
  {source destination recipient : Address} {q m : Int}

/-- The adapter takes exactly its format. Data of another length is refused first, then a flag above
one, then a path that does not begin or end with the tokens of the trade; with a zero flag the path
runs backwards. What is left is called with the path, the recipient and both amounts, and it is what
the adapter itself packs from tokens with these ends, fees and a flag. -/
theorem exactly_flagged_paths_are_traded (hs : Address.ofValue s = .ok source)
    (hd : Address.ofValue d = .ok destination) (hr : Address.ofValue r = .ok recipient)
    (hq : 0 ≤ q ∧ q < 2 ^ 256) (hm : 0 ≤ m ∧ m < 2 ^ 256) :
    let reply := u.trade s d r (.int q) (.int m) (.bytes data)
    (reply = .error (.revert "Invalid data") ↔ ¬ ∃ n ≥ 1, data.length = 20 + 23 * n + 1) ∧
    (∀ n ≥ 1, data.length = 20 + 23 * n + 1 → ∃ path p flag fixInput, data = path ++ [flag] ∧
      decodePath (.bytes path) false "Invalid data" = .ok p ∧ (fixInput = true ↔ flag = 1) ∧
      (reply = .error (.revert "Invalid bool data") ↔ 1 < flag) ∧
      (reply = .error (.revert "Source token path mismatch") ↔
        flag ≤ 1 ∧ p.sold fixInput ≠ some source) ∧
      (reply = .error (.revert "Destination token path mismatch") ↔
        flag ≤ 1 ∧ p.sold fixInput = some source ∧ p.bought fixInput ≠ some destination) ∧
      (flag ≤ 1 → p.sold fixInput = some source → p.bought fixInput = some destination →
        ∃ call, reply = .ok ⟨u.router, 0, call⟩ ∧
          call.take 4 = CallData.selector (if fixInput then exactInput else exactOutput) ∧
          let arguments := [Abi.Datum.items (.raw path :: .account recipient ::
            (if fixInput then [q, m] else [m, q]).map .number)]
          call.drop 4 = Abi.encodeArguments argumentTypes arguments ∧
          (path.length < 2 ^ 256 →
            Abi.decodeArguments argumentTypes (call.drop 4) = .ok arguments))) ∧
    ((∃ call, reply = .ok call) ↔
      ∃ (tokens : List Value) (fees : List Int) (fixInput : Bool),
        (∀ fee ∈ fees, 0 ≤ fee ∧ fee < 2 ^ 24) ∧
        tradeData tokens (fees.map .int) (.bool fixInput) = .ok data ∧
        (if fixInput then tokens.head? else tokens.getLast?).map Address.ofValue = some (.ok source) ∧
        (if fixInput then tokens.getLast? else tokens.head?).map Address.ofValue =
          some (.ok destination)) := by
  intro reply
  refine ⟨⟨?_, trade_of_length u⟩, ?_, (trade_accepted u hs hd hr hq hm).trans tradeData_image.symm⟩
  · rintro hreply ⟨n,hn,hlength⟩
    obtain ⟨p,flag,hp,rfl⟩ := exists_path hn hlength
    obtain ⟨call,hjudged,-⟩ := trade_packed u hp flag hs hd hr hq hm
    have hrefused := hjudged.symm.trans hreply
    split at hrefused
    · simp at hrefused
    split at hrefused
    · simp at hrefused
    split at hrefused <;> simp at hrefused
  · intro n hn hlength
    obtain ⟨p,flag,hp,rfl⟩ := exists_path hn hlength
    obtain ⟨call,hjudged,hcarries⟩ := trade_packed u hp flag hs hd hr hq hm
    refine ⟨p.packed, p, flag, flag = 1, rfl, hp.decode_packed, by simp, ?_⟩
    have hlow : flag ≤ 1 ↔ ¬ 1 < flag := UInt8.not_lt.symm
    rw [hlow, show reply = _ from hjudged]
    generalize decide (flag = 1) = fixInput at hcarries ⊢
    by_cases hflag : 1 < flag
    · simp [hflag]
    by_cases hsold : p.sold fixInput = some source
    · by_cases hbought : p.bought fixInput = some destination
      · refine ⟨?_, ?_, ?_, fun _ _ _ => ⟨call, ?_, hcarries⟩⟩ <;> simp [hflag, hsold, hbought]
      · simp [hflag, hsold, hbought]
    · simp [hflag, hsold]

/-- One hop with its amount sold fixed, between the first and the second token. -/
def oneHop : List UInt8 := List.replicate 20 1 ++ [0, 11, 184] ++ List.replicate 20 2 ++ [1]

theorem exactly_flagged_paths_are_traded_one_hop :
    ∃ call, trade ⟨Address.zero⟩ (.bytes (List.replicate 20 1)) (.bytes (List.replicate 20 2))
      (.bytes (List.replicate 20 3)) (.int 5) (.int 4) (.bytes oneHop) = .ok call :=
  (exactly_flagged_paths_are_traded ⟨Address.zero⟩ oneHop rfl rfl rfl (by decide) (by decide)).2.2.mpr
    ⟨[.bytes (List.replicate 20 1), .bytes (List.replicate 20 2)], [3000], true, by decide, rfl, rfl,
      rfl⟩

end Accepted

end UniswapAdapter

end Basketry.Swap
