import Basketry.Proofs.SwapCalls
import Basketry.Proofs.Outcomes

namespace Basketry

/-- The time of the block that a node gives as its latest. -/
def Node.time (n : Node) : Except Fault Int := n.block >>= (·.field "timestamp") >>= Value.whole

/-- A session after its node was asked for the latest block. -/
def Session.askedForBlock (s : Session) : Session := { s with node := s.node.ask (.block "latest") }

theorem Work.outcome_clock (session : Session) :
    Work.clock.outcome session = (session.node.time, session.askedForBlock) := by
  have hblock : Work.latestBlock.outcome session = (session.node.block, session.askedForBlock) :=
    Work.outcome_ofReply session.node.block session.askedForBlock
  rw [Work.clock, Node.time]
  cases hreply : session.node.block with
  | error e =>
    rw [hreply] at hblock
    exact Work.outcome_bind_error hblock _
  | ok block =>
    rw [hreply] at hblock
    rw [Work.outcome_bind_ok hblock]
    exact Work.outcome_ofReply ..

namespace Swap.SlipstreamAdapter

section Paths
variable {s d : Value} {source destination : Address}

theorem checkedPath_of_length {data : List UInt8} (h : ¬ ∃ n ≥ 1, data.length = 20 + 23 * n) :
    checkedPath s d (.bytes data) = .error (reason "invalid path data") := by
  simp only [checkedPath, CallData.bytesOfValue, ok_bind, isPathLength_eq_false h, Bool.not_false,
    if_true, error_bind]

/-- A path is judged by the token sold and then by the token bought. -/
theorem checkedPath_packed {p : Path} (hp : p.Legal true) (hs : Address.ofValue s = .ok source)
    (hd : Address.ofValue d = .ok destination) :
    checkedPath s d (.bytes p.packed) =
      if p.tokens.head? ≠ some source then .error (reason "source token path mismatch")
      else if p.tokens.getLast? ≠ some destination then
        .error (reason "destination token path mismatch")
      else .ok p.packed := by
  obtain ⟨first,last,hfirst,hlast,hread⟩ := hp.read_ends
  have hshape := (isPathLength_iff _).mpr ⟨_, hp.hops, hp.length_packed⟩
  have hwhole := hread []
  rw [List.append_nil] at hwhole
  have hswap : ∀ a b : Address, some a ≠ some b ↔ b ≠ a := by simp [eq_comm]
  simp only [checkedPath, CallData.bytesOfValue, ok_bind, hshape, Bool.not_true, Bool.false_eq_true,
    if_false, hwhole.1, hwhole.2, hs, hd, hfirst, hlast, hswap, error_bind]
  rfl

end Paths

section Trade
variable (a : SlipstreamAdapter) {s d r : Value} {source destination recipient : Address}
  {q m t : Int}

/-- A trade with a deadline asks nothing. -/
theorem trade_outcome (data : Value) (session : Session) :
    (a.trade s d r (.int q) (.int m) data (.int t)).outcome session =
      (checkedPath s d data >>= fun path => a.tradeCall path r (.int t) (.int q) (.int m),
        session) := by
  have hchecked := Work.outcome_ofReply (checkedPath s d data) session
  rw [trade]
  cases hpath : checkedPath s d data with
  | error e =>
    rw [hpath] at hchecked
    exact Work.outcome_bind_error hchecked _
  | ok path =>
    rw [hpath] at hchecked
    rw [Work.outcome_bind_ok hchecked]
    exact Work.outcome_ofReply ..

/-- A trade without deadline asks for the time, and only behind the checks. -/
theorem trade_outcome_null (data : Value) (session : Session) (hc : a.hasClock = true) :
    (a.trade s d r (.int q) (.int m) data .null).outcome session =
      match checkedPath s d data with
      | .ok path => (session.node.time >>= fun now => a.tradeCall path r (.int now) (.int q) (.int m),
          session.askedForBlock)
      | .error e => (.error e, session) := by
  have hchecked := Work.outcome_ofReply (checkedPath s d data) session
  have hclock := Work.outcome_clock session
  rw [trade, deadlineOr, if_pos hc]
  cases hpath : checkedPath s d data with
  | error e =>
    rw [hpath] at hchecked
    exact Work.outcome_bind_error hchecked _
  | ok path =>
    rw [hpath] at hchecked
    rw [Work.outcome_bind_ok hchecked, bind_map_left]
    dsimp only
    cases htime : session.node.time with
    | error e =>
      rw [htime] at hclock
      exact Work.outcome_bind_error hclock _
    | ok now =>
      rw [htime] at hclock
      rw [Work.outcome_bind_ok hclock]
      exact Work.outcome_ofReply ..

theorem exists_tradeCall (path : List UInt8) (hr : Address.ofValue r = .ok recipient)
    (hq : 0 ≤ q ∧ q < 2 ^ 256) (hm : 0 ≤ m ∧ m < 2 ^ 256) (ht : 0 ≤ t ∧ t < 2 ^ 256) :
    let arguments := [Abi.Datum.items (routerData path recipient [t, q, m])]
    ∃ call, a.tradeCall path r (.int t) (.int q) (.int m) = .ok ⟨a.router, 0, call⟩ ∧
      call.take 4 = CallData.selector exactInput ∧
      call.drop 4 = Abi.encodeArguments argumentTypes arguments ∧
      (path.length < 2 ^ 256 → Abi.decodeArguments argumentTypes (call.drop 4) = .ok arguments) := by
  have hwords : ∀ n ∈ [t, q, m], 0 ≤ n ∧ n < 2 ^ 256 := by simpa using ⟨ht, hq, hm⟩
  obtain ⟨call,hcall,hcarries⟩ := exists_routerCall exactInput path recipient hwords (Nat.le_refl 3)
  have hcall : CallData.call exactInput argumentTypes
      [.list [.bytes path, recipient.toValue, .int t, .int q, .int m]] = .ok call := hcall
  refine ⟨call, ?_, hcarries⟩
  rw [tradeCall, hr, ok_bind, hcall]
  rfl

/-- With a deadline a path is judged and then called with, and nothing is asked. -/
theorem trade_packed {p : Path} (hp : p.Legal true) (session : Session)
    (hs : Address.ofValue s = .ok source) (hd : Address.ofValue d = .ok destination) :
    (a.trade s d r (.int q) (.int m) (.bytes p.packed) (.int t)).outcome session =
      (if p.tokens.head? ≠ some source then .error (reason "source token path mismatch")
      else if p.tokens.getLast? ≠ some destination then
        .error (reason "destination token path mismatch")
      else a.tradeCall p.packed r (.int t) (.int q) (.int m), session) := by
  rw [trade_outcome, checkedPath_packed hp hs hd]
  split
  · rfl
  split <;> rfl

/-- A trade is accepted on a path from the token sold to the token bought. -/
theorem trade_accepted {data : List UInt8} (session : Session) (hs : Address.ofValue s = .ok source)
    (hd : Address.ofValue d = .ok destination) (hr : Address.ofValue r = .ok recipient)
    (hq : 0 ≤ q ∧ q < 2 ^ 256) (hm : 0 ≤ m ∧ m < 2 ^ 256) (ht : 0 ≤ t ∧ t < 2 ^ 256) :
    (∃ call,
        ((a.trade s d r (.int q) (.int m) (.bytes data) (.int t)).outcome session).1 = .ok call) ↔
      ∃ p : Path, p.Legal true ∧ p.tokens.head? = some source ∧
        p.tokens.getLast? = some destination ∧ data = p.packed := by
  constructor
  · rintro ⟨call,h⟩
    by_cases hlength : ∃ n ≥ 1, data.length = 20 + 23 * n
    · obtain ⟨n,hn,hlength⟩ := hlength
      obtain ⟨p,hp,rfl⟩ := exists_legal true hn hlength
      rw [trade_packed a hp session hs hd] at h
      dsimp only at h
      split at h
      · cases h
      rename_i hfirst
      split at h
      · cases h
      rename_i hlast
      exact ⟨p, hp, not_not.mp hfirst, not_not.mp hlast, rfl⟩
    · rw [trade_outcome, checkedPath_of_length hlength] at h
      cases h
  · rintro ⟨p,hp,hfirst,hlast,rfl⟩
    obtain ⟨call,hcall,-⟩ := exists_tradeCall a p.packed hr hq hm ht
    rw [trade_packed a hp session hs hd, if_neg (not_not.mpr hfirst), if_neg (not_not.mpr hlast)]
    exact ⟨_, hcall⟩

end Trade

/-- What is packed from tokens is a path, and its ends are those of the tokens. -/
theorem pathData_image {data : List UInt8} {source destination : Address} :
    (∃ (tokens : List Value) (spacings : List Int), (∀ x ∈ spacings, -2 ^ 23 ≤ x ∧ x < 2 ^ 23) ∧
      pathData tokens (spacings.map .int) = .ok data ∧
      tokens.head?.map Address.ofValue = some (.ok source) ∧
      tokens.getLast?.map Address.ofValue = some (.ok destination)) ↔
    ∃ p : Path, p.Legal true ∧ p.tokens.head? = some source ∧
      p.tokens.getLast? = some destination ∧ data = p.packed := by
  constructor
  · rintro ⟨tokens,spacings,-,hdata,hfirst,hlast⟩
    obtain ⟨p,ht,hf,hp,hdata⟩ := pathData_eq_ok.mp hdata
    rw [head?_addresses ht] at hfirst
    rw [getLast?_addresses ht] at hlast
    exact ⟨p, hp, by simpa using hfirst, by simpa using hlast, hdata⟩
  · rintro ⟨p,hp,hfirst,hlast,hdata⟩
    have ht := map_toValue p.tokens
    refine ⟨_, p.fees, hp.fees, pathData_eq_ok.mpr ⟨p, ht, rfl, hp, hdata⟩, ?_, ?_⟩
    · rw [head?_addresses ht, hfirst]
      rfl
    · rw [getLast?_addresses ht, hlast]
      rfl

section Accepted
variable (a : SlipstreamAdapter) (data : List UInt8) (session : Session) {s d r : Value}
  {source destination recipient : Address} {q m t : Int}

/-- The adapter takes exactly its format: data of another length is refused first, then a path that
does not begin with the token sold, then one that does not end with the token bought. What is left is
called with, and it is what the adapter itself packs from tokens with these ends and spacings. With a
deadline nothing is asked. Without one the same is refused and nothing asked, and behind the checks
the node is asked once for its latest block, whose time stands in for the deadline. -/
theorem exactly_packed_paths_are_traded (hs : Address.ofValue s = .ok source)
    (hd : Address.ofValue d = .ok destination) (hr : Address.ofValue r = .ok recipient)
    (hq : 0 ≤ q ∧ q < 2 ^ 256) (hm : 0 ≤ m ∧ m < 2 ^ 256) (ht : 0 ≤ t ∧ t < 2 ^ 256) :
    let answer := fun deadline =>
      (a.trade s d r (.int q) (.int m) (.bytes data) deadline).outcome session
    let reply := (answer (.int t)).1
    (reply = .error (reason "invalid path data") ↔ ¬ ∃ n ≥ 1, data.length = 20 + 23 * n) ∧
    (∀ n ≥ 1, data.length = 20 + 23 * n →
      ∃ p, decodePath (.bytes data) true "Invalid data" = .ok p ∧
      (reply = .error (reason "source token path mismatch") ↔ p.tokens.head? ≠ some source) ∧
      (reply = .error (reason "destination token path mismatch") ↔
        p.tokens.head? = some source ∧ p.tokens.getLast? ≠ some destination) ∧
      (p.tokens.head? = some source → p.tokens.getLast? = some destination →
        ∃ call, reply = .ok ⟨a.router, 0, call⟩ ∧ call.take 4 = CallData.selector exactInput ∧
          let arguments := [Abi.Datum.items
            [.raw data, .account recipient, .number t, .number q, .number m]]
          call.drop 4 = Abi.encodeArguments argumentTypes arguments ∧
          (data.length < 2 ^ 256 →
            Abi.decodeArguments argumentTypes (call.drop 4) = .ok arguments))) ∧
    ((∃ call, reply = .ok call) ↔
      ∃ (tokens : List Value) (spacings : List Int), (∀ x ∈ spacings, -2 ^ 23 ≤ x ∧ x < 2 ^ 23) ∧
        pathData tokens (spacings.map .int) = .ok data ∧
        tokens.head?.map Address.ofValue = some (.ok source) ∧
        tokens.getLast?.map Address.ofValue = some (.ok destination)) ∧
    (answer (.int t)).2 = session ∧
    (a.hasClock = true →
      ((∀ call, reply ≠ .ok call) → answer .null = (reply, session)) ∧
      ((∃ call, reply = .ok call) →
        answer .null = (session.node.time >>= fun now => (answer (.int now)).1,
          session.askedForBlock))) := by
  intro answer reply
  have hanswer : ∀ now, answer (.int now) = _ := fun now => trade_outcome a (.bytes data) session
  refine ⟨⟨?_, fun h => ?_⟩, ?_, (trade_accepted a session hs hd hr hq hm ht).trans
    pathData_image.symm, congrArg Prod.snd (hanswer t), fun hc => ?_⟩
  · rintro hreply ⟨n,hn,hlength⟩
    obtain ⟨p,hp,rfl⟩ := exists_legal true hn hlength
    obtain ⟨call,hcall,-⟩ := exists_tradeCall a p.packed hr hq hm ht
    have hrefused := (congrArg Prod.fst (trade_packed a hp session hs hd)).symm.trans hreply
    rw [hcall] at hrefused
    dsimp only at hrefused
    split at hrefused
    · simp [reason] at hrefused
    split at hrefused <;> simp [reason] at hrefused
  · rw [show reply = _ from congrArg Prod.fst (hanswer t), checkedPath_of_length h, error_bind]
  · intro n hn hlength
    obtain ⟨p,hp,rfl⟩ := exists_legal true hn hlength
    obtain ⟨call,hcall,hcarries⟩ := exists_tradeCall a p.packed hr hq hm ht
    have hreply : reply = _ := congrArg Prod.fst (trade_packed a hp session hs hd)
    refine ⟨p, hp.decode_packed, ?_⟩
    rw [hreply, hcall]
    dsimp only
    by_cases hfirst : p.tokens.head? = some source
    · by_cases hlast : p.tokens.getLast? = some destination
      · refine ⟨?_, ?_, fun _ _ => ⟨call, ?_, hcarries⟩⟩ <;> simp [hfirst, hlast]
      · simp [hfirst, hlast, reason]
    · simp [hfirst, reason]
  · have hnull : answer .null = _ := trade_outcome_null a (.bytes data) session hc
    have hreply : reply = _ := congrArg Prod.fst (hanswer t)
    simp only [hnull, hreply, hanswer]
    cases checkedPath s d (.bytes data) with
    | error e => exact ⟨fun _ => rfl, fun ⟨_,h⟩ => by cases h⟩
    | ok path =>
      obtain ⟨call,hcall,-⟩ := exists_tradeCall a path hr hq hm ht
      exact ⟨fun h => absurd hcall (h _), fun _ => rfl⟩

/-- A session without artifacts. -/
def emptyDisk : Session := { disk := ⟨"", Artifact.Folder.empty ""⟩ }

/-- One hop with a negative spacing, from the first token to the second. -/
def oneHop : List UInt8 := List.replicate 20 1 ++ [255, 255, 156] ++ List.replicate 20 2

theorem exactly_packed_paths_are_traded_one_hop :
    ∃ call, ((trade ⟨Address.zero, true⟩ (.bytes (List.replicate 20 1)) (.bytes (List.replicate 20 2))
      (.bytes (List.replicate 20 3)) (.int 5) (.int 4) (.bytes oneHop) (.int 7)).outcome
        emptyDisk).1 = .ok call :=
  (exactly_packed_paths_are_traded ⟨Address.zero, true⟩ oneHop emptyDisk rfl rfl rfl (by decide)
    (by decide) (by decide)).2.2.1.mpr
    ⟨[.bytes (List.replicate 20 1), .bytes (List.replicate 20 2)], [-100], by decide, rfl, rfl, rfl⟩

end Accepted

end Swap.SlipstreamAdapter

end Basketry
