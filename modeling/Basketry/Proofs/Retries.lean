import Basketry.Network.Connection
import Basketry.Network.Defaults
import Basketry.Proofs.Outcomes

namespace Basketry

/-- What the node says to the request that comes after `i` others. -/
def Node.replyAt (n : Node) (i : Nat) : Reply := n.responses.getD i (.ok usualResponse)

namespace Network

open Decimal (digitCount)

def isAnswered : Reply → Bool
  | .ok _ => true
  | .error _ => false

/-- The transport is to blame. -/
def isLost : Reply → Bool
  | .ok _ => false
  | .error fault => fault.isTransport

namespace Connection

variable {c : Connection} {method : String} {params : Value} {s t u : Session} {k left : Nat}

section Attempts

/-- A session after one more request. -/
def requested (method : String) (params : Value) (s : Session) : Session :=
  { s with node := { s.node with
      asked := s.node.asked ++ [.request method params], responses := s.node.responses.tail } }

theorem request_outcome (method : String) (params : Value) (s : Session) :
    (Work.request method params).outcome s = (.ok (s.node.replyAt 0), requested method params s) := by
  obtain ⟨⟨connected,accounts,blockNumber,balance,block,nonce,responses,receipts,asked⟩,_,_,_,_,_,_,_,_⟩ := s
  cases responses <;> rfl

theorem replyAt_requested (i : Nat) :
    (requested method params s).node.replyAt i = s.node.replyAt (i + 1) := by
  simp [requested, Node.replyAt]

theorem persist_answered {response : Value} (h : s.node.replyAt 0 = .ok response) :
    (c.persist method params (left + 1)).outcome s =
      (.ok response, { requested method params s with requests := s.requests + 1 }) := by
  rw [persist, Work.outcome_bind_ok (request_outcome method params s), h]
  rfl

variable {fault : Fault}

theorem persist_broken (h : s.node.replyAt 0 = .error fault) (hfault : fault.isTransport = false) :
    (c.persist method params (left + 1)).outcome s = (.error fault, requested method params s) := by
  rw [persist, Work.outcome_bind_ok (request_outcome method params s), h]
  simp only [hfault]
  rfl

/-- A session after a request that the transport failed, and lines about it. -/
def failed (method : String) (params : Value) (lines : List Log.Line) (s : Session) : Session :=
  { requested method params s with failures := s.failures + 1, log := s.log ++ lines }

/-- The last failure is told with the number of attempts, which has to be written out for that. -/
theorem persist_last (h : s.node.replyAt 0 = .error fault) (hfault : fault.isTransport = true) :
    ∃ lines, (c.persist method params 1).outcome s =
      (c.attempts.shown >>= fun _ => .error fault, failed method params lines s) := by
  rw [persist, Work.outcome_bind_ok (request_outcome method params s), h]
  simp only [hfault, Bool.not_true, Bool.false_eq_true, if_false, if_true]
  cases hshown : c.attempts.shown with
  | ok text =>
    refine ⟨[⟨.error, "RPC " ++ method ++ " failed after " ++ text ++ " attempts", some fault⟩], ?_⟩
    rw [Work.written, hshown]
    rfl
  | error unwritten =>
    refine ⟨[], ?_⟩
    rw [failed, List.append_nil, Work.written, hshown]
    rfl

/-- A session after a request that the transport failed, while others are left. -/
def missed (method : String) (params : Value) (fault : Fault) (s : Session) : Session :=
  failed method params [⟨.debug, "RPC error on " ++ method ++ ", retrying", some fault⟩] s

theorem persist_missed (h : s.node.replyAt 0 = .error fault) (hfault : fault.isTransport = true) :
    (c.persist method params (left + 2)).outcome s =
      (c.wait >>= fun _ => c.persist method params (left + 1)).outcome (missed method params fault s) := by
  rw [persist, Work.outcome_bind_ok (request_outcome method params s), h]
  simp only [hfault]
  rfl

theorem wait_outcome (c : Connection) (s : Session) : c.wait.outcome s =
    match s.sleep c.pause with
    | .ok _ => (.ok (), { s with pauses := s.pauses ++ [c.pause] })
    | .error fault => (.error fault, s) := by
  change (Work.ofReply (s.sleep c.pause) >>= fun _ => _).outcome s = _
  cases s.sleep c.pause <;> rfl

/-- A session after a request that the transport failed, and the wait before the next one. -/
def retried (c : Connection) (method : String) (params : Value) (fault : Fault) (s : Session) : Session :=
  { missed method params fault s with pauses := s.pauses ++ [c.pause] }

theorem persist_again (hsleep : s.sleep c.pause = .ok ()) (h : s.node.replyAt 0 = .error fault)
    (hfault : fault.isTransport = true) : (c.persist method params (left + 2)).outcome s =
      (c.persist method params (left + 1)).outcome (c.retried method params fault s) := by
  have hwait := wait_outcome c (missed method params fault s)
  rw [show (missed method params fault s).sleep c.pause = .ok () from hsleep] at hwait
  rw [persist_missed h hfault, Work.outcome_bind_ok hwait]
  rfl

/-- Where one cannot wait, the first failure of the transport is the end. -/
theorem persist_stuck {unslept : Fault} (hsleep : s.sleep c.pause = .error unslept)
    (h : s.node.replyAt 0 = .error fault) (hfault : fault.isTransport = true) :
    (c.persist method params (left + 2)).outcome s = (.error unslept, missed method params fault s) := by
  have hwait := wait_outcome c (missed method params fault s)
  rw [show (missed method params fault s).sleep c.pause = .error unslept from hsleep] at hwait
  rw [persist_missed h hfault, Work.outcome_bind_error hwait]

theorem replyAt_retried (c : Connection) (method : String) (params : Value) (fault : Fault) (s : Session)
    (i : Nat) : (c.retried method params fault s).node.replyAt i = s.node.replyAt (i + 1) :=
  replyAt_requested i

end Attempts

section Settling

/-- The transport fails so many requests in a row. -/
def LosesFirst (n : Node) (k : Nat) : Prop := ∀ i < k, isLost (n.replyAt i) = true

/-- A session after requests for one method: so many were made, the transport failed some, some were
answered, and there were waits between them. -/
structure Tried (c : Connection) (method : String) (params : Value) (s t : Session)
    (tries lost answered waits : Nat) : Prop where
  asked : t.node.asked = s.node.asked ++ List.replicate tries (.request method params)
  replies : ∀ i, t.node.replyAt i = s.node.replyAt (i + tries)
  failures : t.failures = s.failures + lost
  requests : t.requests = s.requests + answered
  pauses : t.pauses = s.pauses ++ List.replicate waits c.pause

theorem isLost_cases {reply : Reply} (h : isLost reply = true) :
    ∃ fault, reply = .error fault ∧ fault.isTransport = true := by
  cases reply with
  | ok response => cases h
  | error fault => exact ⟨fault, rfl, h⟩

theorem LosesFirst.cases {n : Node} (h : LosesFirst n (k + 1)) :
    ∃ fault, n.replyAt 0 = .error fault ∧ fault.isTransport = true :=
  isLost_cases (h 0 (Nat.succ_pos k))

/-- An attempt that is lost, and what comes after the wait. -/
theorem Tried.again {fault : Fault} {tries lost answered waits : Nat}
    (h : Tried c method params (c.retried method params fault s) t tries lost answered waits) :
    Tried c method params s t (tries + 1) (lost + 1) answered (waits + 1) := by
  refine ⟨?_, fun i => ?_, ?_, h.requests, ?_⟩
  · rw [h.asked, List.replicate_succ, List.append_cons s.node.asked]
    rfl
  · rw [h.replies, replyAt_retried, Nat.add_assoc]
  · rw [h.failures, Nat.add_comm lost 1, ← Nat.add_assoc]
    rfl
  · rw [h.pauses, List.replicate_succ, List.append_cons s.pauses]
    rfl

theorem LosesFirst.again {fault : Fault} (h : LosesFirst s.node (k + 1)) :
    LosesFirst (c.retried method params fault s).node k := by
  intro i hi
  rw [replyAt_retried]
  exact h (i + 1) (Nat.succ_lt_succ hi)

/-- Once a request is not lost, what came of it comes of the whole. -/
theorem persist_settled (method : String) (params : Value) (hsleep : s.sleep c.pause = .ok ())
    (hlost : LosesFirst s.node k) (hk : k < left) (hsettled : isLost (s.node.replyAt k) = false) : ∃ t,
    (c.persist method params left).outcome s = (s.node.replyAt k, t) ∧
      Tried c method params s t (k + 1) k (if isAnswered (s.node.replyAt k) then 1 else 0) k := by
  -- The induction is on the attempts that the transport fails; each takes one of those that are left.
  induction k generalizing s left with
  | zero =>
    obtain ⟨left,rfl⟩ := Nat.exists_eq_add_one.mpr hk
    cases hreply : s.node.replyAt 0 with
    | ok response =>
      exact ⟨_, persist_answered hreply, rfl, replyAt_requested, rfl, rfl, (List.append_nil _).symm⟩
    | error fault =>
      rw [hreply] at hsettled
      exact ⟨_, persist_broken hreply hsettled, rfl, replyAt_requested, rfl, rfl,
        (List.append_nil _).symm⟩
  | succ k ih =>
    obtain ⟨left,rfl⟩ : ∃ m, left = m + 2 := ⟨left - 2, by omega⟩
    obtain ⟨fault,hreply,hfault⟩ := hlost.cases
    rw [← replyAt_retried c method params fault] at hsettled ⊢
    rw [persist_again hsleep hreply hfault]
    obtain ⟨t,ht,htried⟩ :=
      ih (s := c.retried method params fault s) hsleep hlost.again (by omega : k < left + 1) hsettled
    exact ⟨t, ht, htried.again⟩

/-- Where the transport fails every attempt, the last failure is that of the whole. -/
theorem persist_lost (method : String) (params : Value) (hsleep : s.sleep c.pause = .ok ())
    (hlost : LosesFirst s.node (left + 1)) : ∃ fault t, s.node.replyAt left = .error fault ∧
      (c.persist method params (left + 1)).outcome s = (c.attempts.shown >>= fun _ => .error fault, t) ∧
      Tried c method params s t (left + 1) (left + 1) 0 left := by
  induction left generalizing s with
  | zero =>
    obtain ⟨fault,hreply,hfault⟩ := hlost.cases
    obtain ⟨lines,hlast⟩ := persist_last hreply hfault
    exact ⟨fault, _, hreply, hlast, rfl, replyAt_requested, rfl, rfl, (List.append_nil _).symm⟩
  | succ left ih =>
    obtain ⟨fault,hreply,hfault⟩ := hlost.cases
    rw [persist_again hsleep hreply hfault, ← replyAt_retried c method params fault]
    obtain ⟨last,t,hlast,ht,htried⟩ := ih (s := c.retried method params fault s) hsleep hlost.again
    exact ⟨last, t, hlast, ht, htried.again⟩

end Settling

section Results
variable {entries problem : List (String × Value)} {reply : Reply} {n : Nat}

theorem mentions_eq (key : String) :
    (Value.dict entries).mentions key = .ok ((Value.dict entries).lookup? key).isSome := by
  rw [Value.mentions, Value.lookup?, Option.isSome_map, List.isSome_find?]

theorem resultOf_answer (h : (Value.dict entries).lookup? "error" = none) :
    resultOf method (.dict entries) = .ok (((Value.dict entries).lookup? "result").getD .null) := by
  rw [resultOf, mentions_eq, h]
  rfl

theorem resultOf_problem (h : (Value.dict entries).lookup? "error" = some (.dict problem)) :
    resultOf method (.dict entries) = (((Value.dict problem).lookup? "message").getD (.dict problem)).shown >>=
      fun text => .error (.rpc method text) := by
  rw [resultOf, mentions_eq, Value.field, h]
  rfl

/-- A number of attempts that is short enough can be told. -/
theorem attempts_shown (hattempts : c.attempts.int? = some (n : Int))
    (hshort : digitCount n ≤ Value.longestNumber) : ∃ text, c.attempts.shown = .ok text := by
  cases ha : c.attempts with
  | int i =>
    rw [ha] at hattempts
    obtain rfl : i = n := Option.some.inj hattempts
    exact ⟨_, if_neg (Nat.not_lt.mpr hshort)⟩
  | bool b => exact ⟨_, rfl⟩
  | _ =>
    rw [ha] at hattempts
    cases hattempts

/-- A call reads what came of its attempts. -/
theorem call_outcome (hattempts : c.attempts.int? = some (n : Int))
    (h : (c.persist method params n).outcome s = (reply, t)) :
    (c.call method params).outcome s = (reply >>= resultOf method, t) := by
  simp only [call, hattempts, Int.toNat_natCast]
  cases reply with
  | error fault => exact Work.outcome_bind_error h _
  | ok response =>
    rw [Work.outcome_bind_ok h]
    exact Work.outcome_ofReply ..

end Results

section Runs
variable {n : Node} {a b : Nat}

/-- How many of the next requests come to something. -/
def among (p : Reply → Bool) (n : Node) (tries : Nat) : Nat :=
  (List.range tries).countP fun i => p (n.replyAt i)

theorem among_one (p : Reply → Bool) (n : Node) : among p n 1 = if p (n.replyAt 0) then 1 else 0 := by
  rw [among, List.range_one, List.countP_singleton]

/-- A session after so many requests, with its books kept. -/
structure Counted (s t : Session) (tries : Nat) : Prop where
  asked : t.node.asked.length = s.node.asked.length + tries
  replies : ∀ i, t.node.replyAt i = s.node.replyAt (i + tries)
  failures : t.failures = s.failures + among isLost s.node tries
  requests : t.requests = s.requests + among isAnswered s.node tries

theorem Counted.refl (s : Session) : Counted s s 0 := ⟨rfl, fun _ => rfl, rfl, rfl⟩

theorem Counted.trans (h : Counted s t a) (h' : Counted t u b) : Counted s u (a + b) := by
  have hamong : ∀ p, among p s.node (a + b) = among p s.node a + among p t.node b := by
    intro p
    simp only [among, List.range_add, List.countP_append, List.countP_map, Function.comp_def, h.replies,
      Nat.add_comm _ a]
  refine ⟨?_, fun i => ?_, ?_, ?_⟩
  · rw [h'.asked, h.asked, Nat.add_assoc]
  · rw [h'.replies, h.replies, Nat.add_assoc, Nat.add_comm b]
  · rw [h'.failures, h.failures, hamong, Nat.add_assoc]
  · rw [h'.requests, h.requests, hamong, Nat.add_assoc]

theorem Counted.once (hnode : t.node = (requested method params s).node)
    (hfailures : t.failures = s.failures + if isLost (s.node.replyAt 0) then 1 else 0)
    (hrequests : t.requests = s.requests + if isAnswered (s.node.replyAt 0) then 1 else 0) :
    Counted s t 1 := by
  refine ⟨?_, fun i => ?_, (among_one isLost s.node).symm ▸ hfailures,
    (among_one isAnswered s.node).symm ▸ hrequests⟩
  · rw [hnode]
    exact List.length_append
  · rw [hnode]
    exact replyAt_requested i

theorem Counted.failed {fault : Fault} (h : s.node.replyAt 0 = .error fault)
    (hfault : fault.isTransport = true) (lines : List Log.Line) :
    Counted s (failed method params lines s) 1 := by
  refine .once rfl ?_ ?_
  · rw [h, isLost, if_pos hfault]
    rfl
  · rw [h]
    rfl

theorem settled_counted (c : Connection) (method : String) (params : Value)
    (h : isLost (s.node.replyAt 0) = false) (left : Nat) :
    ∃ reply t, (c.persist method params (left + 1)).outcome s = (reply, t) ∧ Counted s t 1 := by
  cases hreply : s.node.replyAt 0 with
  | ok response =>
    exact ⟨_, _, persist_answered hreply, .once rfl (by rw [h]; rfl) (by rw [hreply]; rfl)⟩
  | error fault =>
    have hfault : fault.isTransport = false := by rwa [hreply] at h
    exact ⟨_, _, persist_broken hreply hfault, .once rfl (by rw [h]; rfl) (by rw [hreply]; rfl)⟩

/-- The books are kept whether one can wait or not. -/
theorem persist_counted (c : Connection) (method : String) (params : Value) (s : Session) (left : Nat) :
    ∃ reply t tries, (c.persist method params (left + 1)).outcome s = (reply, t) ∧ Counted s t tries := by
  -- The induction is on the attempts that are left, each of which is one more request in the books.
  induction left generalizing s with
  | zero =>
    cases hlost : isLost (s.node.replyAt 0) with
    | false =>
      obtain ⟨reply,t,ht,hcounted⟩ := settled_counted c method params hlost 0
      exact ⟨reply, t, 1, ht, hcounted⟩
    | true =>
      obtain ⟨fault,hreply,hfault⟩ := isLost_cases hlost
      obtain ⟨lines,hlast⟩ := persist_last hreply hfault
      exact ⟨_, _, 1, hlast, .failed hreply hfault lines⟩
  | succ left ih =>
    cases hlost : isLost (s.node.replyAt 0) with
    | false =>
      obtain ⟨reply,t,ht,hcounted⟩ := settled_counted c method params hlost (left + 1)
      exact ⟨reply, t, 1, ht, hcounted⟩
    | true =>
      obtain ⟨fault,hreply,hfault⟩ := isLost_cases hlost
      have hmissed : Counted s (missed method params fault s) 1 := .failed hreply hfault _
      cases hsleep : s.sleep c.pause with
      | error unslept => exact ⟨_, _, 1, persist_stuck hsleep hreply hfault, hmissed⟩
      | ok _ =>
        obtain ⟨reply,t,tries,ht,hcounted⟩ := ih (c.retried method params fault s)
        have hretried : Counted s (c.retried method params fault s) 1 :=
          ⟨hmissed.asked, hmissed.replies, hmissed.failures, hmissed.requests⟩
        exact ⟨reply, t, 1 + tries, (persist_again hsleep hreply hfault).trans ht, hretried.trans hcounted⟩

/-- The session after calls, whatever became of each. -/
def after (c : Connection) (s : Session) (calls : List (String × Value)) : Session :=
  calls.foldl (fun s call => ((c.call call.1 call.2).outcome s).2) s

theorem after_counted {attempts : Nat} (hattempts : c.attempts.int? = some (attempts : Int))
    (hn : 1 ≤ attempts) (s : Session) (calls : List (String × Value)) :
    ∃ tries, Counted s (c.after s calls) tries := by
  obtain ⟨left,rfl⟩ := Nat.exists_eq_add_of_le' hn
  induction calls generalizing s with
  | nil => exact ⟨0, .refl s⟩
  | cons call calls ih =>
    obtain ⟨reply,t,tries,ht,hcounted⟩ := persist_counted c call.1 call.2 s left
    obtain ⟨more,hmore⟩ := ih t
    rw [after, List.foldl_cons, call_outcome hattempts ht]
    exact ⟨tries + more, hcounted.trans hmore⟩

end Runs

/-- With `n` attempts and waits that end, where the transport fails the first `k` requests: if that leaves
attempts, one more request settles the call, by the result or the error in its response or by another
failure; if it leaves none, the last failure ends the call. All requests are the same, failures are counted
for what the transport did and requests for what was answered, and so they are over any run of calls.
Errors and numbers of attempts are told in texts, and JSON holds no numbers too long for them. -/
theorem lost_requests_are_made_again {n : Nat} (hattempts : c.attempts.int? = some (n : Int))
    (hn : 1 ≤ n) (method : String) (params : Value) (s : Session) :
    (s.sleep c.pause = .ok () →
      (∀ k < n, LosesFirst s.node k →
        (∀ entries, s.node.replyAt k = .ok (.dict entries) → ∃ t, Tried c method params s t (k + 1) k 1 k ∧
          ((Value.dict entries).lookup? "error" = none → (c.call method params).outcome s =
            (.ok (((Value.dict entries).lookup? "result").getD .null), t)) ∧
          ∀ problem, (Value.dict entries).lookup? "error" = some (.dict problem) →
            (c.call method params).outcome s =
              ((((Value.dict problem).lookup? "message").getD (.dict problem)).shown >>=
                fun text => .error (.rpc method text), t)) ∧
        ∀ fault, s.node.replyAt k = .error fault → fault.isTransport = false →
          ∃ t, Tried c method params s t (k + 1) k 0 k ∧
            (c.call method params).outcome s = (.error fault, t)) ∧
      (LosesFirst s.node n → ∃ fault t, s.node.replyAt (n - 1) = .error fault ∧
        Tried c method params s t n n 0 (n - 1) ∧
        (c.call method params).outcome s = (c.attempts.shown >>= fun _ => .error fault, t) ∧
        (digitCount n ≤ Value.longestNumber → (c.call method params).outcome s = (.error fault, t)))) ∧
    ∀ calls, ∃ tries, Counted s (c.after s calls) tries := by
  refine ⟨fun hsleep => ⟨fun k hk hfirst => ⟨fun entries hreply => ?_, fun fault hreply hfault => ?_⟩,
    fun hall => ?_⟩, after_counted hattempts hn s⟩
  · have hsettled : isLost (s.node.replyAt k) = false := by rw [hreply]; rfl
    obtain ⟨t,ht,htried⟩ := persist_settled method params hsleep hfirst hk hsettled
    rw [hreply] at ht htried
    have hcall := call_outcome hattempts ht
    refine ⟨t, htried, fun hnone => ?_, fun problem hproblem => ?_⟩
    · rw [hcall, ok_bind, resultOf_answer hnone]
    · rw [hcall, ok_bind, resultOf_problem hproblem]
  · have hsettled : isLost (s.node.replyAt k) = false := by rw [hreply]; exact hfault
    obtain ⟨t,ht,htried⟩ := persist_settled method params hsleep hfirst hk hsettled
    rw [hreply] at ht htried
    exact ⟨t, htried, call_outcome hattempts ht⟩
  · obtain ⟨left,rfl⟩ := Nat.exists_eq_add_of_le' hn
    obtain ⟨fault,t,hreply,ht,htried⟩ := persist_lost method params hsleep hall
    have hcall : (c.call method params).outcome s = (c.attempts.shown >>= fun _ => .error fault, t) := by
      rw [call_outcome hattempts ht]
      cases c.attempts.shown <;> rfl
    refine ⟨fault, t, hreply, htried, hcall, fun hshort => ?_⟩
    obtain ⟨text,htext⟩ := attempts_shown hattempts hshort
    rw [hcall, htext]
    rfl

namespace Sample

def connection : Connection :=
  ⟨defaults, .text "http://127.0.0.1:8545", .text "hardhat", .int 3, .int 1⟩

def refused : Fault := .outage ⟨.transport, "ConnectionError", "refused"⟩

/-- A node that cannot be reached twice, answers, and then is gone for good. -/
def session : Session :=
  { node := { responses := [.error refused, .error refused, .ok (.dict [("result", .text "0x5")]),
      .error refused, .error refused, .error refused] }, disk := ⟨"", .empty ""⟩ }

end Sample

theorem lost_requests_are_made_again_twice : ∃ t,
    (Sample.connection.call "evm_snapshot" (.list [])).outcome Sample.session = (.ok (.text "0x5"), t) ∧
      t.failures = 2 ∧ t.requests = 1 ∧
      t.node.asked = List.replicate 3 (.request "evm_snapshot" (.list [])) := by
  obtain ⟨hcalls,-⟩ := lost_requests_are_made_again (c := Sample.connection) (n := 3) rfl (by decide)
    "evm_snapshot" (.list []) Sample.session
  obtain ⟨hsettled,-⟩ := hcalls rfl
  obtain ⟨hanswered,-⟩ := hsettled 2 (by decide) (by unfold LosesFirst; decide)
  obtain ⟨t,htried,hresult,-⟩ := hanswered [("result", .text "0x5")] rfl
  exact ⟨t, hresult rfl, htried.failures, htried.requests, htried.asked⟩

end Connection

end Network

end Basketry
