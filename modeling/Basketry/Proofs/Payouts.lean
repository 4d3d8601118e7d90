import Basketry.Proofs.EncodedCalls
import Basketry.Proofs.Results

namespace Basketry.Chain

variable {w v : World} {ref set : Ref} {a d : Address} {x : ClaimAdapter}

/-- The adapter after it has paid its rewards out. -/
def ClaimAdapter.paid (x : ClaimAdapter) (holder : Address) : ClaimAdapter :=
  { x with token := x.token.mint holder x.rewards }

namespace Token

@[simp] theorem balanceOf_mint (t : Token) (receiver holder : Address) (amount : Int) :
    (t.mint receiver amount).balanceOf holder =
      if holder = receiver then t.balanceOf receiver + amount else t.balanceOf holder :=
  Table.getD_put _ _ _ _ _

@[simp] theorem totalSupply_mint (t : Token) (receiver : Address) (amount : Int) :
    (t.mint receiver amount).totalSupply = t.totalSupply + amount := rfl

end Token

theorem adapterAt_run (hx : w.content ref = .claimAdapter x) : adapterAt ref w = (.ok x, w) := by
  unfold adapterAt
  rw [content_bind, hx]
  rfl

theorem mint_run {t : Token} (ht : (tokenAt ref w).1 = .ok t) (receiver : Address) (amount : Int) :
    mint ref receiver.toValue amount w = setToken ref (t.mint receiver amount) w := by
  unfold mint
  rw [Address.ofValue_toValue]
  change (tokenAt ref >>= fun t => setToken ref (t.mint receiver amount)) w = _
  rw [bind_of_ok ((tokenAt_reads ref).run_ok ht)]

theorem perform_claimRewards (hx : w.content ref = .claimAdapter x) (sender holder : Address) :
    perform ref sender (.claimRewards holder) w =
      (.ok .nothing, w.setContent ref (.claimAdapter (x.paid holder))) := by
  have htoken : (tokenAt ref w).1 = .ok x.token := by
    unfold tokenAt
    rw [content_bind, hx]
    rfl
  have hpaid : mint ref holder.toValue x.rewards w =
      (.ok (), w.setContent ref (.claimAdapter (x.paid holder))) := by
    rw [mint_run htoken]
    unfold setToken
    rw [content_bind, hx]
    rfl
  change (adapterAt ref >>= fun x => mint ref holder.toValue x.rewards >>= fun _ =>
    pure Reply.nothing) w = _
  rw [bind_of_ok (adapterAt_run hx), bind_of_ok hpaid]
  rfl

section Calls
variable {sender target data : Value} {adapter : Bool} {b : Address} {bs : List UInt8}

/-- What stands at an address and answers calls: a token, or a claim adapter. -/
inductive World.Answering (w : World) (a : Address) : Ref → Bool → Prop
  | token {ref : Ref} {t : Token} (hf : w.find a = some ref) (hc : w.content ref = .token t) :
      Answering w a ref false
  | adapter {ref : Ref} {x : ClaimAdapter} (hf : w.find a = some ref)
      (hc : w.content ref = .claimAdapter x) : Answering w a ref true

/-- Whether a contract answers calls, and whether it knows rewards. -/
def Contract.answering? : Contract → Option Bool
  | .token _ => some false
  | .claimAdapter _ => some true
  | _ => none

theorem World.answering_iff :
    w.Answering a ref adapter ↔ w.find a = some ref ∧ (w.content ref).answering? = some adapter := by
  constructor
  · rintro (⟨hf,hc⟩ | ⟨hf,hc⟩) <;> simp [hf, hc, Contract.answering?]
  · rintro ⟨hf,hc⟩
    cases hr : w.content ref with
    | token t =>
      rw [hr] at hc
      cases hc
      exact .token hf hr
    | claimAdapter x =>
      rw [hr] at hc
      cases hc
      exact .adapter hf hr
    | _ => rw [hr] at hc; cases hc

instance : Decidable (w.Answering a ref adapter) := decidable_of_iff _ World.answering_iff.symm

/-- What answers a call reads it, and does as it says. -/
theorem call_run (hs : Address.ofValue sender = .ok b) (ha : Address.ofValue target = .ok a)
    (hd : CallData.bytesOfValue data = .ok bs) (h : w.Answering a ref adapter) :
    call sender target data w =
      ((liftM (TokenCall.decode adapter bs) : Run TokenCall) >>= perform ref b) w := by
  have hanswer : call.answer sender data ref adapter w =
      ((liftM (TokenCall.decode adapter bs) : Run TokenCall) >>= perform ref b) w := by
    unfold call.answer
    rw [hs, hd]
    rfl
  unfold call
  rw [bind_of_ok (find_run ha), ← hanswer]
  cases h with
  | token hf hc =>
    rw [hf]
    simp only
    rw [content_bind, hc]
  | adapter hf hc =>
    rw [hf]
    simp only
    rw [content_bind, hc]

/-- A call is answered, or nothing happens. -/
theorem call_cases (ha : Address.ofValue target = .ok a) :
    (∃ ref adapter, w.Answering a ref adapter) ∨
      (∀ ref adapter, ¬ w.Answering a ref adapter) ∧ call sender target data w = (.ok .bytes, w) := by
  by_cases h : ∃ ref adapter, w.Answering a ref adapter
  · exact .inl h
  · refine .inr ⟨fun ref adapter hr => h ⟨ref, adapter, hr⟩, ?_⟩
    unfold call
    rw [bind_of_ok (find_run ha)]
    cases hf : w.find a with
    | none => rfl
    | some ref =>
      simp only
      rw [content_bind]
      cases hc : w.content ref with
      | token t => exact absurd ⟨ref, false, .token hf hc⟩ h
      | claimAdapter x => exact absurd ⟨ref, true, .adapter hf hc⟩ h
      | _ => rfl

end Calls

/-- The call of an adapter for a set ends with its rewards paid out to the set. -/
theorem call_adapter (hfind : w.find x.token.address = some ref)
    (hx : w.content ref = .claimAdapter x) {c : CallData} (hc : x.claimCall a = .ok c) :
    call a.toValue c.target.toValue (.bytes c.data) w =
      (.ok .nothing, w.setContent ref (.claimAdapter (x.paid a))) := by
  obtain ⟨htarget,hdecode⟩ := ClaimAdapter.claimCall_ok hc
  rw [htarget, call_run (Address.ofValue_toValue a) (Address.ofValue_toValue _) rfl
    (.adapter hfind hx), hdecode]
  exact perform_claimRewards hx a a

/-- Whatever stands where the distributor should, the call of it changes nothing. -/
theorem call_distributor {m : Morpho.ClaimAdapter} {holder pool claimData : Value} {c : CallData}
    (hc : m.claimCall holder pool claimData = .ok c) (sender : Address) :
    (call sender.toValue c.target.toValue (.bytes c.data) w).2 = w := by
  have htarget := Address.ofValue_toValue c.target
  obtain ⟨ref,adapter,h⟩ | ⟨_,h⟩ := call_cases htarget
  · rw [call_run (Address.ofValue_toValue sender) htarget rfl h, (Morpho.claimCall_ok hc adapter).2]
    rfl
  · rw [h]

theorem claimCall_ok {pool claimData : Value} {c : CallData}
    (h : (claimCall d a pool claimData w).1 = .ok c) : ∃ ref, w.find d = some ref ∧
      ((∃ x, w.content ref = .claimAdapter x ∧ x.claimCall a = .ok c) ∨
        ∃ m, w.content ref = .morphoAdapter m ∧ m.claimCall a.toValue pool claimData = .ok c) := by
  unfold claimCall at h
  rw [bind_of_ok (show (get : Run World) w = (.ok w, w) from rfl)] at h
  cases hf : w.find d with
  | none =>
    rw [hf] at h
    cases h
  | some ref =>
    rw [hf] at h
    simp only at h
    rw [content_bind] at h
    refine ⟨ref, rfl, ?_⟩
    cases hr : w.content ref with
    | claimAdapter x =>
      rw [hr] at h
      exact .inl ⟨x, rfl, h⟩
    | morphoAdapter m =>
      rw [hr] at h
      exact .inr ⟨m, rfl, h⟩
    | _ =>
      rw [hr] at h
      cases h

section Invoked
variable {caller : Value} {outcome : Except Fault Reply} {c : CallData}

/-- What a set calls on the word of a module, unless it does not listen to the module. -/
theorem invoke_ends {target data : Value} (ha : (setAddress set w).1 = .ok a)
    (h : invoke set caller target data w = (outcome, v)) :
    (∃ fault, outcome = .error fault ∧ v = w) ∨
      call a.toValue target data w = (outcome, v) := by
  obtain ⟨fault,_,ho,hv⟩ | ⟨_,_,h⟩ := (onlyModule_reads set caller).bind_cases h
  · exact .inl ⟨fault, ho, hv⟩
  · rw [bind_of_ok ((setAddress_reads set).run_ok ha)] at h
    exact .inr h

theorem invoke_adapter (ha : (setAddress set w).1 = .ok a)
    (hfind : w.find x.token.address = some ref) (hx : w.content ref = .claimAdapter x)
    (hc : x.claimCall a = .ok c)
    (h : invoke set caller c.target.toValue (.bytes c.data) w = (outcome, v)) :
    (∃ fault, outcome = .error fault ∧ v = w) ∨
      outcome = .ok .nothing ∧ v = w.setContent ref (.claimAdapter (x.paid a)) := by
  rcases invoke_ends ha h with hfault | h
  · exact .inl hfault
  · rw [call_adapter hfind hx hc] at h
    cases h
    exact .inr ⟨rfl, rfl⟩

theorem invoke_distributor {m : Morpho.ClaimAdapter} {holder pool claimData : Value}
    (ha : (setAddress set w).1 = .ok a) (hc : m.claimCall holder pool claimData = .ok c)
    (h : invoke set caller c.target.toValue (.bytes c.data) w = (outcome, v)) : v = w := by
  rcases invoke_ends ha h with ⟨_,_,hv⟩ | h
  · exact hv
  · have hv := call_distributor (w := w) hc a
    rwa [h] at hv

end Invoked

end Basketry.Chain
