import Basketry.Proofs.Placement
import Basketry.Proofs.Positions

namespace Basketry.Chain

variable {w v u : World} {module set ref : Ref} {a d token : Address} {e : RewardClaimed}

/-- What the adapter at `d` does for the set at `a`: a claim adapter pays in its own token, and
through a distributor nothing moves. -/
inductive World.PaidOut (w : World) (d a token : Address) : World → Prop
  | paid {ref : Ref} {x : ClaimAdapter} (hfind : w.find d = some ref)
      (hx : w.content ref = .claimAdapter x) (hd : x.token.address = d) (ht : token = d) :
      PaidOut w d a token (w.setContent ref (.claimAdapter (x.paid a)))
  | nothing {ref : Ref} {m : Morpho.ClaimAdapter} (hfind : w.find d = some ref)
      (hm : w.content ref = .morphoAdapter m) : PaidOut w d a token w

/-- A claim of a module for a set, from the world before it to the world after it. -/
inductive World.Claimed (w : World) (module set : Ref) (e : RewardClaimed) (v : World) : Prop
  | mk {m : ClaimModule} {s s' : SetToken} {u : World} {token : Address} {before now unit : Int}
      (hm : w.content module = .claimModule m) (hs : w.content set = .setToken s)
      (he : e.setToken = s.address) (hpaid : w.PaidOut e.adapter e.setToken token u)
      (hbefore : (balanceOf token.toValue e.setToken.toValue w).1 = .ok before)
      (hnow : (balanceOf token.toValue e.setToken.toValue u).1 = .ok now)
      (hamount : e.amount = now - before)
      (hunit : SetToken.unitAfter s.profile.totalSupply (s.unit token) before now = .ok unit)
      (hs' : s.Rebalanced token unit s')
      (hv : v = (u.setContent set (.setToken s')).setContent module
        (.claimModule { m with events := m.events ++ [e] }))

theorem World.content_before {c c' : Contract} (h : (w.setContent ref c').content set = c)
    (hn : c ≠ c') : w.content set = c := by
  rw [content_setContent] at h
  split at h
  · exact absurd h.symm hn
  · exact h

/-- Nothing changes but a claim adapter. -/
theorem World.PaidOut.others {c : Contract} (h : w.PaidOut d a token u)
    (hn : ∀ x, c ≠ .claimAdapter x) : u.content ref = c ↔ w.content ref = c := by
  cases h with
  | @paid r x _ hx _ _ =>
    by_cases hr : ref = r
    · subst hr
      rw [World.content_setContent_self hx nofun, hx]
      exact iff_of_false (hn _).symm (hn _).symm
    · rw [World.content_setContent_of_ne hr]
  | nothing => exact Iff.rfl

theorem rewardToken_ok {x : ClaimAdapter} {pool : Value} (hfind : w.find d = some ref)
    (hx : w.content ref = .claimAdapter x) (h : (rewardToken d pool w).1 = .ok token) :
    token = x.token.address := by
  unfold rewardToken at h
  rw [bind_of_ok (show (get : Run World) w = (.ok w, w) from rfl), hfind] at h
  simp only at h
  rw [content_bind, hx] at h
  cases h
  rfl

theorem invoke_paid (hw : w.Placed) {pool data caller : Value} {c : CallData} {reply : Reply}
    (ha : (setAddress set w).1 = .ok a) (ht : (rewardToken d pool w).1 = .ok token)
    (hc : (claimCall d a pool data w).1 = .ok c)
    (h : invoke set caller c.target.toValue (.bytes c.data) w = (.ok reply, u)) :
    w.PaidOut d a token u := by
  obtain ⟨ref,hfind,⟨x,hx,hcall⟩ | ⟨m,hm,hcall⟩⟩ := claimCall_ok hc
  · have hd : x.token.address = d := hw.own d ref _ hfind (by rw [hx]; rfl)
    rcases invoke_adapter ha (hd ▸ hfind) hx hcall h with ⟨_,hfault,_⟩ | ⟨_,rfl⟩
    · cases hfault
    · exact .paid hfind hx hd ((rewardToken_ok hfind hx ht).trans hd)
  · cases invoke_distributor ha hcall h
    exact .nothing hfind hm

/-- A claim that succeeds step by step, with what each step answers. Up to the call nothing is
changed, and behind it the position is recalculated before the event is kept. -/
inductive World.ClaimSteps (w : World) (module set : Ref) (pool data : Value) (name : String)
    (e : RewardClaimed) (v : World) : Prop
  | mk {m : ClaimModule} {token : Address} {self : Value} {before now unit : Int} {c : CallData}
      {reply : Reply} {u t : World}
      (hadapter : (registeredAdapter module (.object set) pool name w).1 = .ok e.adapter)
      (haddress : (setAddress set w).1 = .ok e.setToken)
      (htoken : (rewardToken e.adapter pool w).1 = .ok token)
      (hbefore : (balanceOf token.toValue e.setToken.toValue w).1 = .ok before)
      (hcall : (claimCall e.adapter e.setToken pool data w).1 = .ok c)
      (hinvoke : invoke set self c.target.toValue (.bytes c.data) w = (.ok reply, u))
      (hnow : (balanceOf token.toValue e.setToken.toValue u).1 = .ok now)
      (hrecalculate : recalculate set self token.toValue before u = (.ok unit, t))
      (hpool : Address.ofValue pool = .ok e.pool)
      (hdata : CallData.bytesOfValue data = .ok e.claimData) (hamount : e.amount = now - before)
      (hm : t.content module = .claimModule m)
      (hv : v = t.setContent module (.claimModule { m with events := m.events ++ [e] }))

theorem claimOne_steps {pool data : Value} {name : String}
    (h : claimOne module set pool name data w = (.ok e, v)) :
    w.ClaimSteps module set pool data name e v := by
  obtain ⟨_,_,h⟩ := (isRewardPool_reads module _ pool).bind_ok h
  obtain ⟨_,h⟩ := guard_ok h
  obtain ⟨d,hd,h⟩ := (registeredAdapter_reads module _ pool name).bind_ok h
  obtain ⟨_,_,h⟩ := (moduleAt_reads module).bind_ok h
  obtain ⟨a,ha,h⟩ := (setAddress_reads set).bind_ok h
  obtain ⟨token,htoken,h⟩ := (rewardToken_reads d pool).bind_ok h
  obtain ⟨before,hbefore,h⟩ := (balanceOf_reads _ _).bind_ok h
  obtain ⟨c,hc,h⟩ := (claimCall_reads d a pool data).bind_ok h
  obtain ⟨_,u,hinvoke,h⟩ := bind_ok h
  obtain ⟨now,hnow,h⟩ := (balanceOf_reads _ _).bind_ok h
  obtain ⟨unit,t,hrecalculate,h⟩ := bind_ok h
  obtain ⟨p,hp,h⟩ := (Reads.lift (Address.ofValue pool)).bind_ok h
  obtain ⟨bytes,hbytes,h⟩ := (Reads.lift (CallData.bytesOfValue data)).bind_ok h
  obtain ⟨m,hm,h⟩ := (moduleAt_reads module).bind_ok h
  obtain ⟨_,_,hset,h⟩ := bind_ok h
  obtain ⟨_,_,h⟩ := (Reads.lift _).bind_ok h
  cases hset
  cases h
  exact .mk hd ha htoken hbefore hc hinvoke hnow hrecalculate hp hbytes rfl (moduleAt_ok hm) rfl

theorem claimOne_done (hw : w.Placed) {pool data : Value} {name : String}
    (h : claimOne module set pool name data w = (.ok e, v)) : w.Claimed module set e v := by
  obtain ⟨_,ha,htoken,hbefore,hc,hinvoke,hnow,hrecalculate,_,_,hamount,hm,rfl⟩ := claimOne_steps h
  have hpaid := invoke_paid hw ha htoken hc hinvoke
  obtain ⟨s,again,hsu,hagain,hunit,rfl⟩ := recalculate_ok hrecalculate
  have hs : w.content set = .setToken s := (hpaid.others (by nofun)).mp hsu
  have haddress : s.address = e.setToken := by
    rw [setAddress_run hs] at ha
    exact Except.ok.inj ha
  rw [haddress] at hagain
  cases hnow.symm.trans hagain
  have hm := (hpaid.others (by nofun)).mp (World.content_before hm nofun)
  exact .mk hm hs haddress.symm hpaid hbefore hnow hamount hunit (s.rebalanced _ _) rfl

end Basketry.Chain
