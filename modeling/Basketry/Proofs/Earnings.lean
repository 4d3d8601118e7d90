import Mathlib.Algebra.BigOperators.Group.List.Basic
import Mathlib.Data.List.Nodup
import Basketry.Proofs.Claimed
import Basketry.Proofs.Standing

namespace Basketry.Chain

section Logs
variable {log log' : List RewardClaimed} {d a : Address}

/-- What the claims from the adapter at `d` for the set at `a` come to. -/
def earned (log : List RewardClaimed) (d a : Address) : Int :=
  ((log.filter fun e => e.adapter = d ∧ e.setToken = a).map (·.amount)).sum

/-- What the claims from the adapter at `d` come to, whatever set they are for. -/
def issued (log : List RewardClaimed) (d : Address) : Int :=
  ((log.filter fun e => e.adapter = d).map (·.amount)).sum

theorem earned_cons (e : RewardClaimed) (log : List RewardClaimed) (d a : Address) :
    earned (e :: log) d a =
      (if e.adapter = d ∧ e.setToken = a then e.amount else 0) + earned log d a := by
  unfold earned
  by_cases h : e.adapter = d ∧ e.setToken = a
  · simp [h]
  · simp only [List.filter_cons, h, decide_false, Bool.false_eq_true, ↓reduceIte, zero_add]

theorem issued_cons (e : RewardClaimed) (log : List RewardClaimed) (d : Address) :
    issued (e :: log) d = (if e.adapter = d then e.amount else 0) + issued log d := by
  unfold issued
  by_cases h : e.adapter = d <;> simp [h]

theorem earned_perm (h : log.Perm log') (d a : Address) : earned log d a = earned log' d a :=
  ((h.filter _).map _).sum_eq

theorem issued_perm (h : log.Perm log') (d : Address) : issued log d = issued log' d :=
  ((h.filter _).map _).sum_eq

theorem earned_eq_zero (h : ∀ e ∈ log, e.adapter = d → e.setToken ≠ a) : earned log d a = 0 := by
  have hnone : (log.filter fun e => e.adapter = d ∧ e.setToken = a) = [] := by
    rw [List.filter_eq_nil_iff]
    intro e he hb
    obtain ⟨hd,ha⟩ := of_decide_eq_true hb
    exact h e he hd ha
  rw [earned, hnone]
  rfl

/-- What an adapter has issued is what all sets have earned, if each is listed once. -/
theorem sum_earned {sets : List Address} (hn : sets.Nodup)
    (h : ∀ e ∈ log, e.adapter = d → e.setToken ∈ sets) :
    (sets.map (earned log d)).sum = issued log d := by
  induction log with
  | nil =>
    have hnone : earned [] d = fun _ => 0 := rfl
    simp [hnone, issued]
  | cons e log ih =>
    have hrest := ih fun e' he' => h e' (List.mem_cons_of_mem e he')
    have hone : (sets.map fun a => if e.adapter = d ∧ e.setToken = a then e.amount else 0).sum =
        if e.adapter = d then e.amount else 0 := by
      by_cases hd : e.adapter = d
      · have hcount := List.count_eq_one_of_mem hn (h e List.mem_cons_self hd)
        have hsum := List.sum_map_ite_eq sets (fun _ => e.amount) (fun _ => 0) e.setToken
        simpa [hd, hcount, eq_comm] using hsum
      · simp [hd]
    have hsplit : earned (e :: log) d = fun a =>
        (if e.adapter = d ∧ e.setToken = a then e.amount else 0) + earned log d a :=
      funext (earned_cons e log d)
    rw [hsplit, List.sum_map_add, hone, hrest, issued_cons]

end Logs

section Views

/-- What a contract has logged. -/
def Contract.events : Contract → List RewardClaimed
  | .claimModule m => m.events
  | _ => []

/-- What a claim may find or change of a set. -/
structure Basket where
  address : Address
  totalSupply : Int
  components : List Address
  units : Table Address Int

def SetToken.basket (s : SetToken) : Basket :=
  ⟨s.address, s.profile.totalSupply, s.components, s.units⟩

def Contract.basket? : Contract → Option Basket
  | .setToken s => some s.basket
  | _ => none

/-- The claims that all modules have logged. -/
def World.events (w : World) : List RewardClaimed := w.objects.flatMap Contract.events

def World.baskets (w : World) : List Basket := w.objects.filterMap Contract.basket?

/-- The addresses of all sets. -/
def World.setAddresses (w : World) : List Address := w.baskets.map Basket.address

namespace Contract
variable {c c' : Contract} {q : Aspect → Prop}

@[simp] theorem events_redirect (c : Contract) (f : Ref → Ref) :
    (c.redirect f).events = c.events := by
  cases c <;> rfl

@[simp] theorem basket_redirect (c : Contract) (f : Ref → Ref) :
    (c.redirect f).basket? = c.basket? := by
  cases c <;> rfl

theorem events_of_homeless (h : c.address? = none) : c.events = [] := by
  cases c with
  | claimModule => cases h
  | _ => rfl

theorem basket_of_homeless (h : c.address? = none) : c.basket? = none := by
  cases c with
  | setToken => cases h
  | _ => rfl

theorem Newborn.views (h : c.Newborn) : c.events = [] ∧ c.basket? = none := by
  cases h <;> exact ⟨rfl, rfl⟩

theorem basket_eq {b : Basket} (h : c.basket? = some b) : ∃ s, c = .setToken s ∧ s.basket = b := by
  cases c with
  | setToken s => exact ⟨s, rfl, Option.some.inj h⟩
  | _ => cases h

end Contract

variable {c c' : Contract} {q : Aspect → Prop}

theorem Altered.events (h : Altered q c c') (hq : ¬ q .events) : c'.events = c.events := by
  induction h with
  | refl => rfl
  | tail _ hs ih =>
    obtain ⟨k,hk,hs⟩ := hs
    cases hs with
    | event => exact absurd hk hq
    | _ => exact ih

theorem Altered.basket (h : Altered q c c') (hb : ¬ q .basket) (hf : ¬ q .founding) :
    c'.basket? = c.basket? := by
  induction h with
  | refl => rfl
  | tail _ hs ih =>
    obtain ⟨k,hk,hs⟩ := hs
    cases hs with
    | basket => exact absurd hk hb
    | filled => exact absurd hk hf
    | _ => exact ih

theorem Altered.adapter {x : ClaimAdapter} (h : Altered q (.claimAdapter x) c')
    (hl : ¬ q .ledger) (hr : ¬ q .rewards) : c' = .claimAdapter x := by
  induction h with
  | refl => rfl
  | tail _ hs ih =>
    obtain ⟨k,hk,hs⟩ := hs
    subst ih
    cases hs with
    | adapterToken => exact absurd hk hl
    | rewards => exact absurd hk hr

end Views

namespace World
variable {w v : World} {module ref : Ref} {c : Contract} {m : ClaimModule} {e : RewardClaimed}
  {a : Address}

theorem mem_objects : c ∈ w.objects → ∃ ref < w.objects.length, w.content ref = c := by
  intro h
  obtain ⟨ref,hr,rfl⟩ := List.mem_iff_getElem.mp h
  exact ⟨ref, hr, by simp [content, hr]⟩

theorem content_mem (hr : ref < w.objects.length) : w.content ref ∈ w.objects := by
  have hc : w.content ref = w.objects[ref] := by simp [content, hr]
  rw [hc]
  exact List.getElem_mem hr

theorem mem_baskets {b : Basket} :
    b ∈ w.baskets ↔ ∃ set s, w.content set = .setToken s ∧ s.basket = b := by
  constructor
  · intro h
    obtain ⟨c,hc,hb⟩ := List.mem_filterMap.mp h
    obtain ⟨set,_,rfl⟩ := mem_objects hc
    obtain ⟨s,hs,hb⟩ := Contract.basket_eq hb
    exact ⟨set, s, hs, hb⟩
  · rintro ⟨set,s,hs,rfl⟩
    have hr : set < w.objects.length := lt_of_content (by simp [hs])
    refine List.mem_filterMap.mpr ⟨_, content_mem hr, ?_⟩
    rw [hs]
    rfl

theorem mem_setAddresses :
    a ∈ w.setAddresses ↔ ∃ set s, w.content set = .setToken s ∧ s.address = a := by
  constructor
  · intro h
    obtain ⟨b,hb,rfl⟩ := List.mem_map.mp h
    obtain ⟨set,s,hs,rfl⟩ := mem_baskets.mp hb
    exact ⟨set, s, hs, rfl⟩
  · rintro ⟨set,s,hs,rfl⟩
    exact List.mem_map.mpr ⟨s.basket, mem_baskets.mpr ⟨set, s, hs, rfl⟩, rfl⟩

/-- Sets that stand at their addresses do not share them. -/
theorem Standing.setAddresses_nodup (h : w.Standing) : w.setAddresses.Nodup := by
  rw [setAddresses, baskets, List.Nodup, List.pairwise_map, List.pairwise_filterMap,
    List.pairwise_iff_getElem]
  intro i j hi hj hlt b hb b' hb' he
  have hcontent : ∀ k (hk : k < w.objects.length), w.content k = w.objects[k] :=
    fun k hk => by simp [content, hk]
  rw [← hcontent] at hb hb'
  obtain ⟨s,hs,rfl⟩ := Contract.basket_eq hb
  obtain ⟨s',hs',rfl⟩ := Contract.basket_eq hb'
  have hfind := h i s.address (by rw [hs]; rfl)
  have hfind' := h j s'.address (by rw [hs']; rfl)
  rw [show s.address = s'.address from he, hfind'] at hfind
  exact absurd (Option.some.inj hfind) (Nat.ne_of_gt hlt)

theorem flatMap_events {objects objects' : List Contract}
    (h : ∀ i, (objects'.getD i .chain).events = (objects.getD i .chain).events) :
    objects'.flatMap Contract.events = objects.flatMap Contract.events := by
  induction objects generalizing objects' with
  | nil =>
    rw [List.flatMap_nil, List.flatMap_eq_nil_iff]
    intro c hc
    obtain ⟨i,hi,rfl⟩ := List.mem_iff_getElem.mp hc
    have hnone := h i
    simpa [hi, Contract.events] using hnone
  | cons c objects ih =>
    cases objects' with
    | nil =>
      have hfirst := h 0
      have hrest : [].flatMap Contract.events = objects.flatMap Contract.events :=
        ih fun i => h (i + 1)
      rw [List.flatMap_cons, ← hrest]
      simpa [Contract.events] using hfirst
    | cons c' objects' =>
      have hfirst := h 0
      have hrest : objects'.flatMap Contract.events = objects.flatMap Contract.events :=
        ih fun i => h (i + 1)
      rw [List.flatMap_cons, List.flatMap_cons, hrest]
      exact congrArg (· ++ _) hfirst

/-- Objects that have logged nothing do not matter. -/
theorem events_congr (h : ∀ ref, (v.content ref).events = (w.content ref).events) :
    v.events = w.events := flatMap_events h

theorem events_setContent (h : c.events = (w.content ref).events) :
    (w.setContent ref c).events = w.events := by
  refine events_congr fun r => ?_
  rw [content_setContent]
  split
  · rename_i hr
    rw [hr.1, h]
  · rfl

theorem events_logged (hm : w.content module = .claimModule m) (e : RewardClaimed) :
    (w.setContent module (.claimModule { m with events := m.events ++ [e] })).events.Perm
      (e :: w.events) := by
  have hl : module < w.objects.length := lt_of_content (by simp [hm])
  have hc : w.objects[module] = .claimModule m := by
    rw [← hm]
    simp [content, hl]
  let logged : Contract := .claimModule { m with events := m.events ++ [e] }
  have hsplit : ∃ earlier later, w.objects = earlier ++ w.objects[module] :: later ∧
      earlier.length = module ∧ w.objects.set module logged = earlier ++ logged :: later :=
    List.exists_of_set hl
  obtain ⟨earlier,later,hw,_,hv⟩ := hsplit
  rw [hc] at hw
  have hpast : w.events = earlier.flatMap Contract.events ++
      (m.events ++ later.flatMap Contract.events) := by
    rw [events, hw]
    simp [Contract.events]
  have hnow : (w.setContent module logged).events =
      earlier.flatMap Contract.events ++ m.events ++ e :: later.flatMap Contract.events := by
    rw [events, setContent, hv]
    simp [Contract.events, logged]
  rw [hpast, hnow, ← List.append_assoc]
  exact List.perm_middle

end World

end Basketry.Chain
