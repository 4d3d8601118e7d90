import Mathlib.Data.Nat.Find
import Basketry.Proofs.SettingsAgree

namespace Basketry.Chain.ClaimSettings

/-- An adapter is added to a pool of a set or taken from it, or all of a set is forgotten. -/
inductive Entry where
  | added (set pool adapter : Address)
  | removed (set pool adapter : Address)
  | forgotten (set : Address)

namespace Entry

/-- The adapter that the entry adds to the pool. -/
def adds? (set pool : Address) : Entry → Option Address
  | .added s p a => if s = set ∧ p = pool then some a else none
  | _ => none

/-- Whether an addition of the adapter to the pool is over with the entry, or made anew by it. -/
def ends (set pool adapter : Address) : Entry → Bool
  | .added s p a | .removed s p a => s = set ∧ p = pool ∧ a = adapter
  | .forgotten s => s = set

end Entry

/-- The adapters whose last addition to the pool is not over, in the order of these additions. -/
def standing (set pool : Address) : List Entry → List Address
  | [] => []
  | e :: log =>
    match e.adds? set pool with
    | some a => if log.any (·.ends set pool a) then standing set pool log
      else a :: standing set pool log
    | none => standing set pool log

/-- How much of the log there was when the pool was last without an adapter. -/
def opened (set pool : Address) (log : List Entry) : Nat :=
  Nat.findGreatest (fun n => standing set pool (log.take n) = []) log.length

variable {set pool adapter : Address} {c c' : ClaimSettings} {log : List Entry} {e : Entry}

theorem standing_concat (set pool : Address) (log : List Entry) (e : Entry) :
    standing set pool (log ++ [e]) =
      (standing set pool log).filter (fun a => !e.ends set pool a) ++
        (e.adds? set pool).toList := by
  induction log with
  | nil => cases h : e.adds? set pool <;> simp [standing, h]
  | cons x log ih =>
    cases hx : x.adds? set pool with
    | none => simp [standing, hx, ih]
    | some a =>
      by_cases hlog : log.any (·.ends set pool a) = true
      · simp [standing, hx, hlog, ih]
      · by_cases he : e.ends set pool a = true
        · simp [standing, hx, hlog, he, ih]
        · simp [standing, hx, hlog, he, ih]

section Opened

theorem opened_of_standing_nil (h : standing set pool log = []) :
    opened set pool log = log.length := by
  unfold opened
  apply Nat.findGreatest_eq
  rw [List.take_length, h]

theorem opened_lt (h : standing set pool log ≠ []) : opened set pool log < log.length := by
  have hle : opened set pool log ≤ log.length := Nat.findGreatest_le _
  have hnil : standing set pool (log.take (opened set pool log)) = [] := by
    have hstart : standing set pool (log.take 0) = [] := rfl
    unfold opened
    exact Nat.findGreatest_spec (P := fun n => standing set pool (log.take n) = [])
      (Nat.zero_le _) hstart
  have hne : opened set pool log ≠ log.length := by
    intro he
    rw [he, List.take_length] at hnil
    exact h hnil
  omega

/-- An entry that leaves the pool with an adapter does not count as a time at which it had none. -/
theorem opened_concat (h : standing set pool (log ++ [e]) ≠ []) :
    opened set pool (log ++ [e]) = opened set pool log := by
  have hsame : ∀ n ≤ log.length, (log ++ [e]).take n = log.take n :=
    fun n hn => List.take_append_of_le_length hn
  have hle : opened set pool log ≤ log.length := Nat.findGreatest_le _
  have hlength : (log ++ [e]).length = log.length + 1 := by simp
  apply Nat.findGreatest_eq_iff.mpr
  refine ⟨by omega, fun hn => ?_, fun n hlt hn => ?_⟩
  · rw [hsame _ hle]
    exact Nat.findGreatest_of_ne_zero rfl hn
  · by_cases hn' : n ≤ log.length
    · rw [hsame n hn']
      exact Nat.findGreatest_is_greatest hlt hn'
    · have he : n = (log ++ [e]).length := by omega
      rw [he, List.take_length]
      exact h

end Opened

/-- The settings list what the log leaves standing, each pool in the order in which it was opened
last. -/
structure Follows (log : List Entry) (c : ClaimSettings) : Prop where
  agree : c.Agree
  adapters : ∀ set pool, c.adapterList set pool = standing set pool log
  order : ∀ set, (c.poolList set).Pairwise fun p q => opened set p log < opened set q log

theorem Follows.empty : Follows [] {} :=
  ⟨.empty, fun _ _ => by simp [adapterList, standing], fun _ => by simp [poolList]⟩

theorem Follows.same (h : Follows log c) (hs : ∀ set, SameFor set c c') : Follows log c' := by
  refine ⟨h.agree.of_same hs, fun s p => ?_, fun s => ?_⟩
  · rw [(hs s).adapters]
    exact h.adapters s p
  · rw [(hs s).pools]
    exact h.order s

theorem Follows.anyone (h : Follows log c) (set : Address) (flag : Bool) :
    Follows log (c.setAnyone set flag) :=
  ⟨h.agree.revision (.opened c flag), h.adapters, h.order⟩

/-- A pool whose place in the order changes has none before it changes, and comes last. -/
theorem Follows.next (h : Follows log c) (hc : c'.Agree)
    (hadapters : ∀ set pool, c'.adapterList set pool =
      (c.adapterList set pool).filter (fun a => !e.ends set pool a) ++ (e.adds? set pool).toList)
    (hpools : ∀ set, (c'.poolList set).Sublist (c.poolList set) ∨
      ∃ pool, c'.poolList set = c.poolList set ++ [pool] ∧ c.adapterList set pool = []) :
    Follows (log ++ [e]) c' := by
  have hstanding : ∀ set pool, c'.adapterList set pool = standing set pool (log ++ [e]) := by
    intro set pool
    rw [hadapters, h.adapters, standing_concat]
  refine ⟨hc, hstanding, fun set => ?_⟩
  have hopened : ∀ p ∈ c'.poolList set, opened set p (log ++ [e]) = opened set p log := by
    intro p hp
    apply opened_concat
    rw [← hstanding]
    exact (hc.served set p).mp ((hc.listed set p).mp hp)
  have hbefore : (c'.poolList set).Pairwise fun p q => opened set p log < opened set q log := by
    rcases hpools set with hsub | ⟨pool, heq, hnone⟩
    · exact (h.order set).sublist hsub
    · rw [heq]
      refine List.pairwise_append.mpr ⟨h.order set, List.pairwise_singleton _ _, ?_⟩
      intro p hp q hq
      rw [List.mem_singleton.mp hq]
      have hserved : standing set p log ≠ [] := by
        rw [← h.adapters]
        exact (h.agree.served set p).mp ((h.agree.listed set p).mp hp)
      have hlast : opened set pool log = log.length :=
        opened_of_standing_nil (by rw [← h.adapters, hnone])
      rw [hlast]
      exact opened_lt hserved
  refine hbefore.imp_of_mem fun hp hq hlt => ?_
  rw [hopened _ hp, hopened _ hq]
  exact hlt

theorem Follows.added (h : Follows log c) (hadd : c.add set pool adapter = .ok c') :
    Follows (log ++ [.added set pool adapter]) c' := by
  have hv := add_views hadd
  have hnew : adapter ∉ c.adapterList set pool := by simp [h.agree.registered, hv.fresh]
  refine h.next (h.agree.add hadd) (fun s p => ?_) fun s => ?_
  · rw [hv.adapters]
    by_cases hs : s = set ∧ p = pool
    · obtain ⟨rfl, rfl⟩ := hs
      have hkept : (c.adapterList s p).filter (fun a => !decide (adapter = a)) =
          c.adapterList s p := by
        apply List.filter_eq_self.mpr
        intro a ha
        have hne : adapter ≠ a := fun he => hnew (he ▸ ha)
        simp [hne]
      simp [Entry.ends, Entry.adds?, hkept]
    · have hn : ¬ (set = s ∧ pool = p) := fun hq => hs ⟨hq.1.symm, hq.2.symm⟩
      have hends : ∀ a, (Entry.added set pool adapter).ends s p a = false := by
        intro a
        simp only [Entry.ends, decide_eq_false_iff_not]
        exact fun hq => hn ⟨hq.1, hq.2.1⟩
      simp [hs, hn, hends, Entry.adds?]
  · rw [hv.pools]
    by_cases hs : s = set ∧ c.isPool set pool = false
    · obtain ⟨rfl, hp⟩ := hs
      right
      refine ⟨pool, by simp [hp], ?_⟩
      by_contra hne
      have hflag := (h.agree.served s pool).mpr hne
      rw [hp] at hflag
      cases hflag
    · rw [if_neg hs]
      exact .inl (.refl _)

theorem Follows.removed (h : Follows log c) (hremove : c.remove set pool adapter = .ok c') :
    Follows (log ++ [.removed set pool adapter]) c' := by
  have hv := remove_views hremove
  have hnodup := h.agree.adapters_nodup set pool
  refine h.next (h.agree.remove hremove) (fun s p => ?_) fun s => .inl ?_
  · rw [hv.adapters]
    by_cases hs : s = set ∧ p = pool
    · obtain ⟨rfl, rfl⟩ := hs
      rw [if_pos ⟨rfl, rfl⟩, hnodup.erase_eq_filter]
      have hsame : ∀ a, (a != adapter) = !(Entry.removed s p adapter).ends s p a := by
        intro a
        by_cases ha : a = adapter
        · simp [Entry.ends, ha]
        · have hne : adapter ≠ a := fun he => ha he.symm
          simp [Entry.ends, ha, hne]
      simp [hsame, Entry.adds?]
    · have hends : ∀ a, (Entry.removed set pool adapter).ends s p a = false := by
        intro a
        simp only [Entry.ends, decide_eq_false_iff_not]
        exact fun hq => hs ⟨hq.1.symm, hq.2.1.symm⟩
      simp [hs, hends, Entry.adds?]
  · rw [hv.pools]
    split
    · rename_i hs
      rw [hs.1]
      exact List.erase_sublist
    · exact .refl _

theorem Follows.forgotten (h : Follows log c) (hclear : c.clear set = .ok c') :
    Follows (log ++ [.forgotten set]) c' := by
  have hv := clear_views hclear
  refine h.next (h.agree.clear hclear) (fun s p => ?_) fun s => .inl ?_
  · rw [hv.adapters]
    by_cases hs : s = set
    · subst hs
      simp only [Entry.ends, Entry.adds?]
      by_cases hp : p ∈ c.poolList s
      · simp [hp]
      · have hnone : c.adapterList s p = [] := by
          by_contra hne
          exact hp ((h.agree.listed s p).mpr ((h.agree.served s p).mpr hne))
        simp [hp, hnone]
    · have hn : ¬ set = s := fun he => hs he.symm
      simp [hs, hn, Entry.ends, Entry.adds?]
  · rw [hv.pools]
    split
    · exact List.nil_sublist _
    · exact .refl _

end Basketry.Chain.ClaimSettings
