import Basketry.Proofs.Earnings

namespace Basketry.Chain

variable {p : Ref → Aspect → Prop} {u v w : World} {adapter module set : Ref} {a d token : Address}
  {x x' : ClaimAdapter} {e : RewardClaimed}

/-- Everything stands in its place, the adapter promises no negative reward, and its token is held
and was issued as the logs say. Only sets have claimed from it. -/
structure World.Booked (w : World) (adapter : Ref) (x : ClaimAdapter) : Prop where
  placed : w.Placed
  standing : w.Standing
  stands : w.content adapter = .claimAdapter x
  promised : 0 ≤ x.rewards
  held : ∀ a, x.token.balanceOf a = earned w.events x.token.address a
  solvent : ∀ a, 0 ≤ x.token.balanceOf a
  supply : x.token.totalSupply = issued w.events x.token.address
  claimants : ∀ e ∈ w.events, e.adapter = x.token.address → e.setToken ∈ w.setAddresses

/-- A set that has one precise unit in supply counts what it holds of the adapter's token as its
unit, and lists the token if it holds any. -/
def World.InStep (w : World) (x : ClaimAdapter) (set : Ref) : Prop :=
  ∀ s, w.content set = .setToken s → s.profile.totalSupply = Units.preciseUnit →
    s.unit x.token.address = x.token.balanceOf s.address ∧
      (x.token.address ∈ s.components ↔ 0 < x.token.balanceOf s.address)

/-- The books go on from one world to another, and sets that were in step are so still. -/
structure World.Onward (w : World) (adapter : Ref) (x : ClaimAdapter) (v : World)
    (x' : ClaimAdapter) : Prop where
  address : x'.token.address = x.token.address
  booked : v.Booked adapter x'
  inStep : ∀ set < w.objects.length, w.InStep x set → v.InStep x' set

namespace World

theorem no_set_past (h : w.objects.length ≤ set) (s : SetToken) : w.content set ≠ .setToken s := by
  rw [content_past h]
  nofun

theorem Booked.find (h : w.Booked adapter x) : w.find x.token.address = some adapter :=
  h.standing adapter _ (by rw [h.stands]; rfl)

theorem Onward.refl (h : w.Booked adapter x) : w.Onward adapter x w x := ⟨rfl, h, fun _ _ h => h⟩

theorem Onward.trans {x'' : ClaimAdapter} (h : w.Onward adapter x v x')
    (h' : v.Onward adapter x' u x'') (hl : w.objects.length ≤ v.objects.length) :
    w.Onward adapter x u x'' :=
  ⟨h'.address.trans h.address, h'.booked, fun set hs hw =>
    h'.inStep set (Nat.lt_of_lt_of_le hs hl) (h.inStep set hs hw)⟩

end World

section Quiet

/-- Nothing that the books are about has changed. A set that is new has an address that was not
drawn before. -/
structure World.Quiet (w : World) (adapter : Ref) (v : World) : Prop where
  events : v.events = w.events
  baskets : ∀ ref < w.objects.length, (v.content ref).basket? = (w.content ref).basket?
  token : ∀ x, w.content adapter = .claimAdapter x → 0 ≤ x.rewards →
    ∃ n, 0 ≤ n ∧ v.content adapter = .claimAdapter { x with rewards := n }
  newcomers : ∀ set s, w.objects.length ≤ set → v.content set = .setToken s → ¬ w.Drawn s.address

theorem World.Quiet.onward (h : w.Quiet adapter v) (hw : w.Booked adapter x) (hp : v.Placed)
    (hs : v.Standing) : ∃ x', w.Onward adapter x v x' ∧
      ∀ set s, w.objects.length ≤ set → v.content set = .setToken s →
        x'.token.balanceOf s.address = 0 := by
  obtain ⟨n,hn,hx⟩ := h.token x hw.stands hw.promised
  refine ⟨{ x with rewards := n }, ⟨rfl, ⟨hp, hs, hx, hn, fun a => ?_, hw.solvent, ?_,
    fun e he hd => ?_⟩, fun set hl hstep s hset hsupply => ?_⟩, fun set s hl hset => ?_⟩
  · rw [h.events]
    exact hw.held a
  · rw [h.events]
    exact hw.supply
  · rw [h.events] at he
    obtain ⟨set,s,hset,ha⟩ := World.mem_setAddresses.mp (hw.claimants e he hd)
    have hbasket := h.baskets set (World.lt_of_content (by simp [hset]))
    rw [hset] at hbasket
    obtain ⟨s',hs',hb⟩ := Contract.basket_eq hbasket
    exact World.mem_setAddresses.mpr ⟨set, s', hs', (congrArg Basket.address hb).trans ha⟩
  · have hbasket := (h.baskets set hl).symm
    rw [hset] at hbasket
    obtain ⟨s₀,hs₀,hb⟩ := Contract.basket_eq hbasket
    obtain ⟨ha,hn,hc,hu⟩ := Basket.mk.inj hb
    obtain ⟨hunit,hlisted⟩ := hstep s₀ hs₀ (hn.trans hsupply)
    rw [SetToken.unit, hu, ha] at hunit
    rw [hc, ha] at hlisted
    exact ⟨hunit, hlisted⟩
  · have hnew := h.newcomers set s hl hset
    refine (hw.held s.address).trans (earned_eq_zero fun e he hd ha => hnew ?_)
    obtain ⟨set',s',hset',ha'⟩ := World.mem_setAddresses.mp (hw.claimants e he hd)
    exact hw.placed.drawn set' s.address (by rw [hset', ← ha, ← ha']; rfl)

theorem StructureChange.content {ref : Ref} (h : StructureChange w u) (hr : ref < w.objects.length) :
    u.content ref = w.content ref := by
  cases h with
  | created => rw [World.content_create_eq, if_neg (Nat.ne_of_lt hr)]
  | laid => rw [World.content_allocate, if_neg (Nat.ne_of_lt hr)]
  | _ => rfl

/-- What is new after a change of structure is a contract at a free account, if it has an address at
all. -/
theorem StructureChange.newcomer {ref : Ref} (h : StructureChange w u) (hf : u.Fresh)
    (hr : w.objects.length ≤ ref) :
    (u.content ref).events = [] ∧ (u.content ref).basket? = none ∧
      ∀ a, (u.content ref).address? = some a → ¬ w.Drawn a := by
  have hnone : ∀ c : Contract, c.address? = none → c.events = [] ∧ c.basket? = none ∧
      ∀ a, c.address? = some a → ¬ w.Drawn a := fun c hc =>
    ⟨c.events_of_homeless hc, c.basket_of_homeless hc, fun a ha => absurd (hc.symm.trans ha) nofun⟩
  have hpast : (w.content ref).address? = none := by
    rw [World.content_past hr]
    rfl
  cases h with
  | @created make hn ha =>
    rw [World.content_create_eq]
    split
    · refine ⟨(hn _).views.1, (hn _).views.2, fun a h => ?_⟩
      rw [ha] at h
      cases h
      exact hf.not_drawn
    · exact hnone _ hpast
  | laid m =>
    rw [World.content_allocate]
    split
    · exact hnone _ rfl
    · exact hnone _ hpast
  | _ => exact hnone _ hpast

/-- Edits that stay away from baskets, logs and the adapter. New sets may be founded. -/
structure SparesBooks (p : Ref → Aspect → Prop) (adapter : Ref) (w : World) : Prop where
  baskets : ∀ ref, ¬ p ref .basket
  events : ∀ ref, ¬ p ref .events
  ledger : ¬ p adapter .ledger
  rewards : ¬ p adapter .rewards
  founding : ∀ ref, p ref .founding → w.objects.length ≤ ref

theorem Effect.quiet (h : Effect p w v) (hp : SparesBooks p adapter w) (hf : v.Fresh) :
    w.Quiet adapter v := by
  obtain ⟨u,hd,he⟩ := h
  have hl := World.Later.edits he
  have hu : u.Fresh := hf.before hl.accounts hl.drawn
  refine ⟨World.events_congr fun ref => ?_, fun ref hr => ?_, fun x hx hn => ?_,
    fun set s hr hset => ?_⟩
  · rw [(he.content ref).events (hp.events ref)]
    rcases Nat.lt_or_ge ref w.objects.length with hr | hr
    · rw [hd.content hr]
    · rw [(hd.newcomer hu hr).1, World.content_past hr]
      rfl
  · have hfounding : ¬ p ref .founding := fun h => absurd (hp.founding ref h) (Nat.not_le.mpr hr)
    rw [(he.content ref).basket (hp.baskets ref) hfounding, hd.content hr]
  · have hr : adapter < w.objects.length := World.lt_of_content (by simp [hx])
    have hc := he.content adapter
    rw [hd.content hr, hx] at hc
    exact ⟨x.rewards, hn, hc.adapter hp.ledger hp.rewards⟩
  · refine (hd.newcomer hu hr).2.2 s.address ?_
    rw [← he.address, hset]
    rfl

/-- Where no set is founded, there is none that is new. -/
theorem Effect.no_new_set (h : Effect p w v) (hp : SparesBooks p adapter w) (hf : v.Fresh)
    (hn : ∀ ref, ¬ p ref .founding) (hr : w.objects.length ≤ set) {s : SetToken} :
    v.content set ≠ .setToken s := by
  obtain ⟨u,hd,he⟩ := h
  have hl := World.Later.edits he
  have hbasket := (he.content set).basket (hp.baskets set) (hn set)
  rw [(hd.newcomer (hf.before hl.accounts hl.drawn) hr).2.1] at hbasket
  intro hset
  rw [hset] at hbasket
  cases hbasket

theorem Undone.no_new_set (h : Undone p w v) (hs : w.Standing) (hr : w.objects.length ≤ set)
    {s : SetToken} : v.content set ≠ .setToken s := by
  intro hset
  rcases h.back hs set with ⟨_,hc⟩ | ⟨_,hc⟩
  · rw [World.content_past hr, hset] at hc
    cases hc
  · rw [hset] at hc
    cases hc

theorem Undone.quiet (h : Undone p w v) (hs : w.Standing) : w.Quiet adapter v := by
  refine ⟨World.events_congr fun ref => ?_, fun ref hr => ?_, fun x hx hn => ?_,
    fun set s hr hset => absurd hset (h.no_new_set hs hr)⟩
  · rcases h.back hs ref with ⟨_,hc⟩ | ⟨hw,hv⟩
    · rw [hc, Contract.events_redirect]
    · rw [Contract.events_of_homeless hw, Contract.events_of_homeless hv]
  · rcases h.back hs ref with ⟨_,hc⟩ | ⟨hw,hv⟩
    · rw [hc, Contract.basket_redirect]
    · rw [Contract.basket_of_homeless hw, Contract.basket_of_homeless hv]
  · rcases h.back hs adapter with ⟨_,hc⟩ | ⟨hw,_⟩
    · rw [hx] at hc
      exact ⟨x.rewards, hn, hc⟩
    · rw [hx] at hw
      cases hw

/-- The owner of an adapter promises other rewards. -/
theorem setRewards_quiet {rewards : Int} (hr : 0 ≤ rewards) :
    w.Quiet adapter (setRewards adapter rewards w).2 := by
  have same : w.Quiet adapter w :=
    ⟨rfl, fun _ _ => rfl, fun x hx hn => ⟨x.rewards, hn, hx⟩,
      fun set s hl hset => absurd hset (World.no_set_past hl s)⟩
  have hrun : setRewards adapter rewards = adapterAt adapter >>= fun x =>
      setContent adapter (.claimAdapter { x with rewards }) := rfl
  cases hx : (adapterAt adapter w).1 with
  | error fault =>
    rw [hrun, bind_run, (adapterAt_reads adapter).run w, hx]
    exact same
  | ok x =>
    have hc := adapterAt_ok hx
    rw [hrun, bind_of_ok ((adapterAt_reads adapter).run_ok hx)]
    change w.Quiet adapter (w.setContent adapter (.claimAdapter { x with rewards }))
    refine ⟨World.events_setContent (by rw [hc]; rfl), fun ref _ => ?_, fun y hy _ => ?_,
      fun set s hl hset => ?_⟩
    · rw [World.content_setContent]
      split
      · rename_i h
        rw [h.1, hc]
        rfl
      · rfl
    · cases hc.symm.trans hy
      exact ⟨rewards, hr, World.content_setContent_self hc nofun⟩
    · exact absurd (World.content_before hset nofun) (World.no_set_past hl s)

end Quiet

section Claims
variable {s s' : SetToken}

/-- The adapter pays what it promises, and another one leaves it alone. -/
theorem World.PaidOut.pays (h : w.PaidOut d a token u) (hw : w.Booked adapter x) :
    ∃ x', u.content adapter = .claimAdapter x' ∧
      (d = x.token.address ∧ token = d ∧ x' = x.paid a ∨ d ≠ x.token.address ∧ x' = x) := by
  cases h with
  | @paid ref y hfind hy hd ht =>
    by_cases hadapter : d = x.token.address
    · rw [hadapter, hw.find] at hfind
      cases hfind
      cases hw.stands.symm.trans hy
      exact ⟨_, World.content_setContent_self hy nofun, .inl ⟨hadapter, ht, rfl⟩⟩
    · refine ⟨x, ?_, .inr ⟨hadapter, rfl⟩⟩
      rw [World.content_setContent, if_neg]
      · exact hw.stands
      · rintro ⟨rfl,_⟩
        cases hw.stands.symm.trans hy
        exact hadapter hd.symm
  | nothing hfind hm =>
    refine ⟨x, hw.stands, .inr ⟨?_, rfl⟩⟩
    rintro rfl
    cases hw.find.symm.trans hfind
    cases hw.stands.symm.trans hm

theorem World.PaidOut.find (h : w.PaidOut d a token u) (b : Address) : u.find b = w.find b := by
  cases h <;> rfl

theorem World.PaidOut.events (h : w.PaidOut d a token u) : u.events = w.events := by
  cases h with
  | paid _ hx _ _ => exact World.events_setContent (by rw [hx]; rfl)
  | nothing => rfl

/-- A claim adds its event to the log. -/
theorem World.Claimed.events (h : w.Claimed module set e v) : v.events.Perm (e :: w.events) := by
  cases h with
  | @mk m s s' u _ _ _ _ hm hs _ hpaid _ _ _ _ _ hv =>
    have hset : u.content set = .setToken s := (hpaid.others (by nofun)).mpr hs
    have hlog : (u.setContent set (.setToken s')).events = w.events :=
      (World.events_setContent (by rw [hset]; rfl)).trans hpaid.events
    have hne : module ≠ set := by
      rintro rfl
      cases hm.symm.trans hs
    have hmodule : (u.setContent set (.setToken s')).content module = .claimModule m := by
      rw [World.content_setContent_of_ne hne]
      exact (hpaid.others (by nofun)).mpr hm
    rw [hv, ← hlog]
    exact World.events_logged hmodule e

/-- What a claim from the adapter at `d` for the set at `a` has brought to the books of the first
adapter. The balances of the set are read in the token of the position. -/
structure ClaimAdapter.Credited (x : ClaimAdapter) (d a token : Address) (before now : Int)
    (x' : ClaimAdapter) : Prop where
  address : x'.token.address = x.token.address
  rewards : x'.rewards = x.rewards
  counted : token = x.token.address → before = x.token.balanceOf a ∧ now = x'.token.balanceOf a
  elsewhere : token ≠ x.token.address → x' = x
  grown : x.token.balanceOf a ≤ x'.token.balanceOf a
  held : ∀ b, x'.token.balanceOf b =
    (if d = x.token.address ∧ a = b then now - before else 0) + x.token.balanceOf b
  supply : x'.token.totalSupply =
    (if d = x.token.address then now - before else 0) + x.token.totalSupply

theorem World.PaidOut.credits {before now : Int} (h : w.PaidOut d a token u)
    (hw : w.Booked adapter x) (hbefore : (balanceOf token.toValue a.toValue w).1 = .ok before)
    (hnow : (balanceOf token.toValue a.toValue u).1 = .ok now) :
    ∃ x', u.content adapter = .claimAdapter x' ∧ x.Credited d a token before now x' := by
  obtain ⟨x',hx',hpays⟩ := h.pays hw
  have hread : token = x.token.address →
      before = x.token.balanceOf a ∧ now = x'.token.balanceOf a := by
    rintro rfl
    rw [balanceOf_run hw.find hw.stands] at hbefore
    rw [balanceOf_run ((h.find _).trans hw.find) hx'] at hnow
    exact ⟨(Except.ok.inj hbefore).symm, (Except.ok.inj hnow).symm⟩
  refine ⟨x', hx', ?_⟩
  rcases hpays with ⟨rfl,rfl,rfl⟩ | ⟨hd,rfl⟩
  · have hbalance : (x.paid a).token.balanceOf a = x.token.balanceOf a + x.rewards := by
      simp [ClaimAdapter.paid]
    have hpromised := hw.promised
    obtain ⟨rfl,rfl⟩ := hread rfl
    refine ⟨rfl, rfl, hread, fun hn => absurd rfl hn, by omega, fun b => ?_, ?_⟩
    · by_cases hb : a = b
      · subst hb
        simp
      · simp [ClaimAdapter.paid, hb, Ne.symm hb]
    · simp [ClaimAdapter.paid]
      omega
  · refine ⟨rfl, rfl, hread, fun _ => rfl, Int.le_refl _, fun b => ?_, ?_⟩
    · simp [hd]
    · simp [hd]

/-- Sets stand where they stood, and only the one that claims has another basket. -/
theorem World.Claimed.sets (h : w.Claimed module set e v) :
    (∃ s s', w.content set = .setToken s ∧ v.content set = .setToken s' ∧
      s.address = e.setToken ∧ s'.address = e.setToken) ∧
    ∀ other, other ≠ set → ∀ t, v.content other = .setToken t ↔ w.content other = .setToken t := by
  cases h with
  | @mk m s s' u _ _ _ _ hm hs he hpaid _ _ _ _ hs' hv =>
    subst hv
    have hset : u.content set = .setToken s := (hpaid.others (by nofun)).mpr hs
    have hne : set ≠ module := by
      rintro rfl
      cases hm.symm.trans hs
    refine ⟨⟨s, s', hs, ?_, he.symm, ?_⟩, fun other ho t => ?_⟩
    · rw [World.content_setContent_of_ne hne]
      exact World.content_setContent_self hset nofun
    · rw [hs'.kept]
      exact he.symm
    · by_cases hmodule : other = module
      · subst hmodule
        have hu : (u.setContent set (.setToken s')).content other = .claimModule m := by
          rw [World.content_setContent_of_ne ho]
          exact (hpaid.others (by nofun)).mpr hm
        rw [World.content_setContent_self hu nofun, hm]
        exact iff_of_false nofun nofun
      · rw [World.content_setContent_of_ne hmodule, World.content_setContent_of_ne ho]
        exact hpaid.others (by nofun)

theorem World.Claimed.setAddresses (h : w.Claimed module set e v) :
    e.setToken ∈ v.setAddresses ∧ ∀ a ∈ w.setAddresses, a ∈ v.setAddresses := by
  obtain ⟨⟨s,s',hs,hs',ha,ha'⟩,hothers⟩ := h.sets
  have hclaimant := World.mem_setAddresses.mpr ⟨set, s', hs', ha'⟩
  refine ⟨hclaimant, fun a hmem => ?_⟩
  obtain ⟨other,t,ht,rfl⟩ := World.mem_setAddresses.mp hmem
  by_cases ho : other = set
  · subst ho
    cases hs.symm.trans ht
    exact ha ▸ hclaimant
  · exact World.mem_setAddresses.mpr ⟨other, t, (hothers other ho t).mpr ht, rfl⟩

/-- What the event says goes to the log and to the ledger alike. -/
theorem ClaimAdapter.Credited.booked {before now : Int}
    (h : x.Credited e.adapter e.setToken token before now x') (hamount : e.amount = now - before)
    (hw : w.Booked adapter x) (hclaimed : w.Claimed module set e v) (hp : v.Placed)
    (hs : v.Standing) (hx' : v.content adapter = .claimAdapter x') : v.Booked adapter x' := by
  have hlog := hclaimed.events
  obtain ⟨hclaimant,hclaimants⟩ := hclaimed.setAddresses
  refine ⟨hp, hs, hx', h.rewards ▸ hw.promised, fun a => ?_, fun a => ?_, ?_, fun e' he' hd => ?_⟩
  · rw [h.held, h.address, earned_perm hlog, earned_cons, hw.held, hamount]
  · by_cases ha : e.setToken = a
    · exact ha ▸ Int.le_trans (hw.solvent _) h.grown
    · rw [h.held, if_neg fun he => ha he.2, zero_add]
      exact hw.solvent a
  · rw [h.supply, h.address, issued_perm hlog, issued_cons, hw.supply, hamount]
  · rcases List.mem_cons.mp (hlog.mem_iff.mp he') with rfl | he'
    · exact hclaimant
    · exact hclaimants _ (hw.claimants e' he' (hd.trans h.address))

/-- The set that claims comes to count its new balance. No other set has its address. -/
theorem World.Claimed.onward (h : w.Claimed module set e v) (hw : w.Booked adapter x)
    (hp : v.Placed) (hs : v.Standing) : ∃ x', w.Onward adapter x v x' := by
  have hclaimed := h
  cases h with
  | @mk m s s' u token before now unit hm hset he hpaid hbefore hnow hamount hunit hs' hv =>
    obtain ⟨x',hx',hc⟩ := hpaid.credits hw hbefore hnow
    have hadapter : adapter ≠ set ∧ adapter ≠ module := by
      constructor
      · rintro rfl
        cases hw.stands.symm.trans hset
      · rintro rfl
        cases hw.stands.symm.trans hm
    have hmodule : set ≠ module := by
      rintro rfl
      cases hset.symm.trans hm
    have hstands : v.content adapter = .claimAdapter x' := by
      rw [hv, World.content_setContent_of_ne hadapter.2, World.content_setContent_of_ne hadapter.1]
      exact hx'
    have hclaimant : v.content set = .setToken s' := by
      rw [hv, World.content_setContent_of_ne hmodule]
      exact World.content_setContent_self ((hpaid.others (by nofun)).mpr hset) nofun
    refine ⟨x', hc.address, hc.booked hamount hw hclaimed hp hs hstands,
      fun other _ hstep t ht hsupply => ?_⟩
    rw [hc.address]
    by_cases ho : other = set
    · subst ho
      cases hclaimant.symm.trans ht
      have hprofile : s'.profile = s.profile := by rw [hs'.kept]
      have haddress : s'.address = s.address := by rw [hs'.kept]
      rw [hprofile] at hsupply
      have hwhole := hstep s hset hsupply
      rw [hsupply] at hunit
      rw [haddress, ← he]
      rw [← he] at hwhole
      exact hs'.whole hunit hc.counted (fun hn => by rw [hc.elsewhere hn]) (hw.solvent _) hc.grown
        hwhole
    · have htw := (hclaimed.sets.2 other ho t).mp ht
      have hne : e.setToken ≠ t.address := by
        intro ha
        have hfind := hw.standing set s.address (by rw [hset]; rfl)
        have hfind' := hw.standing other t.address (by rw [htw]; rfl)
        rw [← ha, he, hfind] at hfind'
        exact ho (Option.some.inj hfind').symm
      rw [hc.held, if_neg fun h => hne h.2, zero_add]
      exact hstep t htw hsupply

theorem claimOne_onward {pool data : Value} {name : String} (hw : w.Booked adapter x)
    (h : claimOne module set pool name data w = (.ok e, v)) :
    v.objects.length = w.objects.length ∧ ∃ x', w.Onward adapter x v x' := by
  have hedits : EditsAt onlyClaims (claimOne module set pool name data) w :=
    claimOne_edits pool data name (fun _ => .inl rfl) (.inr (.inl rfl)) (.inr (.inr rfl))
  have hedits := hedits.reached h
  have hplaced : v.Placed := hw.placed.edits hedits fun _ _ hk => by simp [onlyClaims] at hk
  exact ⟨hedits.others.2,
    (claimOne_done hw.placed h).onward hw hplaced (hedits.standing hw.standing)⟩

/-- One claim after another. -/
theorem mapM_onward {items : List ((Value × String) × Value)} {es : List RewardClaimed}
    (hw : w.Booked adapter x)
    (h : (items.mapM fun ((pool, name), data) => claimOne module set pool name data : Run _) w =
      (.ok es, v)) :
    v.objects.length = w.objects.length ∧ ∃ x', w.Onward adapter x v x' := by
  induction items generalizing w x es with
  | nil =>
    cases h
    exact ⟨rfl, x, .refl hw⟩
  | cons item items ih =>
    rw [List.mapM_cons] at h
    obtain ⟨e,u,he,h⟩ := bind_ok h
    obtain ⟨_,_,hrest,h⟩ := bind_ok h
    cases h
    obtain ⟨hlu,y,hy⟩ := claimOne_onward hw he
    obtain ⟨hlv,x',hx'⟩ := ih hy.booked hrest
    exact ⟨hlv.trans hlu, x', hy.trans hx' (Nat.le_of_eq hlu.symm)⟩

end Claims

end Basketry.Chain
