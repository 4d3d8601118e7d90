import Basketry.CallData

namespace Basketry

section Letters
variable {c d : Char}

theorem Char.toNat_toLower (c : Char) :
    c.toLower.toNat = if 65 ≤ c.toNat ∧ c.toNat ≤ 90 then c.toNat + 32 else c.toNat := by
  unfold Char.toLower
  split
  · rename_i hc
    have hupper : 65 ≤ c.toNat ∧ c.toNat ≤ 90 := hc
    rw [if_pos hupper]
    change (c.val + 32).toNat = _
    rw [UInt32.toNat_add]
    change (c.toNat + 32) % 2 ^ 32 = _
    omega
  · rename_i hc
    have hother : ¬ (65 ≤ c.toNat ∧ c.toNat ≤ 90) := hc
    rw [if_neg hother]

theorem Char.of_toLower (h : c.toLower = d) : c = d ∨ c = d.toUpper := by
  unfold Char.toLower at h
  split at h
  · right
    subst h
    unfold Char.toUpper
    rw [dif_pos (by grind)]
    apply Char.ext
    simp [UInt32.add_assoc]
  · exact .inl h

end Letters

namespace Hex

theorem toNat_digitChar :
    ∀ n < 16, (digitChar n).toNat = if n < 10 then 48 + n else 87 + n := by decide

theorem digit?_digitChar : ∀ n < 16,
    digit? (digitChar n) = some n ∧ digit? (digitChar n).toUpper = some n := by decide

theorem toLower_digitChar : ∀ n < 16,
    (digitChar n).toLower = digitChar n ∧ (digitChar n).toUpper.toLower = digitChar n := by decide

/-- A digit is read in either letter case as the number for which it is written. -/
theorem digit?_eq_some {c : Char} {n : Nat} :
    digit? c = some n ↔ n < 16 ∧ c.toLower = digitChar n := by
  constructor
  · intro h
    have hn : n < 16 ∧ c.toLower.toNat = if n < 10 then 48 + n else 87 + n := by
      rw [Char.toNat_toLower]
      change (if 48 ≤ c.toNat ∧ c.toNat ≤ 57 then some (c.toNat - 48)
        else if 97 ≤ c.toNat ∧ c.toNat ≤ 102 then some (c.toNat - 97 + 10)
        else if 65 ≤ c.toNat ∧ c.toNat ≤ 70 then some (c.toNat - 65 + 10)
        else none) = some n at h
      grind
    refine ⟨hn.1, Char.toNat_inj.mp ?_⟩
    rw [hn.2, toNat_digitChar n hn.1]
  · rintro ⟨hn,hc⟩
    rcases Char.of_toLower hc with rfl | rfl
    · exact (digit?_digitChar n hn).1
    · exact (digit?_digitChar n hn).2

/-- Text is read as the bytes whose digits it shows, in either letter case. -/
theorem decode?_eq_some : {cs : List Char} → {bs : List UInt8} →
    (decode? cs = some bs ↔ cs.map Char.toLower = encodeChars bs)
  | [], bs => by cases bs <;> simp [decode?, encodeChars]
  | [c], bs => by cases bs <;> simp [decode?, encodeChars]
  | h :: l :: rest, [] => by
    simp [decode?, encodeChars, Option.bind_eq_some_iff]
  | h :: l :: rest, b :: bs => by
    have hb := b.toNat_lt
    simp only [decode?, encodeChars, Option.bind_eq_bind, Option.bind_eq_some_iff, digit?_eq_some,
      decode?_eq_some, List.map_cons, List.cons.injEq, Option.some.injEq]
    constructor
    · rintro ⟨x,⟨hx,hh⟩,y,⟨hy,hl⟩,bs',hr,rfl,rfl⟩
      have hn : (UInt8.ofNat (16 * x + y)).toNat = 16 * x + y := by
        rw [UInt8.toNat_ofNat']
        omega
      rw [hn, show (16 * x + y) / 16 = x by omega, show (16 * x + y) % 16 = y by omega]
      exact ⟨hh, hl, hr⟩
    · rintro ⟨hh,hl,hr⟩
      refine ⟨_, ⟨by omega, hh⟩, _, ⟨by omega, hl⟩, bs, hr, ?_, rfl⟩
      rw [show 16 * (b.toNat / 16) + b.toNat % 16 = b.toNat by omega, UInt8.ofNat_toNat]

theorem mem_encodeChars {bs : List UInt8} (h : c ∈ encodeChars bs) :
    ∃ n < 16, c = digitChar n := by
  induction bs with
  | nil => cases h
  | cons b bs ih =>
    have hb := b.toNat_lt
    rcases List.mem_cons.mp h with rfl | h
    · exact ⟨_, by omega, rfl⟩
    · rcases List.mem_cons.mp h with rfl | h
      · exact ⟨_, by omega, rfl⟩
      · exact ih h

theorem length_encodeChars (bs : List UInt8) : (encodeChars bs).length = 2 * bs.length := by
  induction bs with
  | nil => rfl
  | cons b bs ih =>
    simp only [encodeChars, List.length_cons, ih]
    omega

theorem x_not_mem_encodeChars (bs : List UInt8) : 'x' ∉ encodeChars bs := by
  intro h
  obtain ⟨n,hn,he⟩ := mem_encodeChars h
  exact (by decide : ∀ n < 16, 'x' ≠ digitChar n) n hn he

/-- The mark in front of the digits may be there or not. -/
theorem map_dropPrefix {cs ds : List Char} (hd : 'x' ∉ ds) :
    (dropPrefix cs).map Char.toLower = ds ↔
      cs.map Char.toLower = ds ∨ cs.map Char.toLower = '0' :: 'x' :: ds := by
  constructor
  · intro h
    unfold dropPrefix at h
    split at h
    · exact .inr (by rw [← h]; rfl)
    · exact .inr (by rw [← h]; rfl)
    · exact .inl h
  · rintro (h | h)
    · unfold dropPrefix
      split
      · exact absurd (by rw [← h]; simp [show Char.toLower 'x' = 'x' from rfl]) hd
      · exact absurd (by rw [← h]; simp [show Char.toLower 'X' = 'x' from rfl]) hd
      · exact h
    · obtain ⟨c,cs,rfl,hc,h⟩ := List.map_eq_cons_iff.mp h
      obtain ⟨m,rest,rfl,hm,hr⟩ := List.map_eq_cons_iff.mp h
      have hzero : c = '0' := by rcases Char.of_toLower hc with rfl | rfl <;> rfl
      subst hzero
      rcases Char.of_toLower hm with rfl | rfl <;> exact hr

end Hex

namespace Address

theorem length_digits (a : Address) : a.digits.length = 40 := by
  rw [digits, Hex.length_encodeChars, a.length_bytes]

/-- How an address may be written: as its bytes, or by its digits in any letter case, with or
without `0x` in front. -/
inductive Written (a : Address) : Value → Prop
  | bytes : Written a (.bytes a.bytes)
  | bare {s : String} (h : s.toList.map Char.toLower = a.digits) : Written a (.text s)
  | marked {s : String} (h : s.toList.map Char.toLower = '0' :: 'x' :: a.digits) :
      Written a (.text s)

theorem ofBytes?_eq_some {bs : List UInt8} {a : Address} :
    ofBytes? bs = some a ↔ bs = a.bytes := by
  unfold ofBytes?
  constructor
  · intro h
    split at h <;> cases h
    rfl
  · rintro rfl
    rw [dif_pos a.length_bytes]

theorem ofValue_toValue (a : Address) : ofValue a.toValue = .ok a := by
  simp [toValue, ofValue, ofBytes?, a.length_bytes]

theorem ofText?_eq_some {s : String} {a : Address} :
    ofText? s = some a ↔ a.Written (.text s) := by
  have hread : ofText? s = some a ↔ (Hex.dropPrefix s.toList).map Char.toLower = a.digits := by
    simp only [ofText?, Option.bind_eq_bind, Option.bind_eq_some_iff, ofBytes?_eq_some,
      Hex.decode?_eq_some]
    constructor
    · rintro ⟨bs,h,rfl⟩
      exact h
    · exact fun h => ⟨_, h, rfl⟩
  have hdigits : 'x' ∉ a.digits := Hex.x_not_mem_encodeChars a.bytes
  rw [hread, Hex.map_dropPrefix hdigits]
  constructor
  · rintro (h | h)
    · exact .bare h
    · exact .marked h
  · intro h
    cases h with
    | bare h => exact .inl h
    | marked h => exact .inr h

/-- Text and bytes are read as an address exactly when they are a way to write it. -/
theorem ofValue_eq_ok {v : Value} {a : Address} (hv : ∀ n, v ≠ .int n) :
    ofValue v = .ok a ↔ a.Written v := by
  have of_option : ∀ o : Option Address,
      o.elim (.error .malformedAddress) .ok = (.ok a : Except Fault Address) ↔ o = some a := by
    intro o
    cases o <;> simp
  cases v with
  | text s => exact (of_option _).trans ofText?_eq_some
  | bytes bs =>
    refine (of_option _).trans (ofBytes?_eq_some.trans ⟨?_, ?_⟩)
    · rintro rfl
      exact .bytes
    · rintro ⟨⟩
      rfl
  | int n => exact absurd rfl (hv n)
  | _ =>
    constructor
    · intro h
      cases h
    · intro h
      cases h

theorem Written.ofValue {v : Value} {a : Address} (h : a.Written v) : Address.ofValue v = .ok a :=
  (ofValue_eq_ok (by cases h <;> simp)).mpr h

/-- The checksum changes nothing but the case of letters. -/
theorem map_toLower_raise {cs : List Char} (hs : List UInt8)
    (hc : ∀ c ∈ cs, c.toLower = c ∧ c.toUpper.toLower = c) :
    (raise cs hs).map Char.toLower = cs := by
  induction cs, hs using raise.induct with
  | case1 c d rest h hs ih =>
    have ⟨hc1,hc2⟩ := hc c (by simp)
    have ⟨hd1,hd2⟩ := hc d (by simp)
    have hrest := ih fun e he => hc e (by simp [he])
    simp only [raise, List.map_cons, hrest]
    congr 1
    · split <;> assumption
    · congr 1
      split <;> assumption
  | case2 cs hs hshort =>
    rw [raise]
    · exact (List.map_congr_left fun c h => (hc c h).1).trans (List.map_id _)
    · exact hshort

theorem written_text (a : Address) : a.Written (.text a.text) := by
  apply Written.marked
  have hcase : ∀ c ∈ a.digits, c.toLower = c ∧ c.toUpper.toLower = c := by
    intro c hc
    obtain ⟨n,hn,rfl⟩ := Hex.mem_encodeChars hc
    exact Hex.toLower_digitChar n hn
  rw [text, String.toList_ofList, List.map_cons, List.map_cons, map_toLower_raise _ hcase]
  rfl

/-- Different addresses are shown differently. -/
theorem text_injective : Function.Injective text := by
  intro a b h
  have ha := (written_text a).ofValue
  rw [h, (written_text b).ofValue] at ha
  exact (Except.ok.inj ha).symm

end Address

namespace Value

/-- Two values that are the same, or two ways to write one address. -/
inductive Respelled : Value → Value → Prop
  | same (v : Value) : Respelled v v
  | written {a : Address} {v v' : Value} (h : a.Written v) (h' : a.Written v') : Respelled v v'

/-- An address in the one form that all its spellings have in common; any other value as it is. -/
def canonical (v : Value) : Value :=
  match Address.ofValue v with
  | .ok a => a.toValue
  | .error _ => v

@[simp] theorem ofValue_canonical (v : Value) :
    Address.ofValue v.canonical = Address.ofValue v := by
  unfold canonical
  cases h : Address.ofValue v with
  | ok a => exact Address.Written.bytes.ofValue
  | error fault => exact h

theorem Respelled.ofValue_eq {v v' : Value} (h : v.Respelled v') :
    Address.ofValue v = Address.ofValue v' := by
  cases h with
  | same => rfl
  | written h h' => rw [h.ofValue, h'.ofValue]

theorem Respelled.canonical_eq {v v' : Value} (h : v.Respelled v') : v.canonical = v'.canonical := by
  cases h with
  | same => rfl
  | written h h' => rw [canonical, canonical, h.ofValue, h'.ofValue]

end Value

end Basketry
