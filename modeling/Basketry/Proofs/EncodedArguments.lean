import Basketry.Abi.Encoding
import Basketry.Abi.Decoding
import Basketry.Proofs.BigEndian
import Basketry.Proofs.Outcomes
import Basketry.Proofs.Spelling

namespace Basketry.Abi

/-- Each offset that a layout writes down fits into its slot. -/
def Reach : Nat → List Part → Prop
  | _, [] => True
  | offset, p :: ps =>
    if p.dynamic then offset < BigEndian.count 32 ∧ Reach (offset + p.bytes.length) ps
    else Reach offset ps

def LayoutReach (ps : List Part) : Prop := Reach (headLength ps) ps

mutual

/-- Values of a type that an encoding can hold. Nothing that takes no room has an offset to it, so
tuples and fixed arrays have to have members. -/
inductive Fits : Ty → Datum → Prop
  | uint {size : Nat} {n : Int} (hs : size ≤ 32) (h : 0 ≤ n) (hn : n < BigEndian.count size) :
      Fits (.uint size) (.number n)
  | int {size : Nat} {n : Int} (hs : size ≤ 32) (h : -(BigEndian.count size / 2 : Int) ≤ n)
      (hn : n < BigEndian.count size / 2) : Fits (.int size) (.number n)
  | address (a : Address) : Fits .address (.account a)
  | bool (b : Bool) : Fits .bool (.flag b)
  | word {bs : List UInt8} (hs : bs.length ≤ 32) : Fits (.word bs.length) (.raw bs)
  | bytes {bs : List UInt8} (h : bs.length < BigEndian.count 32) : Fits .bytes (.raw bs)
  | string {bs : List UInt8} (h : bs.length < BigEndian.count 32) : Fits .string (.raw bs)
  | array {item : Ty} {xs : List Datum} (hl : xs.length < BigEndian.count 32)
      (h : FitAll (List.replicate xs.length item) xs)
      (hr : LayoutReach (encodeParts (List.replicate xs.length item) xs)) :
      Fits (.array item) (.items xs)
  | fixed {item : Ty} {xs : List Datum} (hn : xs ≠ [])
      (h : FitAll (List.replicate xs.length item) xs)
      (hr : LayoutReach (encodeParts (List.replicate xs.length item) xs)) :
      Fits (.fixed item xs.length) (.items xs)
  | tuple {members : List Ty} {xs : List Datum} (hn : xs ≠ []) (h : FitAll members xs)
      (hr : LayoutReach (encodeParts members xs)) : Fits (.tuple members) (.items xs)

/-- As many values as types, and each fits its type. -/
inductive FitAll : List Ty → List Datum → Prop
  | nil : FitAll [] []
  | cons {t : Ty} {x : Datum} {ts : List Ty} {xs : List Datum} (h : Fits t x) (hr : FitAll ts xs) :
      FitAll (t :: ts) (x :: xs)

end

/-- The bytes at a position. -/
def Stands (data : List UInt8) (pos : Nat) (bs : List UInt8) : Prop := bs <+: data.drop pos

section Places
variable {data as bs : List UInt8} {pos : Nat}

theorem stands_append :
    Stands data pos (as ++ bs) ↔ Stands data pos as ∧ Stands data (pos + as.length) bs := by
  unfold Stands
  constructor
  · rintro ⟨rest,h⟩
    rw [List.append_assoc] at h
    refine ⟨⟨bs ++ rest, h⟩, rest, ?_⟩
    rw [← List.drop_drop, ← h, List.drop_left]
  · rintro ⟨⟨rest,h⟩,⟨rest',h'⟩⟩
    rw [← List.drop_drop, ← h, List.drop_left] at h'
    exact ⟨rest', by rw [List.append_assoc, h', h]⟩

theorem Stands.length_le (h : Stands data pos bs) : bs.length ≤ data.length - pos := by
  simpa using List.IsPrefix.length_le h

theorem Stands.window {count : Nat} (h : Stands data pos bs) (hl : bs.length = count) :
    window data pos count = .ok bs := by
  have htake : (data.drop pos).take count = bs := hl ▸ (List.prefix_iff_eq_take.mp h).symm
  rw [Abi.window, htake]
  exact if_pos hl

theorem stands_self (bs : List UInt8) : Stands bs 0 bs := List.prefix_refl bs

theorem Stands.readNat {n : Nat} (h : Stands data pos (wordOfNat n)) (hn : n < BigEndian.count 32) :
    readNat data pos = .ok n := by
  rw [Abi.readNat, h.window (BigEndian.length_ofNat 32 n), ok_bind, wordOfNat, BigEndian.toNat_ofNat,
    Nat.mod_eq_of_lt hn]
  rfl

end Places

section Slots

theorem lowBytes_append {size : Nat} {fill : UInt8} (low : List UInt8) :
    lowBytes (List.replicate (32 - size) fill ++ low) size fill = .ok low := by
  simp [lowBytes]

theorem highBytes_append (bs : List UInt8) (n : Nat) :
    highBytes (bs ++ zeros n) bs.length = .ok bs := by
  simp [highBytes, zeros]

theorem length_padRight (bs : List UInt8) : (padRight bs).length = ceil32 bs.length := by
  simp only [padRight, zeros, List.length_append, List.length_replicate, ceil32]
  omega

theorem Stands.lengthPrefixed {data bs : List UInt8} {pos : Nat}
    (h : Stands data pos (wordOfNat bs.length ++ padRight bs)) (hn : bs.length < BigEndian.count 32) :
    lengthPrefixed data pos = .ok bs := by
  obtain ⟨hsize,hbytes⟩ := stands_append.mp h
  have hwhole := hbytes.length_le
  have hpad : bs.length ≤ (padRight bs).length := by simp [padRight]
  rw [wordOfNat, BigEndian.length_ofNat] at hbytes
  rw [Abi.lengthPrefixed, hsize.readNat hn, ok_bind, if_neg (by omega),
    hbytes.window (length_padRight bs), ok_bind, padRight, highBytes_append]

end Slots

section Layouts

theorem length_heads (offset : Nat) (ps : List Part) : (heads offset ps).length = headLength ps := by
  induction ps generalizing offset with
  | nil => rfl
  | cons p ps ih =>
    rw [heads]
    split <;> simp_all [headLength, Part.headSize, wordOfNat]

theorem encodeParts_replicate (item : Ty) (xs : List Datum) :
    encodeParts (List.replicate xs.length item) xs =
      xs.map fun x => ⟨item.isDynamic, encode item x⟩ := by
  induction xs with
  | nil => rfl
  | cons x xs ih => rw [List.length_cons, List.replicate_succ, encodeParts, ih, List.map_cons]

theorem encode_array (item : Ty) (xs : List Datum) :
    encode (.array item) (.items xs) =
      wordOfNat xs.length ++ layout (encodeParts (List.replicate xs.length item) xs) := by
  rw [encode, encodeParts_replicate]

theorem encode_fixed (item : Ty) (xs : List Datum) :
    encode (.fixed item xs.length) (.items xs) =
      layout (encodeParts (List.replicate xs.length item) xs) := by
  rw [encode, encodeParts_replicate]

variable {ts : List Ty}

theorem anyDynamic_eq_false : anyDynamic ts = false ↔ ∀ t ∈ ts, t.isDynamic = false := by
  induction ts with
  | nil => simp [anyDynamic]
  | cons t ts ih => simp [anyDynamic, ih]

theorem static_replicate {item : Ty} (n : Nat) (h : item.isDynamic = false) :
    ∀ t ∈ List.replicate n item, t.isDynamic = false := by
  intro t ht
  rwa [List.eq_of_mem_replicate ht]

theorem headSizes_static (h : ∀ t ∈ ts, t.isDynamic = false) : headSizes ts = staticSizes ts := by
  induction ts with
  | nil => rfl
  | cons t ts ih =>
    have hrest := ih fun t' ht => h t' (List.mem_cons_of_mem _ ht)
    rw [headSizes] at hrest
    rw [headSizes, List.foldr_cons, hrest, Ty.headSize, h t List.mem_cons_self]
    rfl

theorem headSizes_replicate (item : Ty) (n : Nat) :
    headSizes (List.replicate n item) = n * item.headSize := by
  induction n with
  | zero => simp [headSizes]
  | succ n ih =>
    rw [headSizes] at ih
    rw [List.replicate_succ, headSizes, List.foldr_cons, ih, Nat.succ_mul, Nat.add_comm]

/-- Static values leave nothing for the tail. -/
theorem tails_static (xs : List Datum) (h : ∀ t ∈ ts, t.isDynamic = false) :
    tails (encodeParts ts xs) = [] := by
  induction ts generalizing xs with
  | nil => cases xs <;> rfl
  | cons t ts ih =>
    cases xs with
    | nil => rfl
    | cons x xs =>
      have hrest := ih xs fun t' ht => h t' (List.mem_cons_of_mem _ ht)
      rw [tails] at hrest
      rw [tails, encodeParts, List.filter_cons_of_neg (by simp [h t List.mem_cons_self]), hrest]

theorem reach_static {xs : List Datum} {offset : Nat} (h : ∀ t ∈ ts, t.isDynamic = false) :
    Reach offset (encodeParts ts xs) := by
  induction ts generalizing xs with
  | nil => cases xs <;> trivial
  | cons t ts ih =>
    cases xs with
    | nil => trivial
    | cons x xs =>
      rw [encodeParts, Reach, if_neg (by simp [h t List.mem_cons_self])]
      exact ih fun t' ht => h t' (List.mem_cons_of_mem _ ht)

end Layouts

section Sizes

mutual

theorem Fits.length_pos {t : Ty} {x : Datum} : Fits t x → 0 < (encode t x).length
  | .uint .. | .int .. => by simp [encode]
  | .address a => by simp [encode, zeros]
  | .bool b => by simp [encode, wordOfNat]
  | .word hs => by
    simp only [encode, zeros, List.length_append, List.length_replicate]
    omega
  | .bytes .. | .string .. | .array .. => by
    simp only [encode, List.length_append, wordOfNat, BigEndian.length_ofNat]
    omega
  | .fixed hn h _ => by
    rw [encode_fixed, layout, List.length_append, length_heads]
    exact Nat.add_pos_left (Nat.lt_of_lt_of_le (List.length_pos_iff.mpr hn) h.length_le) _
  | .tuple hn h _ => by
    rw [encode, layout, List.length_append, length_heads]
    exact Nat.add_pos_left (Nat.lt_of_lt_of_le (List.length_pos_iff.mpr hn) h.length_le) _

/-- Each value takes room in the head. -/
theorem FitAll.length_le {ts : List Ty} {xs : List Datum} :
    FitAll ts xs → xs.length ≤ headLength (encodeParts ts xs)
  | .nil => Nat.le_refl _
  | .cons h hr => by
    have hpos := h.length_pos
    have hrest := hr.length_le
    rw [headLength] at hrest
    rw [encodeParts, headLength, List.foldr_cons, List.length_cons, Part.headSize]
    dsimp only
    split <;> omega

end

theorem length_layout_static {ts : List Ty} {xs : List Datum}
    (h : headLength (encodeParts ts xs) = headSizes ts) (hs : ∀ t ∈ ts, t.isDynamic = false) :
    (layout (encodeParts ts xs)).length = headSizes ts := by
  rw [layout, List.length_append, length_heads, tails_static xs hs, h]
  rfl

mutual

/-- A static value takes the room of its type. -/
theorem Fits.length_static {t : Ty} {x : Datum} :
    Fits t x → t.isDynamic = false → (encode t x).length = t.staticSize
  | .uint .. , _ | .int .., _ => by simp [encode, Ty.staticSize]
  | .address a, _ => by simp [encode, zeros, a.length_bytes, Ty.staticSize]
  | .bool b, _ => by simp [encode, wordOfNat, Ty.staticSize]
  | .word hs, _ => by
    simp only [encode, zeros, List.length_append, List.length_replicate, Ty.staticSize]
    omega
  | .bytes .., hs | .string .., hs | .array .., hs => by simp [Ty.isDynamic] at hs
  | .fixed _ h _, hs => by
    rw [Ty.isDynamic] at hs
    rw [encode_fixed, length_layout_static h.headLength_eq (static_replicate _ hs),
      headSizes_replicate, Ty.headSize, hs, Ty.staticSize]
    rfl
  | .tuple _ h _, hs => by
    rw [Ty.isDynamic, anyDynamic_eq_false] at hs
    rw [encode, length_layout_static h.headLength_eq hs, headSizes_static hs, Ty.staticSize]

theorem FitAll.headLength_eq {ts : List Ty} {xs : List Datum} :
    FitAll ts xs → headLength (encodeParts ts xs) = headSizes ts
  | .nil => rfl
  | .cons (t := t) (x := x) h hr => by
    have hrest := hr.headLength_eq
    have hhead : (Part.mk t.isDynamic (encode t x)).headSize = t.headSize := by
      cases hs : t.isDynamic with
      | true => simp [Part.headSize, Ty.headSize, hs]
      | false => simp [Part.headSize, Ty.headSize, hs, h.length_static hs]
    rw [headLength, headSizes] at hrest
    rw [encodeParts, headLength, List.foldr_cons, hrest, hhead]
    rfl

end

end Sizes

section Reading
variable {data : List UInt8}

/-- A static argument stands in the head itself. -/
theorem decodeMembers_static {t : Ty} {ts : List Ty} {base start : Nat} (ht : t.isDynamic = false) :
    decodeMembers (t :: ts) data base start = do
      let x ← decode t data start
      return x :: (← decodeMembers ts data base (start + t.headSize)) := by
  rw [decodeMembers, ht]
  rfl

/-- Where no argument is dynamic, there are no offsets to judge. -/
theorem decodeArguments_static {ts : List Ty} (h : anyDynamic ts = false) (data : List UInt8) :
    decodeArguments ts data = decodeMembers ts data 0 0 := by
  rw [decodeArguments, h]
  rfl

/-- The head of a dynamic argument says where it stands. -/
theorem decodeMembers_dynamic {t : Ty} {ts : List Ty} {base start : Nat} (ht : t.isDynamic = true) :
    decodeMembers (t :: ts) data base start = do
      let offset ← readNat data start
      let x ← decode t data (base + offset)
      return x :: (← decodeMembers ts data base (start + t.headSize)) := by
  rw [decodeMembers, ht]
  rfl

/-- The items of an array are read like members that all have its type. -/
theorem readSlots_dynamic {item : Ty} (hd : item.isDynamic = true) (base n start : Nat) :
    readSlots (fun i => do decode item data (base + (← readNat data i))) 32 n start =
      decodeMembers (List.replicate n item) data base start := by
  induction n generalizing start with
  | zero => rfl
  | succ n ih =>
    rw [List.replicate_succ, readSlots, decodeMembers_dynamic hd, ih, Ty.headSize, hd]
    cases readNat data start <;> rfl

theorem readSlots_static {item : Ty} (hd : item.isDynamic = false) (base n start : Nat) :
    readSlots (fun i => decode item data i) item.staticSize n start =
      decodeMembers (List.replicate n item) data base start := by
  induction n generalizing start with
  | zero => rfl
  | succ n ih =>
    rw [List.replicate_succ, readSlots, decodeMembers_static hd, ih, Ty.headSize, hd]
    rfl

theorem checkPointers_eq {item : Ty} (hd : item.isDynamic = true) (base headSize n start : Nat) :
    checkPointers data base headSize n start =
      checkHeads (List.replicate n item) data base headSize start := by
  induction n generalizing start with
  | zero => rfl
  | succ n ih =>
    rw [List.replicate_succ, checkPointers, checkHeads, ih, hd, Ty.headSize, hd]
    rfl

/-- Members at their places: they are read one after another, and no offset of theirs is refused. -/
structure Members (data : List UInt8) (ts : List Ty) (xs : List Datum) (base start offset : Nat) :
    Prop where
  read : decodeMembers ts data base start = .ok xs
  check : ∀ headSize ≤ offset, checkHeads ts data base headSize start = .ok ()

/-- Items behind one another are read as members of one type. -/
theorem Members.items {item : Ty} {xs : List Datum} {base offset : Nat}
    (h : Members data (List.replicate xs.length item) xs base base offset)
    (ho : offset = headSizes (List.replicate xs.length item)) :
    (if item.isDynamic then do
      checkPointers data base (32 * xs.length) xs.length base
      return .items (← readSlots (fun i => do decode item data (base + (← readNat data i))) 32
        xs.length base)
    else return .items (← readSlots (fun i => decode item data i) item.staticSize xs.length base)) =
      (.ok (.items xs) : Except Fault Datum) := by
  cases hd : item.isDynamic with
  | true =>
    have hroom : offset = xs.length * 32 := by
      rw [ho, headSizes_replicate, Ty.headSize, if_pos hd]
    rw [if_pos rfl, checkPointers_eq hd, h.check _ (by omega), ok_bind, readSlots_dynamic hd, h.read]
    rfl
  | false =>
    rw [if_neg Bool.false_ne_true, readSlots_static hd base, h.read]
    rfl

mutual

/-- A value is read back wherever its encoding stands. -/
theorem Fits.decode_eq {t : Ty} {x : Datum} {pos : Nat} :
    Fits t x → Stands data pos (encode t x) → decode t data pos = .ok x
  | .uint hs h hn => by
    intro hx
    rw [encode] at hx
    rw [decode, hx.window (BigEndian.length_ofInt ..), ok_bind, BigEndian.ofInt_wider hs h hn,
      lowBytes_append, ok_bind, BigEndian.toNat_ofInt_of_lt h hn]
    rfl
  | @Fits.int size n hs h hn => by
    intro hx
    have hslot : BigEndian.ofInt 32 n = List.replicate (32 - size) (if n < 0 then 255 else 0) ++
        BigEndian.ofInt size n := by
      split
      · exact BigEndian.ofInt_wider_of_neg hs (by assumption) (by omega)
      · exact BigEndian.ofInt_wider hs (by omega) (by omega)
    have hlow : (BigEndian.ofInt 32 n).drop (32 - size) = BigEndian.ofInt size n := by
      rw [hslot, List.drop_left' List.length_replicate]
    rw [encode] at hx
    rw [decode, hx.window (BigEndian.length_ofInt ..), ok_bind]
    simp only [hlow, BigEndian.toInt_ofInt h hn]
    rw [hslot, lowBytes_append]
    rfl
  | .address a => by
    intro hx
    have hlow : lowBytes (zeros 12 ++ a.bytes) 20 0 = .ok a.bytes := lowBytes_append a.bytes
    rw [encode] at hx
    rw [decode, hx.window (by simp [zeros, a.length_bytes]), ok_bind, hlow, ok_bind,
      Address.ofBytes?_eq_some.mpr rfl]
    rfl
  | .bool b => by
    intro hx
    rw [encode] at hx
    rw [decode, hx.readNat (Nat.lt_of_lt_of_le b.toNat_lt (by decide))]
    cases b <;> rfl
  | .word hs => by
    intro hx
    rw [encode] at hx
    rw [decode, hx.window (by simp [zeros]; omega), ok_bind, highBytes_append]
    rfl
  | .bytes h | .string h => by
    intro hx
    rw [encode] at hx
    rw [decode, hx.lengthPrefixed h]
    rfl
  | @Fits.array item xs hl h hr => by
    intro hx
    rw [encode_array] at hx
    obtain ⟨hsize,hitems⟩ := stands_append.mp hx
    rw [wordOfNat, BigEndian.length_ofNat, layout] at hitems
    obtain ⟨hheads,htails⟩ := stands_append.mp hitems
    rw [length_heads] at htails
    have hm := h.members hheads htails hr
    have hroom := hheads.length_le
    rw [length_heads] at hroom
    have hcount : min xs.length (data.length + 1) = xs.length := by
      have := h.length_le
      omega
    rw [decode, hsize.readNat hl, ok_bind]
    simp only [hcount]
    exact hm.items h.headLength_eq
  | .fixed hn h hr => by
    intro hx
    rw [encode_fixed, layout] at hx
    obtain ⟨hheads,htails⟩ := stands_append.mp hx
    rw [length_heads] at htails
    rw [decode]
    exact (h.members hheads htails hr).items h.headLength_eq
  | .tuple hn h hr => by
    intro hx
    rw [encode, layout] at hx
    obtain ⟨hheads,htails⟩ := stands_append.mp hx
    rw [length_heads] at htails
    have hm := h.members hheads htails hr
    rw [decode, hm.check _ (Nat.le_of_eq h.headLength_eq.symm), hm.read]
    split <;> rfl

theorem FitAll.members {ts : List Ty} {xs : List Datum} {base start offset : Nat} :
    FitAll ts xs → Stands data start (heads offset (encodeParts ts xs)) →
      Stands data (base + offset) (tails (encodeParts ts xs)) → Reach offset (encodeParts ts xs) →
      Members data ts xs base start offset
  | .nil => fun _ _ _ => ⟨by rw [decodeMembers], fun _ _ => by rw [checkHeads]⟩
  | .cons (t := t) (x := x) h hrest => by
    intro hh ht hr
    cases hd : t.isDynamic with
    | true =>
      simp only [encodeParts, heads, tails, Reach, hd, if_true, List.filter_cons_of_pos,
        List.flatMap_cons] at hh ht hr
      obtain ⟨hword,hheads⟩ := stands_append.mp hh
      obtain ⟨hvalue,htails⟩ := stands_append.mp ht
      rw [Nat.add_assoc] at htails
      rw [wordOfNat, BigEndian.length_ofNat] at hheads
      have hm := hrest.members hheads htails hr.2
      constructor
      · rw [decodeMembers_dynamic hd, hword.readNat hr.1, ok_bind, h.decode_eq hvalue, ok_bind,
          Ty.headSize, if_pos hd, hm.read]
        rfl
      · intro headSize hle
        have hroom := hvalue.length_le
        have hpos := h.length_pos
        rw [checkHeads, hd, if_pos rfl, pointer, hword.readNat hr.1, ok_bind,
          if_pos ⟨hle, by omega⟩, Ty.headSize, if_pos hd]
        exact hm.check _ (by omega)
    | false =>
      simp only [encodeParts, heads, tails, Reach, hd, Bool.false_eq_true, if_false,
        not_false_eq_true, List.filter_cons_of_neg] at hh ht hr
      obtain ⟨hvalue,hheads⟩ := stands_append.mp hh
      rw [h.length_static hd] at hheads
      have hm := hrest.members hheads ht hr
      constructor
      · rw [decodeMembers_static hd, h.decode_eq hvalue, ok_bind, Ty.headSize, hd,
          if_neg Bool.false_ne_true, hm.read]
        rfl
      · intro headSize hle
        rw [checkHeads, hd, if_neg Bool.false_ne_true, h.decode_eq hvalue, ok_bind, Ty.headSize, hd,
          if_neg Bool.false_ne_true]
        exact hm.check _ hle

end

end Reading

/-- Arguments that fit their types are read back as they were. -/
theorem decodeArguments_encodeArguments {ts : List Ty} {xs : List Datum} (h : FitAll ts xs)
    (hr : LayoutReach (encodeParts ts xs)) :
    decodeArguments ts (encodeArguments ts xs) = .ok xs := by
  have hdata := stands_self (encodeArguments ts xs)
  obtain ⟨hheads,htails⟩ := stands_append.mp hdata
  rw [length_heads] at htails
  have hm := h.members hheads htails hr
  rw [decodeArguments, hm.check _ (Nat.le_of_eq h.headLength_eq.symm), hm.read]
  split <;> rfl

end Basketry.Abi
