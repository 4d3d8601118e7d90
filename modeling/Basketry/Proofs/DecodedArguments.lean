import Basketry.Proofs.EncodedArguments

namespace Basketry.Abi

section Windows
variable {data bs : List UInt8} {pos : Nat}

/-- A window has the bytes that stand there. -/
theorem window_eq_ok {count : Nat} :
    window data pos count = .ok bs ↔ Stands data pos bs ∧ bs.length = count := by
  constructor
  · intro h
    simp only [window] at h
    split at h
    · cases h
      exact ⟨List.take_prefix .., by assumption⟩
    · cases h
  · rintro ⟨h,hl⟩
    exact h.window hl

theorem readNat_eq_ok {n : Nat} :
    readNat data pos = .ok n ↔ Stands data pos (wordOfNat n) ∧ n < BigEndian.count 32 := by
  constructor
  · intro h
    obtain ⟨bs,hbs,h⟩ := bind_eq_ok.mp h
    obtain ⟨hstands,hl⟩ := window_eq_ok.mp hbs
    cases h
    have hword : wordOfNat (BigEndian.toNat bs) = bs := by
      rw [wordOfNat, ← hl, BigEndian.ofNat_toNat]
    rw [hword]
    exact ⟨hstands, hl ▸ BigEndian.toNat_lt bs⟩
  · rintro ⟨h,hn⟩
    exact h.readNat hn

theorem stands_split (front bs rest : List UInt8) :
    Stands (front ++ (bs ++ rest)) front.length bs := by
  rw [Stands, List.drop_left]
  exact List.prefix_append bs rest

/-- Bytes that stand at a position have that many bytes in front of them. -/
theorem Stands.exists_split (h : Stands data pos bs) (hne : bs ≠ []) :
    ∃ front rest, front.length = pos ∧ data = front ++ (bs ++ rest) := by
  obtain ⟨rest,hdrop⟩ := h
  have hlength := congrArg List.length hdrop
  have hpos := List.length_pos_iff.mpr hne
  rw [List.length_append, List.length_drop] at hlength
  refine ⟨data.take pos, rest, ?_, ?_⟩
  · rw [List.length_take]
    omega
  · rw [hdrop, List.take_append_drop]

theorem decode_uint256_eq_ok {x : Datum} :
    decode (.uint 32) data pos = .ok x ↔
      ∃ n : Nat, Stands data pos (wordOfNat n) ∧ n < BigEndian.count 32 ∧ x = .number n := by
  have hread : decode (.uint 32) data pos = (fun n : Nat => .number n) <$> readNat data pos := by
    rw [decode, readNat]
    cases window data pos 32 <;> rfl
  rw [hread]
  cases hn : readNat data pos with
  | error e => simp [← and_assoc, ← readNat_eq_ok, hn]
  | ok n => simp [← and_assoc, ← readNat_eq_ok, hn, eq_comm]

end Windows

section Heads
variable {data : List UInt8}

theorem pointer_eq_ok {base headSize start place : Nat} :
    pointer data base headSize start = .ok place ↔ ∃ offset, readNat data start = .ok offset ∧
      (headSize ≤ offset ∧ base + offset < data.length) ∧ place = base + offset := by
  rw [pointer, bind_eq_ok]
  constructor
  · rintro ⟨offset,hoffset,h⟩
    split at h
    · rename_i hplace
      cases h
      exact ⟨offset, hoffset, hplace, rfl⟩
    · cases h
  · rintro ⟨offset,hoffset,hplace,rfl⟩
    exact ⟨offset, hoffset, if_pos hplace⟩

/-- A dynamic argument behind a static one stands where its offset leads. -/
theorem decodeArguments_static_dynamic {s d : Ty} {xs : List Datum}
    (hs : s.isDynamic = false) (hd : d.isDynamic = true) :
    decodeArguments [s, d] data = .ok xs ↔ ∃ x offset y, decode s data 0 = .ok x ∧
      readNat data s.headSize = .ok offset ∧ s.headSize + 32 ≤ offset ∧ offset < data.length ∧
      decode d data offset = .ok y ∧ xs = [x, y] := by
  have hany : anyDynamic [s, d] = true := by simp [anyDynamic, hd]
  have hroom : headSizes [s, d] = s.headSize + 32 := by
    simp [headSizes, Ty.headSize, hd]
  simp only [decodeArguments, hany, if_true, hroom, checkHeads, hs, hd, Bool.false_eq_true, if_false,
    decodeMembers_static hs, decodeMembers_dynamic hd, bind_eq_ok, pointer_eq_ok, Nat.zero_add]
  constructor
  · rintro ⟨_,⟨x,hx,_,⟨offset,ho,⟨hlow,hhigh⟩,-⟩,-⟩,x',hx',ys,⟨offset',ho',y,hy,zs,hzs,hys⟩,hxs⟩
    rw [hx] at hx'
    rw [ho] at ho'
    cases hx'
    cases ho'
    rw [decodeMembers] at hzs
    cases hzs
    cases hys
    cases hxs
    exact ⟨x, offset, y, hx, ho, hlow, hhigh, hy, rfl⟩
  · rintro ⟨x,offset,y,hx,ho,hlow,hhigh,hy,rfl⟩
    have hnone : ∀ start, decodeMembers [] data 0 start = .ok [] := by
      intro start
      rw [decodeMembers]
    exact ⟨(), ⟨x, hx, _, ⟨offset, ho, ⟨hlow, hhigh⟩, rfl⟩, trivial⟩, x, hx, [y],
      ⟨offset, ho, y, hy, [], hnone _, rfl⟩, rfl⟩

end Heads

section Words
variable {data : List UInt8} {pos : Nat} {words : List (List UInt8)}

theorem length_flatten_words (h : ∀ word ∈ words, word.length = 32) :
    words.flatten.length = words.length * 32 := by
  induction words with
  | nil => rfl
  | cons word words ih =>
    rw [List.forall_mem_cons] at h
    rw [List.flatten_cons, List.length_append, h.1, ih h.2, List.length_cons]
    omega

theorem fitAll_words (h : ∀ word ∈ words, word.length = 32) :
    FitAll (List.replicate words.length (.word 32)) (words.map .raw) := by
  induction words with
  | nil => exact .nil
  | cons word words ih =>
    rw [List.forall_mem_cons] at h
    have hword : Fits (.word 32) (.raw word) := h.1 ▸ Fits.word (Nat.le_of_eq h.1)
    exact .cons hword (ih h.2)

theorem heads_words (offset : Nat) (h : ∀ word ∈ words, word.length = 32) :
    heads offset (encodeParts (List.replicate words.length (.word 32)) (words.map .raw)) =
      words.flatten := by
  induction words with
  | nil => rfl
  | cons word words ih =>
    rw [List.forall_mem_cons] at h
    have hword : encode (.word 32) (.raw word) = word := by simp [encode, zeros, h.1]
    rw [List.length_cons, List.replicate_succ, List.map_cons, encodeParts, heads, hword, ih h.2]
    rfl

/-- Words are encoded one after another behind their number. -/
theorem encode_words (h : ∀ word ∈ words, word.length = 32) :
    encode (.array (.word 32)) (.items (words.map .raw)) =
      wordOfNat words.length ++ words.flatten := by
  have hstatic : ∀ t ∈ List.replicate words.length (Ty.word 32), t.isDynamic = false :=
    static_replicate _ rfl
  rw [encode_array, List.length_map, layout, heads_words _ h, tails_static _ hstatic,
    List.append_nil]

theorem fits_words (h : ∀ word ∈ words, word.length = 32)
    (hl : words.length < BigEndian.count 32) :
    Fits (.array (.word 32)) (.items (words.map .raw)) := by
  have hlength : (words.map Datum.raw).length = words.length := List.length_map _
  apply Fits.array
  · rwa [hlength]
  · rw [hlength]
    exact fitAll_words h
  · exact reach_static (static_replicate _ rfl)

/-- Slots are read as the words that stand there; the induction is on the slots. -/
theorem readSlots_words {n : Nat} {xs : List Datum}
    (h : readSlots (fun i => decode (.word 32) data i) 32 n pos = .ok xs) :
    ∃ words : List (List UInt8), words.length = n ∧ (∀ word ∈ words, word.length = 32) ∧
      Stands data pos words.flatten ∧ xs = words.map .raw := by
  induction n generalizing pos xs with
  | zero =>
    cases h
    exact ⟨[], rfl, by simp, List.nil_prefix, rfl⟩
  | succ n ih =>
    obtain ⟨x,hx,h⟩ := bind_eq_ok.mp h
    obtain ⟨xs,hxs,h⟩ := bind_eq_ok.mp h
    cases h
    obtain ⟨words,hl,hwords,hstands,rfl⟩ := ih hxs
    have hx : decode (.word 32) data pos = .ok x := hx
    rw [decode] at hx
    obtain ⟨word,hslot,hx⟩ := bind_eq_ok.mp hx
    obtain ⟨hword,hwidth⟩ := window_eq_ok.mp hslot
    have hwhole : highBytes word 32 = .ok word := by
      have := highBytes_append word 0
      rwa [hwidth, zeros, List.replicate_zero, List.append_nil] at this
    rw [hwhole] at hx
    cases hx
    refine ⟨word :: words, by simp [hl], by simpa using ⟨hwidth, hwords⟩, ?_, rfl⟩
    rw [List.flatten_cons, stands_append, hwidth]
    exact ⟨hword, hstands⟩

/-- An array of words is read exactly where the number of the words stands in front of them. -/
theorem decode_words_eq_ok {x : Datum} :
    decode (.array (.word 32)) data pos = .ok x ↔
      ∃ words : List (List UInt8), words.length < BigEndian.count 32 ∧
        (∀ word ∈ words, word.length = 32) ∧
        Stands data pos (wordOfNat words.length ++ words.flatten) ∧ x = .items (words.map .raw) := by
  constructor
  · intro h
    rw [decode] at h
    obtain ⟨size,hsize,h⟩ := bind_eq_ok.mp h
    obtain ⟨xs,hxs,h⟩ := bind_eq_ok.mp h
    cases h
    obtain ⟨hstands,hlt⟩ := readNat_eq_ok.mp hsize
    obtain ⟨words,hl,hwords,hitems,rfl⟩ := readSlots_words hxs
    -- As many slots as there are bytes would not fit, so no item was left out.
    have hcount : words.length = size := by
      have hroom := hitems.length_le
      rw [length_flatten_words hwords] at hroom
      omega
    rw [← hcount] at hstands hlt
    refine ⟨words, hlt, hwords, ?_, rfl⟩
    rw [stands_append, wordOfNat, BigEndian.length_ofNat]
    exact ⟨hstands, hitems⟩
  · rintro ⟨words,hl,hwords,hstands,rfl⟩
    rw [← encode_words hwords] at hstands
    exact (fits_words hwords hl).decode_eq hstands

end Words

end Basketry.Abi
