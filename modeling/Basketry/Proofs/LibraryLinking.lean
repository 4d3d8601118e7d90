import Mathlib.Data.List.Basic
import Basketry.Proofs.Occurrences
import Basketry.Proofs.Outcomes
import Basketry.Proofs.Spelling
import Basketry.Proofs.Splicing

namespace Basketry.Artifact

/-- What the references say of one library: the spans that are open for its address. -/
structure Reference where
  source : String
  name : String
  spans : List Span

variable {digits code out : List Char} {s : Span} {i : Nat} {libraries : Value}
  {table table' : List Reference}

section Reading

/-- The spans in a list of them. -/
def spansOf (v : Value) : Except Fault (List Span) := do (← v.members).mapM Span.ofValue

/-- The references of one source. -/
def namesOf (source : String) (names : List (String × Value)) : Except Fault (List Reference) :=
  names.mapM fun (name, spans) => return ⟨source, name, ← spansOf spans⟩

/-- All references, in the order in which they stand. -/
def referencesOf (v : Value) : Except Fault (List Reference) := do
  let sources ← (v.orElse (.dict [])).entries
  let references ← sources.mapM fun (source, names) => do namesOf source (← names.entries)
  return references.flatten

/-- The code with the address of one library in its spans. -/
def fill (libraries : Value) (code : List Char) (r : Reference) : Except Fault (List Char) := do
  let a ← libraryAddress libraries r.source r.name
  return r.spans.foldl (splice a.digits) code

theorem spliceAll_eq {vs : List Value} {spans : List Span} (h : vs.mapM Span.ofValue = .ok spans) :
    spliceAll digits code vs = .ok (spans.foldl (splice digits) code) := by
  induction vs generalizing code spans with
  | nil =>
    cases h
    rfl
  | cons v vs ih =>
    rw [List.mapM_cons] at h
    obtain ⟨s,hs,h⟩ := bind_eq_ok.mp h
    obtain ⟨rest,hrest,h⟩ := bind_eq_ok.mp h
    cases h
    rw [spliceAll, hs]
    exact ih hrest

theorem linkSource_eq {source : String} {names : List (String × Value)} {rs : List Reference}
    (h : namesOf source names = .ok rs) :
    linkSource libraries source code names = rs.foldlM (fill libraries) code := by
  induction names generalizing code rs with
  | nil =>
    cases h
    rfl
  | cons e names ih =>
    obtain ⟨name,v⟩ := e
    rw [namesOf, List.mapM_cons] at h
    obtain ⟨r,hr,h⟩ := bind_eq_ok.mp h
    obtain ⟨rest,hrest,h⟩ := bind_eq_ok.mp h
    obtain ⟨spans,hspans,hr⟩ := bind_eq_ok.mp hr
    obtain ⟨vs,hvs,hspans⟩ := bind_eq_ok.mp hspans
    cases h
    cases hr
    rw [linkSource, List.foldlM_cons, fill]
    cases libraryAddress libraries source name with
    | error fault => rfl
    | ok a =>
      rw [ok_bind, hvs, ok_bind, spliceAll_eq hspans]
      exact ih hrest

theorem linkSources_eq {sources : List (String × Value)} {rss : List (List Reference)}
    (h : (sources.mapM fun (source, names) => do namesOf source (← names.entries)) = .ok rss) :
    linkSources libraries code sources = rss.flatten.foldlM (fill libraries) code := by
  induction sources generalizing code rss with
  | nil =>
    cases h
    rfl
  | cons e sources ih =>
    obtain ⟨source,v⟩ := e
    rw [List.mapM_cons] at h
    obtain ⟨rs,hrs,h⟩ := bind_eq_ok.mp h
    obtain ⟨rest,hrest,h⟩ := bind_eq_ok.mp h
    obtain ⟨names,hnames,hrs⟩ := bind_eq_ok.mp hrs
    cases h
    rw [linkSources, List.flatten_cons, List.foldlM_append, hnames, ok_bind, linkSource_eq hrs]
    exact congrArg _ (funext fun code => ih hrest)

/-- The references are filled one after another. -/
theorem link_eq {references : Value} (h : referencesOf references = .ok table) (text : String) :
    link (.text text) references libraries =
      (table.foldlM (fill libraries) (dropPrefix text.toList) >>= fun code =>
        if Text.occursIn placeholder code then .error .unresolvedPlaceholders
        else .ok (String.ofList ('0' :: 'x' :: code))) := by
  obtain ⟨sources,hsources,h⟩ := bind_eq_ok.mp h
  obtain ⟨rss,hrss,h⟩ := bind_eq_ok.mp h
  cases h
  rw [link, codeOf, ok_bind, hsources, ok_bind, linkSources_eq hrss]
  rfl

end Reading

section Libraries
variable {r : Reference} {v : Value} {a : Address}

/-- Libraries by name, each with an address. -/
def IsAddressed (libraries : Value) : Prop :=
  ∃ entries, libraries = .dict entries ∧ ∀ e ∈ entries, ∃ a, Address.ofValue e.2 = .ok a

/-- What is given for a library: under its qualified name, or else under its plain one. -/
def Reference.given? (libraries : Value) (r : Reference) : Option Value :=
  (libraries.lookup? (r.source ++ ":" ++ r.name)).or (libraries.lookup? r.name)

theorem IsAddressed.lookup {key : String} (h : IsAddressed libraries)
    (hv : libraries.lookup? key = some v) : ∃ a, Address.ofValue v = .ok a := by
  obtain ⟨entries,rfl,hall⟩ := h
  obtain ⟨e,he,rfl⟩ := Option.map_eq_some_iff.mp hv
  exact hall e (List.mem_of_find?_eq_some he)

theorem IsAddressed.given (h : IsAddressed libraries) (hv : r.given? libraries = some v) :
    ∃ a, Address.ofValue v = .ok a := by
  obtain hv | ⟨_,hv⟩ := Option.or_eq_some_iff.mp hv
  · exact h.lookup hv
  · exact h.lookup hv

theorem libraryAddress_eq (h : IsAddressed libraries) (r : Reference) :
    libraryAddress libraries r.source r.name =
      (r.given? libraries).elim (.error (.libraryMissing r.source r.name)) Address.ofValue := by
  have hnull : ∀ v, r.given? libraries = some v → v ≠ .null := by
    rintro v hv rfl
    obtain ⟨a,ha⟩ := h.given hv
    cases ha
  obtain ⟨entries,rfl,_⟩ := h
  have hread : ((Value.dict entries).fieldOr r.name .null >>= fun plain =>
      (Value.dict entries).fieldOr (r.source ++ ":" ++ r.name) plain) =
      .ok ((r.given? (.dict entries)).getD .null) := by
    unfold Reference.given? Value.fieldOr
    cases (Value.dict entries).lookup? (r.source ++ ":" ++ r.name) <;> rfl
  obtain ⟨plain,hplain,hread⟩ := bind_eq_ok.mp hread
  rw [libraryAddress, hplain, ok_bind, hread, ok_bind]
  cases hv : r.given? (.dict entries) with
  | none => rfl
  | some v =>
    cases v with
    | null => exact absurd rfl (hnull _ hv)
    | _ => rfl

/-- A library whose address is known, with this address. -/
def Reference.At (libraries : Value) (r : Reference) (a : Address) : Prop :=
  ∃ v, r.given? libraries = some v ∧ Address.ofValue v = .ok a

theorem Reference.At.unique {b : Address} (h : r.At libraries a) (h' : r.At libraries b) : a = b := by
  obtain ⟨v,hv,ha⟩ := h
  obtain ⟨v',hv',hb⟩ := h'
  cases hv.symm.trans hv'
  exact Except.ok.inj (ha.symm.trans hb)

/-- Either the address of a library is known, or it is reported as missing. -/
theorem libraryAddress_cases (h : IsAddressed libraries) (r : Reference) :
    (∃ a, r.At libraries a ∧ libraryAddress libraries r.source r.name = .ok a) ∨
      r.given? libraries = none ∧
        libraryAddress libraries r.source r.name = .error (.libraryMissing r.source r.name) := by
  rw [libraryAddress_eq h]
  cases hv : r.given? libraries with
  | none => exact .inr ⟨rfl, rfl⟩
  | some v =>
    obtain ⟨a,ha⟩ := h.given hv
    exact .inl ⟨a, ⟨v, hv, ha⟩, ha⟩

/-- The digits that go into the spans of the references. -/
def placements (libraries : Value) (table : List Reference) : List (List Char × Span) :=
  table.flatMap fun r => match libraryAddress libraries r.source r.name with
    | .ok a => r.spans.map (a.digits, ·)
    | .error _ => []

theorem place_append (ps qs : List (List Char × Span)) :
    place code (ps ++ qs) = place (place code ps) qs := by
  simp [place, List.foldl_append]

/-- All spans are filled if all libraries are given. -/
theorem fill_all (h : IsAddressed libraries) (hall : ∀ r ∈ table, r.given? libraries ≠ none) :
    table.foldlM (fill libraries) code = .ok (place code (placements libraries table)) := by
  induction table generalizing code with
  | nil => rfl
  | cons r table ih =>
    obtain ⟨a,_,ha⟩ | ⟨hnone,_⟩ := libraryAddress_cases h r
    · have hhead : placements libraries (r :: table) =
          r.spans.map (a.digits, ·) ++ placements libraries table := by
        simp [placements, ha]
      have hfold : place code (r.spans.map (a.digits, ·)) = r.spans.foldl (splice a.digits) code := by
        simp [place, List.foldl_map]
      rw [List.foldlM_cons, fill, ha, hhead, place_append, hfold]
      exact ih fun r hr => hall r (List.mem_cons_of_mem _ hr)
    · exact absurd hnone (hall r List.mem_cons_self)

/-- The first library that is not given is reported. -/
theorem fill_missing (h : IsAddressed libraries) (hmissing : ∃ r ∈ table, r.given? libraries = none) :
    ∃ r ∈ table, r.given? libraries = none ∧
      table.foldlM (fill libraries) code = .error (.libraryMissing r.source r.name) := by
  induction table generalizing code with
  | nil =>
    obtain ⟨r,hr,_⟩ := hmissing
    cases hr
  | cons r table ih =>
    rw [List.foldlM_cons, fill]
    obtain ⟨a,⟨v,hv,_⟩,ha⟩ | ⟨hnone,hfault⟩ := libraryAddress_cases h r
    · have hlater : ∃ r ∈ table, r.given? libraries = none := by
        obtain ⟨r',hr',hnone⟩ := hmissing
        obtain rfl | hr' := List.mem_cons.mp hr'
        · cases hv.symm.trans hnone
        · exact ⟨r', hr', hnone⟩
      obtain ⟨r',hr',hnone,hfault⟩ := ih hlater
      rw [ha]
      exact ⟨r', List.mem_cons_of_mem r hr', hnone, hfault⟩
    · rw [hfault]
      exact ⟨r, List.mem_cons_self, hnone, rfl⟩

end Libraries

section Placeholders

/-- Addresses have no placeholder in them. -/
theorem placeholder_not_digit {a : Address} {j k : Nat} (hk : k < placeholder.length) :
    a.digits[j]? ≠ placeholder[k]? := by
  intro h
  rw [List.getElem?_eq_getElem hk] at h
  obtain ⟨n,hn,hdigit⟩ := Hex.mem_encodeChars (List.mem_of_getElem? h)
  have hmark : ∀ k, (h : k < placeholder.length) → ∀ n < 16, placeholder[k] ≠ Hex.digitChar n := by decide
  exact hmark k hk n hn hdigit

end Placeholders

section Results

/-- References to spans of the code that are apart from each other. -/
structure Fits (length : Nat) (table : List Reference) : Prop where
  within : ∀ r ∈ table, ∀ s ∈ r.spans, s.Fits length
  apart : (table.flatMap (·.spans)).Pairwise Span.Apart

/-- A place in one of the spans. -/
def Covered (table : List Reference) (i : Nat) : Prop := ∃ r ∈ table, ∃ s ∈ r.spans, s.Covers i

/-- A placeholder that no span covers any part of. -/
def OccursOutside (table : List Reference) (code : List Char) : Prop :=
  ∃ n, ∀ k < placeholder.length, ¬ Covered table (n + k) ∧ code[n + k]? = placeholder[k]?

/-- Code with the addresses of the libraries in the spans of another, and the same outside of them. -/
structure Linked (libraries : Value) (table : List Reference) (code out : List Char) : Prop where
  length : out.length = code.length
  outside : ∀ i, ¬ Covered table i → out[i]? = code[i]?
  inside : ∀ r ∈ table, ∀ s ∈ r.spans, ∃ a, r.At libraries a ∧ (out.drop s.offset).take 40 = a.digits

/-- References to the same libraries with the same spans, in whatever order. -/
structure Same (table table' : List Reference) : Prop where
  libraries : ∀ source name, (∃ r ∈ table, r.source = source ∧ r.name = name) ↔
    ∃ r ∈ table', r.source = source ∧ r.name = name
  spans : ∀ source name s, (∃ r ∈ table, (r.source = source ∧ r.name = name) ∧ s ∈ r.spans) ↔
    ∃ r ∈ table', (r.source = source ∧ r.name = name) ∧ s ∈ r.spans

theorem mem_placements {p : List Char × Span} : p ∈ placements libraries table ↔
    ∃ r ∈ table, ∃ a, libraryAddress libraries r.source r.name = .ok a ∧
      ∃ s ∈ r.spans, (a.digits, s) = p := by
  unfold placements
  rw [List.mem_flatMap]
  refine exists_congr fun r => and_congr_right fun _ => ?_
  cases libraryAddress libraries r.source r.name with
  | error fault => simp
  | ok a => simp

theorem placements_spans (h : IsAddressed libraries)
    (hall : ∀ r ∈ table, r.given? libraries ≠ none) :
    (placements libraries table).map (·.2) = table.flatMap (·.spans) := by
  induction table with
  | nil => rfl
  | cons r table ih =>
    obtain ⟨a,_,ha⟩ | ⟨hnone,_⟩ := libraryAddress_cases h r
    · have hrest := ih fun r hr => hall r (List.mem_cons_of_mem _ hr)
      unfold placements at hrest ⊢
      rw [List.flatMap_cons, List.map_append, hrest, ha, List.flatMap_cons]
      simp [Function.comp_def]
    · exact absurd hnone (hall r List.mem_cons_self)

theorem Fits.placeable {length : Nat} (hfits : Fits length table) (h : IsAddressed libraries)
    (hall : ∀ r ∈ table, r.given? libraries ≠ none) :
    Placeable length (placements libraries table) := by
  refine ⟨fun p hp => ?_, ?_⟩
  · obtain ⟨r,hr,a,_,s,hs,rfl⟩ := mem_placements.mp hp
    exact ⟨hfits.within r hr s hs, a.length_digits⟩
  · have hapart := hfits.apart
    rw [← placements_spans h hall, List.pairwise_map] at hapart
    exact hapart

/-- Filled spans hold what they are filled with. -/
theorem Fits.linked (hfits : Fits code.length table) (h : IsAddressed libraries)
    (hall : ∀ r ∈ table, r.given? libraries ≠ none) :
    Linked libraries table code (place code (placements libraries table)) := by
  have hplaceable := hfits.placeable h hall
  refine ⟨length_place hplaceable, fun i hi => ?_, fun r hr s hs => ?_⟩
  · apply place_uncovered hplaceable
    intro p hp hcovers
    obtain ⟨r,hr,a,_,s,hs,rfl⟩ := mem_placements.mp hp
    exact hi ⟨r, hr, s, hs, hcovers⟩
  · obtain ⟨a,hat,ha⟩ | ⟨hnone,_⟩ := libraryAddress_cases h r
    · have hmem := mem_placements.mpr ⟨r, hr, a, ha, s, hs, rfl⟩
      refine ⟨a, hat, List.ext_getElem? fun k => ?_⟩
      rw [List.getElem?_take, List.getElem?_drop]
      split
      · rename_i hk
        rw [place_covered hplaceable hmem ⟨Nat.le_add_right _ _, by omega⟩, Nat.add_sub_cancel_left]
      · rename_i hk
        rw [List.getElem?_eq_none]
        rw [Address.length_digits]
        omega
    · exact absurd hnone (hall r hr)

theorem Linked.covered {r : Reference} (h : Linked libraries table code out) (hr : r ∈ table)
    (hs : s ∈ r.spans) (hi : s.Covers i) :
    ∃ a, r.At libraries a ∧ out[i]? = a.digits[i - s.offset]? := by
  obtain ⟨a,hat,hdigits⟩ := h.inside r hr s hs
  obtain ⟨hle,hlt⟩ := hi
  refine ⟨a, hat, ?_⟩
  rw [← hdigits, List.getElem?_take, if_pos (by omega), List.getElem?_drop,
    Nat.add_sub_cancel' hle]

theorem Same.covered (h : Same table table') : Covered table i ↔ Covered table' i := by
  have onward : ∀ {table table' : List Reference}, Same table table' → Covered table i →
      Covered table' i := by
    rintro table table' h ⟨r,hr,s,hs,hi⟩
    obtain ⟨r',hr',_,hs'⟩ := (h.spans r.source r.name s).mp ⟨r, hr, ⟨rfl, rfl⟩, hs⟩
    exact ⟨r', hr', s, hs', hi⟩
  exact ⟨onward h, onward ⟨fun source name => (h.libraries source name).symm,
    fun source name s => (h.spans source name s).symm⟩⟩

theorem Reference.given?_congr {r r' : Reference} (h : r'.source = r.source ∧ r'.name = r.name) :
    r'.given? libraries = r.given? libraries := by
  rw [Reference.given?, h.1, h.2]
  rfl

/-- The references and the code say all about the linked code. -/
theorem Linked.unique {out' : List Char} (h : Linked libraries table code out)
    (h' : Linked libraries table' code out') (hsame : Same table table') : out' = out := by
  apply List.ext_getElem?
  intro i
  by_cases hi : Covered table i
  · obtain ⟨r,hr,s,hs,hi⟩ := hi
    obtain ⟨r',hr',hnames,hs'⟩ := (hsame.spans r.source r.name s).mp ⟨r, hr, ⟨rfl, rfl⟩, hs⟩
    obtain ⟨a,hat,hout⟩ := h.covered hr hs hi
    obtain ⟨a',⟨v,hv,ha'⟩,hout'⟩ := h'.covered hr' hs' hi
    rw [Reference.given?_congr hnames] at hv
    cases Reference.At.unique hat ⟨v, hv, ha'⟩
    exact hout'.trans hout.symm
  · rw [h.outside i hi, h'.outside i fun hc => hi (hsame.covered.mpr hc)]

/-- What was linked stays the same when it is linked again. -/
theorem Linked.again (h : Linked libraries table code out) : Linked libraries table out out :=
  ⟨rfl, fun _ _ => rfl, h.inside⟩

/-- A placeholder that is left was outside of the spans before. -/
theorem Linked.occursIn (h : Linked libraries table code out) :
    Text.occursIn placeholder out = true ↔ OccursOutside table code := by
  rw [Text.occursIn_iff]
  refine exists_congr fun n => forall_congr' fun k => forall_congr' fun hk => ?_
  constructor
  · intro hout
    have hopen : ¬ Covered table (n + k) := by
      rintro ⟨r,hr,s,hs,hi⟩
      obtain ⟨a,_,hdigit⟩ := h.covered hr hs hi
      exact placeholder_not_digit hk (hdigit.symm.trans hout)
    exact ⟨hopen, (h.outside _ hopen).symm.trans hout⟩
  · rintro ⟨hopen,hcode⟩
    exact (h.outside _ hopen).trans hcode

variable {references references' : Value} {text : String}

/-- Code as it is given out. -/
def shown (code : List Char) : String := String.ofList ('0' :: 'x' :: code)

theorem link_shown (hread : referencesOf references = .ok table)
    (hfits : Fits (dropPrefix text.toList).length table) (h : IsAddressed libraries)
    (hall : ∀ r ∈ table, r.given? libraries ≠ none) : ∃ out,
      Linked libraries table (dropPrefix text.toList) out ∧
      (OccursOutside table (dropPrefix text.toList) →
        link (.text text) references libraries = .error .unresolvedPlaceholders) ∧
      (¬ OccursOutside table (dropPrefix text.toList) →
        link (.text text) references libraries = .ok (shown out)) := by
  have hlinked := hfits.linked h hall
  refine ⟨_, hlinked, fun hleft => ?_, fun hleft => ?_⟩
  · rw [link_eq hread, fill_all h hall, ok_bind, if_pos (hlinked.occursIn.mpr hleft)]
  · rw [link_eq hread, fill_all h hall, ok_bind, if_neg (mt hlinked.occursIn.mp hleft)]
    rfl

theorem dropPrefix_shown (code : List Char) : dropPrefix (shown code).toList = code := by
  rw [shown, String.toList_ofList]
  rfl

theorem Same.given (h : Same table table') (hall : ∀ r ∈ table, r.given? libraries ≠ none) :
    ∀ r ∈ table', r.given? libraries ≠ none := by
  intro r' hr'
  obtain ⟨r,hr,hnames⟩ := (h.libraries r'.source r'.name).mpr ⟨r', hr', rfl, rfl⟩
  rw [← Reference.given?_congr hnames]
  exact hall r hr

theorem Same.occursOutside (h : Same table table') (hcode : OccursOutside table' code) :
    OccursOutside table code := by
  obtain ⟨n,hn⟩ := hcode
  exact ⟨n, fun k hk => ⟨mt h.covered.mp (hn k hk).1, (hn k hk).2⟩⟩

/-- Linking reports a library that is not given, or a placeholder that stands outside of all spans, if there
is one. Otherwise the result is the code with the address of each library in its spans, and with everything
else as it was; linking the result again changes nothing, and neither does another order of the sources, of
the libraries or of their spans. -/
theorem linking_fills_the_spans (hread : referencesOf references = .ok table)
    (hfits : Fits (dropPrefix text.toList).length table) (hlibraries : IsAddressed libraries) :
    let code := dropPrefix text.toList
    ((∃ r ∈ table, r.given? libraries = none) → ∃ r ∈ table, r.given? libraries = none ∧
      link (.text text) references libraries = .error (.libraryMissing r.source r.name)) ∧
    ((∀ r ∈ table, r.given? libraries ≠ none) → OccursOutside table code →
      link (.text text) references libraries = .error .unresolvedPlaceholders) ∧
    ((∀ r ∈ table, r.given? libraries ≠ none) → ¬ OccursOutside table code → ∃ out,
      link (.text text) references libraries = .ok (shown out) ∧
      Linked libraries table code out ∧
      link (.text (shown out)) references libraries = .ok (shown out) ∧
      ∀ references' table', referencesOf references' = .ok table' → Fits code.length table' →
        Same table table' → link (.text text) references' libraries = .ok (shown out)) := by
  intro code
  refine ⟨fun hmissing => ?_, fun hall hleft => ?_, fun hall hleft => ?_⟩
  · obtain ⟨r,hr,hnone,hfault⟩ := fill_missing hlibraries hmissing
    refine ⟨r, hr, hnone, ?_⟩
    rw [link_eq hread, hfault]
    rfl
  · obtain ⟨_,_,hfault,_⟩ := link_shown hread hfits hlibraries hall
    exact hfault hleft
  · obtain ⟨out,hlinked,_,hdone⟩ := link_shown hread hfits hlibraries hall
    refine ⟨out, hdone hleft, hlinked, ?_, fun references' table' hread' hfits' hsame => ?_⟩
    · have hclean : ¬ OccursOutside table out :=
        fun h => hleft (hlinked.occursIn.mp (hlinked.again.occursIn.mpr h))
      rw [← dropPrefix_shown out] at hclean
      have hagain : Fits (dropPrefix (shown out).toList).length table := by
        rw [dropPrefix_shown, hlinked.length]
        exact hfits
      obtain ⟨out',hlinked',_,hdone'⟩ := link_shown hread hagain hlibraries hall
      rw [dropPrefix_shown] at hlinked'
      rw [hdone' hclean, hlinked.again.unique hlinked' ⟨fun _ _ => Iff.rfl, fun _ _ _ => Iff.rfl⟩]
    · obtain ⟨out',hlinked',_,hdone'⟩ := link_shown hread' hfits' hlibraries (hsame.given hall)
      rw [hdone' fun h => hleft (hsame.occursOutside h), hlinked.unique hlinked' hsame]

end Results

instance (n : Nat) (s : Span) : Decidable (s.Fits n) :=
  decidable_of_iff (s.length = 20 ∧ 0 ≤ s.start ∧ s.offset + 40 ≤ n)
    ⟨fun ⟨hwidth,hstart,hroom⟩ => ⟨hwidth, hstart, hroom⟩, fun h => ⟨h.width, h.start, h.room⟩⟩

instance (s t : Span) : Decidable (s.Apart t) := inferInstanceAs (Decidable (_ ∨ _))

instance (table : List Reference) (i : Nat) : Decidable (Covered table i) :=
  inferInstanceAs (Decidable (∃ r ∈ table, ∃ s ∈ r.spans, s.Covers i))

namespace Sample

def sums : Address := ⟨List.replicate 20 0xab, rfl⟩

def rates : Address := ⟨List.replicate 20 0x12, rfl⟩

def span (start : Int) : Value := .dict [("start", .int start), ("length", .int 20)]

/-- One library with two spans, and one with a span between them. -/
def linkReferences : Value :=
  .dict [("a.sol", .dict [("Sums", .list [span 46, span 2])]),
    ("b.sol", .dict [("Rates", .list [span 24])])]

def listed : List Reference :=
  [⟨"a.sol", "Sums", [⟨46, 20⟩, ⟨2, 20⟩]⟩, ⟨"b.sol", "Rates", [⟨24, 20⟩]⟩]

/-- A qualified name, beside the same name plainly for another library. -/
def addresses : Value :=
  .dict [("Sums", .bytes rates.bytes), ("Rates", .text rates.lowerText),
    ("a.sol:Sums", .text sums.lowerText)]

def gap : List Char := placeholder ++ List.replicate 37 '_'

def unlinked : List Char :=
  "6080".toList ++ gap ++ "6040".toList ++ gap ++ "6000".toList ++ gap ++ "00".toList

end Sample

theorem linking_fills_the_spans_qualified : ∃ out,
    link (.text (shown Sample.unlinked)) Sample.linkReferences Sample.addresses = .ok (shown out) ∧
      (out.drop 92).take 40 = Sample.sums.digits ∧ (out.drop 48).take 40 = Sample.rates.digits ∧
      link (.text (shown out)) Sample.linkReferences Sample.addresses = .ok (shown out) := by
  have hsums : Address.ofValue (.text Sample.sums.lowerText) = .ok Sample.sums := by decide +kernel
  have hrates : Address.ofValue (.text Sample.rates.lowerText) = .ok Sample.rates := by
    decide +kernel
  have hread : referencesOf Sample.linkReferences = .ok Sample.listed := rfl
  have hfits : Fits (dropPrefix (shown Sample.unlinked).toList).length Sample.listed := by
    rw [dropPrefix_shown]
    exact ⟨by decide +kernel, by decide +kernel⟩
  have hlibraries : IsAddressed Sample.addresses := by
    refine ⟨_, rfl, ?_⟩
    simp only [List.forall_mem_cons, List.not_mem_nil, false_implies, implies_true, and_true]
    exact ⟨⟨Sample.rates, rfl⟩, ⟨_, hrates⟩, ⟨_, hsums⟩⟩
  have hall : ∀ r ∈ Sample.listed, r.given? Sample.addresses ≠ none := by
    simp [Sample.listed, Reference.given?, Sample.addresses, Value.lookup?]
  have hclean : ¬ OccursOutside Sample.listed (dropPrefix (shown Sample.unlinked).toList) := by
    rw [dropPrefix_shown]
    rintro ⟨n,h⟩
    have hnone : ∀ n < Sample.unlinked.length, ¬ ∀ k < placeholder.length,
        ¬ Covered Sample.listed (n + k) ∧ Sample.unlinked[n + k]? = placeholder[k]? := by
      decide +kernel
    by_cases hn : n < Sample.unlinked.length
    · exact hnone n hn h
    · have hpast := (h 0 (by decide)).2
      rw [Nat.add_zero, List.getElem?_eq_none (Nat.not_lt.mp hn)] at hpast
      cases hpast
  obtain ⟨-,-,hdone⟩ := linking_fills_the_spans hread hfits hlibraries
  obtain ⟨out,hout,hlinked,hagain,-⟩ := hdone hall hclean
  obtain ⟨a,hat,ha⟩ := hlinked.inside ⟨"a.sol", "Sums", [⟨46, 20⟩, ⟨2, 20⟩]⟩
    (by simp [Sample.listed]) ⟨46, 20⟩ (by simp)
  obtain ⟨b,hbt,hb⟩ := hlinked.inside ⟨"b.sol", "Rates", [⟨24, 20⟩]⟩ (by simp [Sample.listed])
    ⟨24, 20⟩ (by simp)
  cases hat.unique ⟨_, rfl, hsums⟩
  cases hbt.unique ⟨_, rfl, hrates⟩
  exact ⟨out, hout, ha, hb, hagain⟩

end Basketry.Artifact
