import Basketry.Artifact.Factory
import Basketry.Proofs.LibraryLinking

namespace Basketry.Artifact

variable {entries libraries : List (String × Value)} {interface references bytecode : Value}
  {text out : String}

section References

/-- The references of an artifact, which may have none. -/
def referencesIn (entries : List (String × Value)) : Value :=
  ((Value.dict entries).lookup? "linkReferences").getD .null

theorem truth_orElse_empty (v : Value) : (v.orElse (.dict [])).truth = v.truth := by
  rw [Value.orElse]
  split
  · rfl
  · rename_i h
    rw [Bool.not_eq_true] at h
    rw [h]
    rfl

theorem dict_orElse_empty (es : List (String × Value)) : (Value.dict es).orElse (.dict []) = .dict es := by
  cases es with
  | nil => rfl
  | cons e es => rfl

/-- Linking takes what counts as false for no references itself. -/
theorem link_orElse_empty (bytecode references libraries : Value) :
    link bytecode (references.orElse (.dict [])) libraries = link bytecode references libraries := by
  have htwice : (references.orElse (.dict [])).orElse (.dict []) = references.orElse (.dict []) := by
    rw [Value.orElse, ite_eq_left_iff, truth_orElse_empty]
    intro h
    rw [Value.orElse, if_neg h]
  rw [link, htwice]
  rfl

/-- The factory of an artifact that has an interface and code. With references it links. -/
theorem exists_factory (deployer : Deployer) (libraries : List (String × Value))
    (hinterface : (Value.dict entries).lookup? "abi" = some interface)
    (hcode : (Value.dict entries).lookup? "bytecode" = some (.text text)) : ∃ f,
    Factory.ofArtifact (.dict entries) deployer (.dict libraries) = .ok f ∧
      f.bytecode = if (referencesIn entries).truth then
          Value.text <$> link (.text text) (referencesIn entries) (.dict libraries)
        else .ok (.text text) := by
  refine ⟨⟨((Value.dict entries).lookup? "contractName").getD (.text "Unknown"), interface, deployer,
    .dict libraries, .text text, (referencesIn entries).orElse (.dict [])⟩, ?_, ?_⟩
  · simp only [Factory.ofArtifact, Value.fieldOr, Value.field, hinterface, hcode, Option.elim_some,
      ok_bind, dict_orElse_empty]
    rfl
  · rw [Factory.bytecode, truth_orElse_empty, link_orElse_empty]

end References

section Linking

/-- The prefix takes no part in a placeholder. -/
theorem occursIn_shown (code : List Char) :
    Text.occursIn placeholder (shown code).toList = Text.occursIn placeholder code := by
  have hzero : placeholder.isPrefixOf ('0' :: 'x' :: code) = false := rfl
  have hx : placeholder.isPrefixOf ('x' :: code) = false := rfl
  rw [shown, String.toList_ofList, Text.occursIn, Text.occursIn, hzero, hx, Bool.false_or, Bool.false_or]

/-- No placeholder is left in linked code. -/
theorem link_clean (h : link bytecode references (.dict libraries) = .ok out) :
    Text.occursIn placeholder out.toList = false := by
  obtain ⟨code,-,h⟩ := bind_eq_ok.mp h
  obtain ⟨sources,-,h⟩ := bind_eq_ok.mp h
  obtain ⟨code,-,h⟩ := bind_eq_ok.mp h
  by_cases hleft : Text.occursIn placeholder code = true
  · rw [if_pos hleft] at h
    cases h
  · rw [if_neg hleft] at h
    cases h
    rw [Bool.not_eq_true] at hleft
    exact (occursIn_shown code).trans hleft

/-- Without references linking puts the prefix in front and looks for placeholders. -/
theorem link_unreferenced (h : references.truth = false) (libraries : Value) :
    link (.text text) references libraries =
      if Text.occursIn placeholder (dropPrefix text.toList) then .error .unresolvedPlaceholders
      else .ok (shown (dropPrefix text.toList)) := by
  have hnone : referencesOf references = .ok [] := by
    rw [referencesOf, Value.orElse, h]
    rfl
  rw [link_eq hnone]
  rfl

/-- Code with the prefix in front and no placeholder in it, as linking gives it out. -/
def IsReady (text : String) : Prop :=
  shown (dropPrefix text.toList) = text ∧ Text.occursIn placeholder text.toList = false

theorem link_unreferenced_ready (h : references.truth = false) :
    link (.text text) references (.dict libraries) = .ok text ↔ IsReady text := by
  constructor
  · intro hlink
    have hclean := link_clean hlink
    rw [link_unreferenced h] at hlink
    split at hlink
    · cases hlink
    · exact ⟨Except.ok.inj hlink, hclean⟩
  · rintro ⟨hshown,hclean⟩
    rw [← hshown, occursIn_shown] at hclean
    rw [link_unreferenced h, hclean, hshown]
    rfl

end Linking

theorem map_text_eq_ok {r : Except Fault String} : Value.text <$> r = .ok (.text out) ↔ r = .ok out := by
  cases r with
  | error fault => exact ⟨nofun, nofun⟩
  | ok code =>
    change Except.ok (Value.text code) = .ok (.text out) ↔ _
    simp

/-- With references a factory gives out what linking gives, failures included. Without any it gives out the
code of the artifact, which is what linking gives only where the prefix is there and no placeholder is left;
and this is the only way in which a placeholder is ever given out. -/
theorem creation_code_is_linked_where_referenced (deployer : Deployer) (libraries : List (String × Value))
    (hinterface : (Value.dict entries).lookup? "abi" = some interface)
    (hcode : (Value.dict entries).lookup? "bytecode" = some (.text text)) : ∃ f,
    Factory.ofArtifact (.dict entries) deployer (.dict libraries) = .ok f ∧
      let references := referencesIn entries
      let linked := link (.text text) references (.dict libraries)
      (references.truth = true → f.bytecode = Value.text <$> linked) ∧
      (references.truth = false → f.bytecode = .ok (.text text) ∧
        linked = if Text.occursIn placeholder (dropPrefix text.toList) then .error .unresolvedPlaceholders
          else .ok (shown (dropPrefix text.toList))) ∧
      (f.bytecode = Value.text <$> linked ↔ references.truth = true ∨ IsReady text) ∧
      ∀ out, f.bytecode = .ok (.text out) → Text.occursIn placeholder out.toList = true →
        references.truth = false ∧ out = text := by
  obtain ⟨f,hf,hbytecode⟩ := exists_factory deployer libraries hinterface hcode
  refine ⟨f, hf, ?_⟩
  intro references linked
  have hreferenced : references.truth = true → f.bytecode = Value.text <$> linked := fun h =>
    hbytecode.trans (if_pos h)
  have hunreferenced : references.truth = false → f.bytecode = .ok (.text text) := fun h => by
    rw [hbytecode, h]
    rfl
  refine ⟨hreferenced, fun h => ⟨hunreferenced h, link_unreferenced h _⟩, ?_, fun out hout hleft => ?_⟩
  · cases h : references.truth with
    | true => exact ⟨fun _ => .inl rfl, fun _ => hreferenced h⟩
    | false =>
      rw [hunreferenced h, eq_comm, map_text_eq_ok, link_unreferenced_ready h]
      simp
  · cases h : references.truth with
    | true =>
      rw [hreferenced h, map_text_eq_ok] at hout
      rw [link_clean hout] at hleft
      cases hleft
    | false =>
      rw [hunreferenced h] at hout
      cases hout
      exact ⟨rfl, rfl⟩

namespace Sample

/-- An artifact, with its references under their key where it has any. -/
def artifact (code : String) (references : List (String × Value)) : List (String × Value) :=
  [("contractName", .text "Module"), ("abi", .list []), ("bytecode", .text code)] ++ references

def creator : Deployer := .unlocked (.text "0x3333333333333333333333333333333333333333")

/-- Code that still waits for a library. -/
def waiting : String := shown ("6080".toList ++ gap)

end Sample

theorem creation_code_is_linked_where_referenced_spanned : ∃ f,
    Factory.ofArtifact (.dict (Sample.artifact (shown Sample.unlinked)
      [("linkReferences", Sample.linkReferences)])) Sample.creator Sample.addresses = .ok f ∧
      f.bytecode = Value.text <$>
        link (.text (shown Sample.unlinked)) Sample.linkReferences Sample.addresses := by
  have hinterface : (Value.dict (Sample.artifact (shown Sample.unlinked)
      [("linkReferences", Sample.linkReferences)])).lookup? "abi" = some (.list []) := rfl
  obtain ⟨f,hf,hreferenced,-⟩ :=
    creation_code_is_linked_where_referenced Sample.creator _ hinterface rfl
  exact ⟨f, hf, hreferenced rfl⟩

/-- Code without references goes out with its placeholder in it, and as bare as it was. Linking refuses
the one and puts the prefix in front of the other. -/
theorem unreferenced_code_is_given_out_unlinked :
    (Factory.ofArtifact (.dict (Sample.artifact Sample.waiting [("linkReferences", .dict [])]))
        Sample.creator (.dict []) >>= Factory.bytecode) = .ok (.text Sample.waiting) ∧
      link (.text Sample.waiting) (.dict []) (.dict []) = .error .unresolvedPlaceholders ∧
      (Factory.ofArtifact (.dict (Sample.artifact "6080" [])) Sample.creator (.dict []) >>=
        Factory.bytecode) = .ok (.text "6080") ∧
      link (.text "6080") .null (.dict []) = .ok "0x6080" := by
  refine ⟨rfl, ?_, rfl, ?_⟩
  · rw [link_unreferenced rfl, Sample.waiting, dropPrefix_shown]
    rfl
  · rw [link_unreferenced rfl]
    rfl

end Basketry.Artifact
