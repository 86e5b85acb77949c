import SchemaDecl.Proofs.Synthesis.Leaves

/-! What a type depends on beside its definition. A document and a registry matter only for the leaves:
two of each that treat every leaf alike give the same type, or fail in the same way. -/

namespace SchemaDecl.Synthesis

open Definition (Leaf)

variable {doc doc' : Document} {registry registry' : Option Registry}

/-- Both documents refer to the same and both registries have the same member, if any. -/
def Alike (doc doc' : Document) (registry registry' : Option Registry) : Leaf → Prop
  | .reference ref => ∀ owner, ofRef doc ref owner = ofRef doc' ref owner
  | .member tag =>
    (registry.bind fun r => tag.bind r.identifierFor) =
      registry'.bind fun r => tag.bind r.identifierFor

theorem memberFor_congr {name : Name} {d : Definition}
    (h : Alike doc doc' registry registry' (.member d.notes.sample.asText?)) :
    memberFor registry name d = memberFor registry' name d := by
  have h' : (registry.bind fun r => d.notes.sample.asText?.bind r.identifierFor) =
      registry'.bind fun r => d.notes.sample.asText?.bind r.identifierFor := h
  rw [memberFor, memberFor, h']

theorem ofBranches_congr {owner : Option Name} {bs : List Definition}
    (h : ∀ b ∈ bs, ofDefinition doc registry owner b = ofDefinition doc' registry' owner b) :
    ofBranches doc registry owner bs = ofBranches doc' registry' owner bs := by
  induction bs with
  | nil => rw [ofBranches, ofBranches]
  | cons b bs ih =>
    obtain ⟨hb, hbs⟩ := List.forall_mem_cons.1 h
    rw [ofBranches, ofBranches, hb, ih hbs]

theorem ofProperties_congr {name : Name} {required : List String} {ps : List (String × Definition)}
    (hm : ∀ leaf ∈ Definition.propertyLeaves ps, Alike doc doc' registry registry' leaf)
    (h : ∀ p ∈ ps, (∀ leaf ∈ p.2.leaves, Alike doc doc' registry registry' leaf) →
      ofDefinition doc registry (some name) p.2 = ofDefinition doc' registry' (some name) p.2) :
    ofProperties doc registry name required ps = ofProperties doc' registry' name required ps := by
  induction ps with
  | nil => rw [ofProperties, ofProperties]
  | cons p ps ih =>
    obtain ⟨key, d⟩ := p
    obtain ⟨hd, hps⟩ := List.forall_mem_cons.1 h
    rw [Definition.propertyLeaves, List.forall_mem_append] at hm
    obtain ⟨hleaves, hrest⟩ := hm
    rw [ofProperties, ofProperties, ih hrest hps]
    by_cases hp : (key == tagProperty) = true
    · rw [if_pos hp] at hleaves
      rw [if_pos hp, if_pos hp, memberFor_congr (hleaves _ List.mem_cons_self)]
    · rw [if_neg hp] at hleaves
      rw [if_neg hp, if_neg hp, hd hleaves]

/-- A definition has the same type, or the same fault, where its leaves are treated alike. -/
theorem ofDefinition_congr (d : Definition) :
    ∀ owner, (∀ leaf ∈ d.leaves, Alike doc doc' registry registry' leaf) →
      ofDefinition doc registry owner d = ofDefinition doc' registry' owner d := by
  induction d using Definition.induct with
  | step d hOneOf hItems hProperties =>
    intro owner h
    rw [Definition.leaves_eq] at h
    cases d.form with
    | reference hr =>
      simp only [hr] at h
      rw [ofDefinition_reference hr, ofDefinition_reference hr]
      exact h _ List.mem_cons_self owner
    | literals hr he => rw [ofDefinition_literals hr he, ofDefinition_literals hr he]
    | alternatives hr he ho =>
      simp only [hr, he, ho, Definition.branchLeaves_eq_flatten] at h
      rw [ofDefinition_alternatives hr he ho, ofDefinition_alternatives hr he ho,
        ofBranches_congr fun b hb => hOneOf _ ho b hb owner fun leaf hl =>
          h leaf (List.mem_flatten_of_mem (List.mem_map_of_mem hb) hl)]
    | array hr he ho ht =>
      simp only [hr, he, ho, ht, beq_self_eq_true, if_true] at h
      rw [ofDefinition_array hr he ho ht, ofDefinition_array hr he ho ht]
      cases hi : d.items with
      | none => rfl
      | some item =>
        rw [hi] at h
        dsimp only
        rw [hItems item hi owner h]
    | object hr he ho ht hobj =>
      simp only [hr, he, ho] at h
      rw [if_neg (by simpa using ht)] at h
      rw [ofDefinition_object hr he ho ht hobj, ofDefinition_object hr he ho ht hobj,
        ofProperties_congr h fun p hp => hProperties p hp _]
    | scalar hr he ho ht hobj =>
      rw [ofDefinition_scalar hr he ho ht hobj, ofDefinition_scalar hr he ho ht hobj]

/-- So has a definition at the top level. -/
theorem ofSchema_congr {name : Name} {d : Definition}
    (h : ∀ leaf ∈ d.schemaLeaves, Alike doc doc' registry registry' leaf) :
    ofSchema doc registry name d = ofSchema doc' registry' name d := by
  unfold Definition.schemaLeaves at h
  unfold ofSchema
  by_cases ho : d.isObject = true
  · rw [if_pos ho] at h
    rw [if_pos ho, if_pos ho, ofObject, ofObject,
      ofProperties_congr h fun p _ => ofDefinition_congr p.2 (some name)]
  · rw [if_neg ho] at h
    rw [if_neg ho, if_neg ho, ofDefinition_congr d (some name) h]

end SchemaDecl.Synthesis
