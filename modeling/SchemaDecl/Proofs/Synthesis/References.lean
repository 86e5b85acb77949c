import SchemaDecl.Proofs.Definition.References
import SchemaDecl.Proofs.Synthesis.Rules

/-! What a type depends on in a reference. The document is asked for the target alone, so a definition
whose references are written in another way has the same type as long as they have the same targets, or
the same fault. -/

namespace SchemaDecl.Synthesis

open Definition (mapRefs propertyMapRefs)

variable {doc : Document} {registry : Option Registry} {f : String → String}

theorem ofRef_of_refTarget {ref ref' : String}
    (h : Document.refTarget ref' = Document.refTarget ref) (owner : Option Name) :
    ofRef doc ref' owner = ofRef doc ref owner := by
  unfold ofRef Document.resolve
  rw [h]

theorem ofProperty_mapRefs {name : Name} {required : List String} {p : String × Definition}
    (h : ofDefinition doc registry (some name) (p.2.mapRefs f) =
      ofDefinition doc registry (some name) p.2) :
    ofProperty doc registry name required (propertyMapRefs f p) =
      ofProperty doc registry name required p := by
  have htype : typeOfProperty doc registry name p.1 (p.2.mapRefs f) =
      typeOfProperty doc registry name p.1 p.2 := by
    unfold typeOfProperty memberFor
    rw [h, Definition.notes_mapRefs]
  have hdoc : docFor p.1 (p.2.mapRefs f) = docFor p.1 p.2 := by
    unfold docFor FieldDoc.ofDefinition
    rw [Definition.notes_mapRefs, Definition.type_mapRefs]
  rw [ofProperty, propertyMapRefs, htype, hdoc, ofProperty]

theorem ofProperties_mapRefs {name : Name} {required : List String} {ps : List (String × Definition)}
    (h : ∀ p ∈ ps, ofDefinition doc registry (some name) (p.2.mapRefs f) =
      ofDefinition doc registry (some name) p.2) :
    ofProperties doc registry name required (ps.map (propertyMapRefs f)) =
      ofProperties doc registry name required ps := by
  rw [ofProperties_eq_mapM, ofProperties_eq_mapM, List.mapM_map]
  exact mapM_congr fun p hp => ofProperty_mapRefs (h p hp)

/-- A definition has the same type when its references are written in another way. -/
theorem ofDefinition_mapRefs (hf : ∀ ref, Document.refTarget (f ref) = Document.refTarget ref)
    (d : Definition) :
    ∀ owner, ofDefinition doc registry owner (d.mapRefs f) = ofDefinition doc registry owner d := by
  induction d using Definition.induct with
  | step d hOneOf hItems hProperties =>
    intro owner
    have hr' : d.ref = none → (d.mapRefs f).ref = none := by
      intro hr
      rw [Definition.ref_mapRefs, hr, Option.map_none]
    have ho' : d.oneOf = none → (d.mapRefs f).oneOf = none := by
      intro ho
      rw [Definition.oneOf_mapRefs, ho, Option.map_none]
    -- the parts that decide are those that decided before
    cases d.form with
    | @reference ref hr =>
      have hr' : (d.mapRefs f).ref = some (f ref) := by
        rw [Definition.ref_mapRefs, hr, Option.map_some]
      rw [ofDefinition_reference hr, ofDefinition_reference hr', ofRef_of_refTarget (hf ref)]
    | literals hr he =>
      rw [ofDefinition_literals hr he, ofDefinition_literals (hr' hr) ((d.enum_mapRefs).trans he)]
    | @alternatives bs hr he ho =>
      have hbs : (d.mapRefs f).oneOf = some (bs.map (mapRefs f)) := by
        rw [Definition.oneOf_mapRefs, ho, Option.map_some]
      have hall : ofBranches doc registry owner (bs.map (mapRefs f)) =
          ofBranches doc registry owner bs := by
        rw [ofBranches_eq_mapM, ofBranches_eq_mapM, List.mapM_map]
        exact mapM_congr fun b hb => hOneOf bs ho b hb owner
      rw [ofDefinition_alternatives hr he ho,
        ofDefinition_alternatives (hr' hr) ((d.enum_mapRefs).trans he) hbs, hall]
      simp only [List.map_eq_nil_iff]
    | array hr he ho ht =>
      rw [ofDefinition_array hr he ho ht, ofDefinition_array (hr' hr) ((d.enum_mapRefs).trans he)
        (ho' ho) ((d.type_mapRefs).trans ht), Definition.items_mapRefs]
      cases hi : d.items with
      | none => rfl
      | some item =>
        dsimp only [Option.map_some]
        rw [hItems item hi owner]
    | object hr he ho ht hobj =>
      rw [ofDefinition_object hr he ho ht hobj, ofDefinition_object (hr' hr)
        ((d.enum_mapRefs).trans he) (ho' ho) (by rwa [Definition.type_mapRefs])
        (by rwa [Definition.isObject_mapRefs]), Definition.getD_properties_mapRefs,
        Definition.required_mapRefs, ofProperties_mapRefs fun p hp => hProperties p hp _]
    | scalar hr he ho ht hobj =>
      rw [ofDefinition_scalar hr he ho ht hobj, ofDefinition_scalar (hr' hr)
        ((d.enum_mapRefs).trans he) (ho' ho) (by rwa [Definition.type_mapRefs])
        (by rwa [Definition.isObject_mapRefs]), Definition.type_mapRefs]

/-- So has one at the top level. -/
theorem ofSchema_mapRefs (hf : ∀ ref, Document.refTarget (f ref) = Document.refTarget ref)
    (name : Name) (d : Definition) :
    ofSchema doc registry name (d.mapRefs f) = ofSchema doc registry name d := by
  unfold ofSchema ofObject
  rw [Definition.isObject_mapRefs, Definition.required_mapRefs, Definition.getD_properties_mapRefs,
    ofProperties_mapRefs fun p _ => ofDefinition_mapRefs hf p.2 _, ofDefinition_mapRefs hf]

end SchemaDecl.Synthesis
