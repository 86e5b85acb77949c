import SchemaDecl.Proofs.Definition.Notes
import SchemaDecl.Proofs.Definition.Plain
import SchemaDecl.Proofs.Synthesis.Faults
import SchemaDecl.Proofs.TypeExpr.Canonical

/-! Notes are for readers alone. A plain definition has the same type without them as with them, up to
the documentation of fields, and the same dependencies; or it has none, for the same reason. -/

namespace SchemaDecl

open Definition (propertyWithoutNotes)

/-! ### Types without documentation -/

/-- A field without its documentation and that of the fields in it. -/
def Field.withoutDocs : Field → Field
  | .mk n t r _ => .mk n t.withoutDocs r {}

namespace TypeExpr

theorem membersWithoutDocs_eq_map (ms : List TypeExpr) :
    membersWithoutDocs ms = ms.map withoutDocs := by
  induction ms with
  | nil => rw [membersWithoutDocs, List.map_nil]
  | cons t ms ih => rw [membersWithoutDocs, ih, List.map_cons]

theorem fieldsWithoutDocs_eq_map (fs : List Field) :
    fieldsWithoutDocs fs = fs.map Field.withoutDocs := by
  induction fs with
  | nil => rw [fieldsWithoutDocs, List.map_nil]
  | cons f fs ih =>
    cases f
    rw [fieldsWithoutDocs, ih, List.map_cons, Field.withoutDocs]

theorem isRecord_withoutDocs (t : TypeExpr) : t.withoutDocs.isRecord = t.isRecord := by
  cases t <;> rw [withoutDocs] <;> rfl

end TypeExpr

namespace Synthesis

/-- A type without documentation, with its dependencies. -/
def bare (s : Synthesis) : Synthesis :=
  ⟨s.type.withoutDocs, s.deps⟩

theorem sameShape_iff {s s' : Synthesis} : s.sameShape s' = true ↔ s.bare = s'.bare := by
  have htype : s.type.sameShape s'.type = true ↔ s.type.withoutDocs = s'.type.withoutDocs :=
    TypeExpr.beq_iff _ _
  rw [sameShape, Bool.and_eq_true, htype, beq_iff_eq, bare, bare, Synthesis.mk.injEq]

theorem deps_eq_of_bare {ss ss' : List Synthesis} (h : ss.map bare = ss'.map bare) :
    ss.map Synthesis.deps = ss'.map Synthesis.deps := by
  have hdeps := congrArg (List.map Synthesis.deps) h
  rwa [List.map_map, List.map_map] at hdeps

theorem bare_union {ss ss' : List Synthesis} (h : ss.map bare = ss'.map bare) :
    bare ⟨.union (ss.map Synthesis.type), mergeDeps (ss.map Synthesis.deps)⟩ =
      bare ⟨.union (ss'.map Synthesis.type), mergeDeps (ss'.map Synthesis.deps)⟩ := by
  have htypes := congrArg (List.map Synthesis.type) h
  rw [List.map_map, List.map_map] at htypes
  rw [bare, bare, TypeExpr.withoutDocs, TypeExpr.withoutDocs, TypeExpr.membersWithoutDocs_eq_map,
    TypeExpr.membersWithoutDocs_eq_map, List.map_map, List.map_map, deps_eq_of_bare h]
  exact congrArg (Synthesis.mk · _) (congrArg TypeExpr.union htypes)

theorem bare_sequence {s s' : Synthesis} (h : s.bare = s'.bare) :
    bare ⟨.sequence s.type, s.deps⟩ = bare ⟨.sequence s'.type, s'.deps⟩ := by
  obtain ⟨htype, hdeps⟩ := Synthesis.mk.inj h
  rw [bare, bare, TypeExpr.withoutDocs, TypeExpr.withoutDocs, htype, hdeps]

/-- A field without documentation, with its dependencies. -/
def bareField (f : Field × List String) : Field × List String :=
  (f.1.withoutDocs, f.2)

theorem bare_ofFields {fs fs' : List (Field × List String)} (h : fs.map bareField = fs'.map bareField) :
    (ofFields fs).bare = (ofFields fs').bare := by
  have hfields := congrArg (List.map Prod.fst) h
  have hdeps := congrArg (List.map Prod.snd) h
  rw [List.map_map, List.map_map] at hfields hdeps
  rw [ofFields, ofFields, bare, bare, TypeExpr.withoutDocs, TypeExpr.withoutDocs,
    TypeExpr.fieldsWithoutDocs_eq_map, TypeExpr.fieldsWithoutDocs_eq_map, List.map_map, List.map_map]
  exact congrArg₂ Synthesis.mk (congrArg TypeExpr.record hfields) (congrArg mergeDeps hdeps)

/-! ### Properties -/

variable {doc : Document} {registry : Option Registry}

theorem isJson_sample_propertyWithoutNotes {p : String × Definition} (hp : p.2.Plain) :
    (propertyWithoutNotes p).2.notes.sample.IsJson := by
  by_cases hk : p.1 = tagProperty
  · rw [Definition.propertyWithoutNotes_of_eq hk]
    exact hp.isJson_sample
  · rw [Definition.propertyWithoutNotes_of_ne hk, Definition.notes_withoutNotes]
    exact .null

/-- The type of a property depends on its example only if that is the discriminant. -/
theorem typeOfProperty_withoutNotes {name : Name} {p : String × Definition}
    (h : (ofDefinition doc registry (some name) p.2).map bare =
      (ofDefinition doc registry (some name) p.2.withoutNotes).map bare) :
    (typeOfProperty doc registry name p.1 p.2).map bare =
      (typeOfProperty doc registry name p.1 (propertyWithoutNotes p).2).map bare := by
  by_cases hk : p.1 = tagProperty
  · rw [Definition.propertyWithoutNotes_of_eq hk, typeOfProperty, typeOfProperty, hk,
      if_pos (beq_self_eq_true _), if_pos (beq_self_eq_true _)]
    rfl
  · have hbeq : ¬(p.1 == tagProperty) = true := by simpa using hk
    rw [Definition.propertyWithoutNotes_of_ne hk, typeOfProperty, typeOfProperty, if_neg hbeq,
      if_neg hbeq]
    exact h

theorem ofProperty_of_docFor {name : Name} {required : List String} {p : String × Definition}
    {fieldDoc : FieldDoc} (h : docFor p.1 p.2 = .ok fieldDoc) :
    ofProperty doc registry name required p =
      typeOfProperty doc registry name p.1 p.2 >>= fun s =>
        .ok (.mk p.1 s.type (p.1 == tagProperty || required.contains p.1) fieldDoc, s.deps) := by
  rw [ofProperty, h]
  rfl

theorem ofProperty_withoutNotes {name : Name} {required : List String} {p : String × Definition}
    (hp : p.2.Plain)
    (h : (ofDefinition doc registry (some name) p.2).map bare =
      (ofDefinition doc registry (some name) p.2.withoutNotes).map bare) :
    (ofProperty doc registry name required p).map bareField =
      (ofProperty doc registry name required (propertyWithoutNotes p)).map bareField := by
  obtain ⟨fieldDoc, hdoc⟩ := exists_docFor p.1 hp.isJson_sample
  obtain ⟨fieldDoc', hdoc'⟩ := exists_docFor p.1 (isJson_sample_propertyWithoutNotes hp)
  have hkey : (propertyWithoutNotes p).1 = p.1 := rfl
  rw [ofProperty_of_docFor hdoc, ofProperty_of_docFor (hkey ▸ hdoc'), hkey]
  refine map_bind_congr (typeOfProperty_withoutNotes h) fun s s' hs => congrArg Except.ok ?_
  obtain ⟨htype, hdeps⟩ := Synthesis.mk.inj hs
  rw [bareField, bareField, Field.withoutDocs, Field.withoutDocs, htype, hdeps]

theorem ofProperties_withoutNotes {name : Name} {required : List String}
    {ps : List (String × Definition)} (hps : ∀ p ∈ ps, p.2.Plain)
    (h : ∀ p ∈ ps, (ofDefinition doc registry (some name) p.2).map bare =
      (ofDefinition doc registry (some name) p.2.withoutNotes).map bare) :
    (ofProperties doc registry name required ps >>= fun fs => .ok (ofFields fs)).map bare =
      (ofProperties doc registry name required (ps.map propertyWithoutNotes) >>= fun fs =>
        .ok (ofFields fs)).map bare := by
  rw [ofProperties_eq_mapM, ofProperties_eq_mapM]
  refine map_bind_congr ?_ fun fs fs' hfs => congrArg Except.ok (bare_ofFields hfs)
  exact map_mapM_congr fun p hp => ofProperty_withoutNotes (hps p hp) (h p hp)

/-! ### Definitions -/

/-- A definition has the same type without its notes, up to documentation, or the same fault. -/
theorem ofDefinition_withoutNotes {d : Definition} (hd : d.Plain) :
    ∀ owner, (ofDefinition doc registry owner d).map bare =
      (ofDefinition doc registry owner d.withoutNotes).map bare := by
  induction hd with
  | @mk d hOneOf hItems hPlain hSample ihOneOf ihItems ihProperties =>
    intro owner
    have hnone : d.oneOf = none → d.withoutNotes.oneOf = none := by
      intro ho
      rw [Definition.oneOf_withoutNotes, ho, Option.map_none]
    -- the part that decides is none of the notes, so it decides without them as well
    cases d.form with
    | reference hr =>
      rw [ofDefinition_reference hr, ofDefinition_reference ((d.ref_withoutNotes).trans hr)]
    | literals hr he =>
      rw [ofDefinition_literals hr he, ofDefinition_literals ((d.ref_withoutNotes).trans hr)
        ((d.enum_withoutNotes).trans he)]
    | @alternatives bs hr he ho =>
      have ho' : d.withoutNotes.oneOf = some (bs.map Definition.withoutNotes) := by
        rw [Definition.oneOf_withoutNotes, ho, Option.map_some]
      rw [ofDefinition_alternatives hr he ho, ofDefinition_alternatives
        ((d.ref_withoutNotes).trans hr) ((d.enum_withoutNotes).trans he) ho']
      by_cases hbs : bs = []
      · rw [if_pos hbs, if_pos (List.map_eq_nil_iff.2 hbs)]
      · rw [if_neg hbs, if_neg (mt List.map_eq_nil_iff.1 hbs), ofBranches_eq_mapM,
          ofBranches_eq_mapM]
        refine map_bind_congr ?_ fun ss ss' hss => congrArg Except.ok (bare_union hss)
        exact map_mapM_congr fun b hb => ihOneOf bs ho b hb owner
    | array hr he ho ht =>
      rw [ofDefinition_array hr he ho ht, ofDefinition_array ((d.ref_withoutNotes).trans hr)
        ((d.enum_withoutNotes).trans he) (hnone ho) ((d.type_withoutNotes).trans ht),
        Definition.items_withoutNotes]
      cases hi : d.items with
      | none => rfl
      | some item =>
        dsimp only [Option.map_some]
        refine map_bind_congr (ihItems item hi owner) fun s s' hs => ?_
        exact congrArg Except.ok (bare_sequence hs)
    | object hr he ho ht hobj =>
      rw [ofDefinition_object hr he ho ht hobj, ofDefinition_object ((d.ref_withoutNotes).trans hr)
        ((d.enum_withoutNotes).trans he) (hnone ho) (by rwa [Definition.type_withoutNotes])
        (by rwa [Definition.isObject_withoutNotes]), Definition.getD_properties_withoutNotes,
        Definition.required_withoutNotes]
      exact ofProperties_withoutNotes hPlain fun p hp => ihProperties p hp _
    | scalar hr he ho ht hobj =>
      rw [ofDefinition_scalar hr he ho ht hobj, ofDefinition_scalar ((d.ref_withoutNotes).trans hr)
        ((d.enum_withoutNotes).trans he) (hnone ho) (by rwa [Definition.type_withoutNotes])
        (by rwa [Definition.isObject_withoutNotes]), Definition.type_withoutNotes]

/-- So has one at the top level. -/
theorem ofSchema_withoutNotes {name : Name} {d : Definition} (hd : d.Plain) :
    (ofSchema doc registry name d).map bare = (ofSchema doc registry name d.withoutNotes).map bare := by
  unfold ofSchema
  rw [Definition.isObject_withoutNotes]
  split
  · rw [ofObject, ofObject, Definition.getD_properties_withoutNotes, Definition.required_withoutNotes]
    exact ofProperties_withoutNotes (fun p hp => hd.property hp)
      fun p hp => ofDefinition_withoutNotes (hd.property hp) _
  · exact ofDefinition_withoutNotes hd _

end Synthesis

end SchemaDecl
