import SchemaDecl.Proofs.Synthesis.Faults

/-! What a registry decides. It is asked for the members of tag properties and for nothing else, and a
definition with a text for its name has a member for these with any registry. So the choice of the
registry shows in no dependency, and the same definitions fail for the same reasons. -/

namespace SchemaDecl.Synthesis

variable {doc : Document} {registry registry' : Option Registry}

theorem exists_memberFor (registry : Option Registry) (name : String) (d : Definition) :
    ∃ m, memberFor registry (.text name) d = .ok m := by
  cases hm : memberFor registry (.text name) d with
  | ok m => exact ⟨m, rfl⟩
  | error f =>
    obtain ⟨-, v, hv⟩ := eq_other_of_memberFor hm
    cases hv

/-! ### Properties -/

/-- Whatever the member is, a tag property depends on the registry as a whole. -/
theorem deps_typeOfProperty {name key : String} {d : Definition}
    (h : (ofDefinition doc registry (some (.text name)) d).map Synthesis.deps =
      (ofDefinition doc registry' (some (.text name)) d).map Synthesis.deps) :
    (typeOfProperty doc registry (.text name) key d).map Synthesis.deps =
      (typeOfProperty doc registry' (.text name) key d).map Synthesis.deps := by
  unfold typeOfProperty
  by_cases hk : (key == tagProperty) = true
  · obtain ⟨m, hm⟩ := exists_memberFor registry name d
    obtain ⟨m', hm'⟩ := exists_memberFor registry' name d
    rw [if_pos hk, if_pos hk, hm, hm']
    rfl
  · rw [if_neg hk, if_neg hk]
    exact h

theorem deps_ofProperty {name : String} {required : List String} {p : String × Definition}
    (h : (ofDefinition doc registry (some (.text name)) p.2).map Synthesis.deps =
      (ofDefinition doc registry' (some (.text name)) p.2).map Synthesis.deps) :
    (ofProperty doc registry (.text name) required p).map Prod.snd =
      (ofProperty doc registry' (.text name) required p).map Prod.snd := by
  refine map_bind_congr (deps_typeOfProperty h) fun s s' hs => ?_
  cases docFor p.1 p.2 with
  | error f => rfl
  | ok fieldDoc => exact congrArg Except.ok hs

theorem deps_ofProperties {name : String} {required : List String} {ps : List (String × Definition)}
    (h : ∀ p ∈ ps, (ofDefinition doc registry (some (.text name)) p.2).map Synthesis.deps =
      (ofDefinition doc registry' (some (.text name)) p.2).map Synthesis.deps) :
    (ofProperties doc registry (.text name) required ps >>= fun fs => .ok (ofFields fs)).map
        Synthesis.deps =
      (ofProperties doc registry' (.text name) required ps >>= fun fs => .ok (ofFields fs)).map
        Synthesis.deps := by
  have hall : (ps.mapM (ofProperty doc registry (.text name) required)).map (List.map Prod.snd) =
      ((ps.map id).mapM (ofProperty doc registry' (.text name) required)).map (List.map Prod.snd) :=
    map_mapM_congr fun p hp => deps_ofProperty (h p hp)
  rw [List.map_id] at hall
  rw [ofProperties_eq_mapM, ofProperties_eq_mapM]
  exact map_bind_congr hall fun fs fs' hfs => congrArg Except.ok (congrArg mergeDeps hfs)

/-! ### Definitions -/

/-- A definition that belongs to one with a text for its name has the same dependencies with both
registries, or the same fault. -/
theorem deps_ofDefinition (d : Definition) :
    ∀ name, (ofDefinition doc registry (some (.text name)) d).map Synthesis.deps =
      (ofDefinition doc registry' (some (.text name)) d).map Synthesis.deps := by
  induction d using Definition.induct with
  | step d ihOneOf ihItems ihProperties =>
    intro name
    cases d.form with
    | reference hr => rw [ofDefinition_reference hr, ofDefinition_reference hr]
    | literals hr he => rw [ofDefinition_literals hr he, ofDefinition_literals hr he]
    | @alternatives bs hr he ho =>
      rw [ofDefinition_alternatives hr he ho, ofDefinition_alternatives hr he ho]
      by_cases hbs : bs = []
      · rw [if_pos hbs, if_pos hbs]
      · have hall : (bs.mapM (ofDefinition doc registry (some (.text name)))).map
              (List.map Synthesis.deps) =
            ((bs.map id).mapM (ofDefinition doc registry' (some (.text name)))).map
              (List.map Synthesis.deps) :=
          map_mapM_congr fun b hb => ihOneOf bs ho b hb name
        rw [List.map_id] at hall
        rw [if_neg hbs, if_neg hbs, ofBranches_eq_mapM, ofBranches_eq_mapM]
        exact map_bind_congr hall fun ss ss' hss => congrArg Except.ok (congrArg mergeDeps hss)
    | array hr he ho ht =>
      rw [ofDefinition_array hr he ho ht, ofDefinition_array hr he ho ht]
      cases hi : d.items with
      | none => rfl
      | some item =>
        exact map_bind_congr (ihItems item hi name) fun s s' hs => congrArg Except.ok hs
    | object hr he ho ht hobj =>
      rw [ofDefinition_object hr he ho ht hobj, ofDefinition_object hr he ho ht hobj, enclosing_text]
      exact deps_ofProperties fun p hp => ihProperties p hp name
    | scalar hr he ho ht hobj =>
      rw [ofDefinition_scalar hr he ho ht hobj, ofDefinition_scalar hr he ho ht hobj]

/-- So has one at the top level. -/
theorem deps_ofSchema (doc : Document) (registry registry' : Option Registry) (name : String)
    (d : Definition) :
    (ofSchema doc registry (.text name) d).map Synthesis.deps =
      (ofSchema doc registry' (.text name) d).map Synthesis.deps := by
  unfold ofSchema
  by_cases ho : d.isObject = true
  · rw [if_pos ho, if_pos ho]
    exact deps_ofProperties fun p _ => deps_ofDefinition p.2 name
  · rw [if_neg ho, if_neg ho]
    exact deps_ofDefinition d name

end SchemaDecl.Synthesis
