import SchemaDecl.Proofs.Definition.Induction
import SchemaDecl.Proofs.Json.Writing
import SchemaDecl.Proofs.Synthesis.Rules

/-! Why definitions have no type. A definition is at fault itself, or its owner has no text for a name,
or the example of a property in it has no written form. -/

namespace SchemaDecl.Synthesis

variable {doc : Document} {registry : Option Registry}

/-- Why a definition that belongs to `owner` has no type. The property that holds the discriminant is
documented without its example. -/
inductive Reason (owner : Option Name) (d : Definition) : SynthesisFault → Prop
  | schema (e : SchemaError) : Reason owner d (.schema e)
  | unnamable {v : Value} (h : owner = some (.other v)) : Reason owner d .unnamable
  | unwritable {c p : Definition} {key : String} {e : Json.WriteError} (hc : c.Within d)
      (hp : (key, p) ∈ c.properties.getD []) (hk : key ≠ tagProperty)
      (he : Json.write .example p.notes.sample = .error e) : Reason owner d (.unwritable e)

/-- A reason in a part is one in the whole. -/
theorem Reason.within {owner : Option Name} {b d : Definition} {f : SynthesisFault}
    (h : Reason owner b f) (hb : ∀ c : Definition, c.Within b → c.Within d) : Reason owner d f := by
  cases h with
  | schema e => exact .schema e
  | unnamable h => exact .unnamable h
  | unwritable hc hp hk he => exact .unwritable (hb _ hc) hp hk he

theorem enclosing_eq_other {owner : Option Name} {v : Value} (h : enclosing owner = .other v) :
    owner = some (.other v) := by
  unfold enclosing at h
  split at h
  · split at h
    · rw [h]
    · cases h
  · cases h

theorem Reason.of_enclosing {owner : Option Name} {d : Definition} {f : SynthesisFault}
    (h : Reason (some (enclosing owner)) d f) : Reason owner d f := by
  cases h with
  | schema e => exact .schema e
  | unnamable h => exact .unnamable (enclosing_eq_other (Option.some.inj h))
  | unwritable hc hp hk he => exact .unwritable hc hp hk he

/-! ### Properties -/

theorem eq_other_of_memberFor {registry : Option Registry} {name : Name} {d : Definition}
    {f : SynthesisFault} (h : memberFor registry name d = .error f) :
    f = .unnamable ∧ ∃ v, name = .other v := by
  unfold memberFor at h
  split at h
  · cases h
  · cases name with
    | text s => cases h
    | other v =>
      cases h
      exact ⟨rfl, v, rfl⟩

/-- What documents a property can be shown unless its own example cannot. -/
theorem unwritable_of_docFor {key : String} {d : Definition} {f : SynthesisFault}
    (h : docFor key d = .error f) :
    key ≠ tagProperty ∧ ∃ e, f = .unwritable e ∧ Json.write .example d.notes.sample = .error e := by
  unfold docFor FieldDoc.ofDefinition at h
  dsimp only at h
  split at h
  · cases h
  · next hk =>
    refine ⟨by simpa using hk, ?_⟩
    split at h
    · cases hw : Json.write .example d.notes.sample with
      | error e =>
        rw [hw] at h
        cases h
        exact ⟨e, rfl, rfl⟩
      | ok t =>
        rw [hw] at h
        cases h
    · split at h
      next s _ =>
        -- dates and times stand for examples as texts
        obtain ⟨t, ht⟩ := Json.exists_write .example rfl (.text s)
        rw [ht] at h
        cases h
      next => cases h

theorem exists_docFor (key : String) {d : Definition} (hd : d.notes.sample.IsJson) :
    ∃ fieldDoc, docFor key d = .ok fieldDoc := by
  cases hdoc : docFor key d with
  | ok fieldDoc => exact ⟨fieldDoc, rfl⟩
  | error f =>
    obtain ⟨-, e, -, he⟩ := unwritable_of_docFor hdoc
    obtain ⟨t, ht⟩ := Json.exists_write .example rfl hd
    rw [ht] at he
    cases he

theorem reason_of_ofProperty {name : Name} {required : List String} {d : Definition}
    {p : String × Definition} (hp : p ∈ d.properties.getD [])
    (h : ∀ f, ofDefinition doc registry (some name) p.2 = .error f → Reason (some name) p.2 f)
    {f : SynthesisFault} (hf : ofProperty doc registry name required p = .error f) :
    Reason (some name) d f := by
  rcases bind_eq_error hf with hf | ⟨s, -, hf⟩
  · unfold typeOfProperty at hf
    split at hf
    · obtain ⟨rfl, v, rfl⟩ := eq_other_of_memberFor (map_eq_error hf)
      exact .unnamable rfl
    · exact (h f hf).within fun c hc => .property hp hc
  · obtain ⟨hk, e, rfl, he⟩ := unwritable_of_docFor (map_eq_error hf)
    exact .unwritable (.self d) hp hk he

theorem reason_of_ofProperties {name : Name} {required : List String} {d : Definition}
    (h : ∀ p ∈ d.properties.getD [], ∀ f, ofDefinition doc registry (some name) p.2 = .error f →
      Reason (some name) p.2 f) {f : SynthesisFault}
    (hf : ofProperties doc registry name required (d.properties.getD []) = .error f) :
    Reason (some name) d f := by
  rw [ofProperties_eq_mapM] at hf
  obtain ⟨p, hp, hf⟩ := exists_of_mapM_eq_error hf
  exact reason_of_ofProperty hp (h p hp) hf

/-! ### Definitions -/

/-- A definition without a type has a reason for it. -/
theorem reason_of_ofDefinition (d : Definition) :
    ∀ owner f, ofDefinition doc registry owner d = .error f → Reason owner d f := by
  induction d using Definition.induct with
  | step d ihOneOf ihItems ihProperties =>
    intro owner f hf
    cases d.form with
    | reference hr =>
      rw [ofDefinition_reference hr, ofRef] at hf
      split at hf <;> cases hf
      exact .schema _
    | literals hr he =>
      rw [ofDefinition_literals hr he, ofEnum] at hf
      split at hf <;> cases hf
      exact .schema _
    | alternatives hr he ho =>
      rw [ofDefinition_alternatives hr he ho] at hf
      split at hf
      next =>
        cases hf
        exact .schema _
      next =>
        rcases bind_eq_error hf with hf | ⟨ss, -, hf⟩
        · rw [ofBranches_eq_mapM] at hf
          obtain ⟨b, hb, hf⟩ := exists_of_mapM_eq_error hf
          exact (ihOneOf _ ho b hb owner f hf).within fun c hc => .branch ho hb hc
        · cases hf
    | array hr he ho ht =>
      rw [ofDefinition_array hr he ho ht] at hf
      split at hf
      next =>
        cases hf
        exact .schema _
      next item hi =>
        rcases bind_eq_error hf with hf | ⟨t, -, hf⟩
        · exact (ihItems item hi owner f hf).within fun c hc => .items hi hc
        · cases hf
    | object hr he ho ht hobj =>
      rw [ofDefinition_object hr he ho ht hobj] at hf
      rcases bind_eq_error hf with hf | ⟨fs, -, hf⟩
      · -- without an owner the properties belong to a definition without a name, which is a text
        exact (reason_of_ofProperties (fun p hp => ihProperties p hp _) hf).of_enclosing
      · cases hf
    | scalar hr he ho ht hobj =>
      rw [ofDefinition_scalar hr he ho ht hobj, ofScalar] at hf
      split at hf <;> cases hf
      exact .schema _

/-- So has one at the top level. -/
theorem reason_of_ofSchema {name : Name} {d : Definition} {f : SynthesisFault}
    (hf : ofSchema doc registry name d = .error f) : Reason (some name) d f := by
  unfold ofSchema at hf
  split at hf
  · rcases bind_eq_error hf with hf | ⟨fs, -, hf⟩
    · exact reason_of_ofProperties (fun p _ => reason_of_ofDefinition p.2 _) hf
    · cases hf
  · exact reason_of_ofDefinition d _ f hf

end SchemaDecl.Synthesis
