import Mathlib.Data.List.Forall2
import SchemaDecl.Proofs.Definition.Induction
import SchemaDecl.Proofs.Returns
import SchemaDecl.Synthesis

/-! The rules by which definitions get types. Each rule says which part of a definition decides and
what the type is made of; whatever the rules preserve holds of every definition that gets a type. -/

namespace SchemaDecl

/-- Which part of a definition decides about its type. -/
inductive Definition.Form (d : Definition) : Prop
  | reference {ref : String} (hr : d.ref = some ref)
  | literals {values : List String} (hr : d.ref = none) (he : d.enum = some values)
  | alternatives {bs : List Definition} (hr : d.ref = none) (he : d.enum = none)
      (ho : d.oneOf = some bs)
  | array (hr : d.ref = none) (he : d.enum = none) (ho : d.oneOf = none)
      (ht : d.type = some "array")
  | object (hr : d.ref = none) (he : d.enum = none) (ho : d.oneOf = none)
      (ht : d.type ≠ some "array") (hobj : d.isObject)
  | scalar (hr : d.ref = none) (he : d.enum = none) (ho : d.oneOf = none)
      (ht : d.type ≠ some "array") (hobj : ¬d.isObject)

theorem Definition.form (d : Definition) : d.Form := by
  cases hr : d.ref with
  | some ref => exact .reference hr
  | none =>
    cases he : d.enum with
    | some values => exact .literals hr he
    | none =>
      cases ho : d.oneOf with
      | some bs => exact .alternatives hr he ho
      | none =>
        by_cases ht : d.type = some "array"
        · exact .array hr he ho ht
        · by_cases hobj : d.isObject = true
          · exact .object hr he ho ht hobj
          · exact .scalar hr he ho ht hobj

namespace Synthesis

open List (Forall₂)

variable {doc : Document} {registry : Option Registry}

/-- The name of the type that stands for a reference. -/
def symbolFor (doc : Document) (ref : String) : String :=
  (doc.sentinelKind (.text (Document.refTarget ref))).getD (Document.refTarget ref)

/-- An owner with a text for a name is the one around everything in it. -/
theorem enclosing_text (s : String) : enclosing (some (.text s)) = .text s := by
  unfold enclosing
  dsimp only
  split
  next => rfl
  next h =>
    obtain rfl : s = "" := by simpa [Name.isTruthy, Name.toValue, Value.isTruthy] using h
    rfl

/-- How a property becomes a field with its dependencies, when `P` holds of the types of definitions. -/
inductive FieldRule (doc : Document) (registry : Option Registry) (name : Name)
    (required : List String) (P : Option Name → Definition → Synthesis → Prop) :
    String × Definition → Field × List String → Prop
  | member {d : Definition} {m : String} {fieldDoc : FieldDoc}
      (hm : memberFor registry name d = .ok m) (hd : docFor tagProperty d = .ok fieldDoc) :
      FieldRule doc registry name required P (tagProperty, d)
        (.mk tagProperty (.reference Registry.symbol (some m)) true fieldDoc, [Registry.symbol])
  | plain {p : String} {d : Definition} {s : Synthesis} {fieldDoc : FieldDoc} (hp : p ≠ tagProperty)
      (hs : ofDefinition doc registry (some name) d = .ok s) (h : P (some name) d s)
      (hd : docFor p d = .ok fieldDoc) :
      FieldRule doc registry name required P (p, d)
        (.mk p s.type (required.contains p) fieldDoc, s.deps)

/-- What all rules preserve. -/
structure Closed (doc : Document) (registry : Option Registry)
    (P : Option Name → Definition → Synthesis → Prop) : Prop where
  reference : ∀ {owner : Option Name} {d : Definition} {ref : String} {x : Definition},
    d.ref = some ref → doc.getText? (Document.refTarget ref) = some x →
    P owner d ⟨.reference (symbolFor doc ref) none, [symbolFor doc ref]⟩
  literals : ∀ {owner : Option Name} {d : Definition} {values : List String},
    d.ref = none → d.enum = some values → values ≠ [] → P owner d ⟨.literals values, []⟩
  union : ∀ {owner : Option Name} {d : Definition} {bs : List Definition} {ss : List Synthesis},
    d.ref = none → d.enum = none → d.oneOf = some bs → bs ≠ [] →
    Forall₂ (fun b s => ofDefinition doc registry owner b = .ok s ∧ P owner b s) bs ss →
    P owner d ⟨.union (ss.map Synthesis.type), mergeDeps (ss.map Synthesis.deps)⟩
  sequence : ∀ {owner : Option Name} {d item : Definition} {s : Synthesis},
    d.ref = none → d.enum = none → d.oneOf = none → d.type = some "array" → d.items = some item →
    ofDefinition doc registry owner item = .ok s → P owner item s →
    P owner d ⟨.sequence s.type, s.deps⟩
  record : ∀ {owner : Option Name} {d : Definition} {fs : List (Field × List String)},
    d.ref = none → d.enum = none → d.oneOf = none → d.type ≠ some "array" → d.isObject →
    Forall₂ (FieldRule doc registry (enclosing owner) d.required P) (d.properties.getD []) fs →
    P owner d (ofFields fs)
  primitive : ∀ {owner : Option Name} {d : Definition} {p : Primitive},
    d.ref = none → d.enum = none → d.oneOf = none → d.type ≠ some "array" → ¬d.isObject →
    d.type.bind scalarOf? = some p → P owner d ⟨.primitive p, []⟩

theorem ofRef_eq_ok {ref : String} {owner : Option Name} {s : Synthesis}
    (h : ofRef doc ref owner = .ok s) :
    (∃ x, doc.getText? (Document.refTarget ref) = some x) ∧
      s = ⟨.reference (symbolFor doc ref) none, [symbolFor doc ref]⟩ := by
  unfold ofRef Document.resolve at h
  cases hx : doc.getText? (Document.refTarget ref) with
  | none => simp [hx] at h
  | some x =>
    simp only [hx, Except.ok.injEq] at h
    exact ⟨⟨x, rfl⟩, h.symm⟩

/-! ### Definitions by the part that decides -/

section Form

variable {owner : Option Name} {d : Definition}

theorem ofDefinition_reference {ref : String} (hr : d.ref = some ref) :
    ofDefinition doc registry owner d = ofRef doc ref owner := by
  cases d
  cases hr
  rfl

theorem ofDefinition_literals {values : List String} (hr : d.ref = none)
    (he : d.enum = some values) : ofDefinition doc registry owner d = ofEnum values owner := by
  cases d
  cases hr
  cases he
  rfl

/-- Alternatives, of which there must be one. -/
theorem ofDefinition_alternatives {bs : List Definition} (hr : d.ref = none) (he : d.enum = none)
    (ho : d.oneOf = some bs) :
    ofDefinition doc registry owner d =
      if bs = [] then .error (.schema (.emptyOneOf owner))
      else
        ofBranches doc registry owner bs >>= fun branches =>
          .ok ⟨.union (branches.map Synthesis.type), mergeDeps (branches.map Synthesis.deps)⟩ := by
  cases d
  cases hr
  cases he
  cases ho
  cases bs <;> rfl

theorem ofDefinition_array (hr : d.ref = none) (he : d.enum = none) (ho : d.oneOf = none)
    (ht : d.type = some "array") :
    ofDefinition doc registry owner d =
      match d.items with
      | none => .error (.schema (.arrayWithoutItems owner))
      | some item =>
        ofDefinition doc registry owner item >>= fun s => .ok ⟨.sequence s.type, s.deps⟩ := by
  obtain ⟨ref, oneOf, type, enum, items, properties, required, notes⟩ := d
  cases hr
  cases he
  cases ho
  cases ht
  cases items <;> rfl

/-- What is no array is an object or a scalar. -/
theorem ofDefinition_eq_ite (hr : d.ref = none) (he : d.enum = none) (ho : d.oneOf = none)
    (ht : d.type ≠ some "array") :
    ofDefinition doc registry owner d =
      if d.isObject then
        ofProperties doc registry (enclosing owner) d.required (d.properties.getD []) >>= fun fs =>
          .ok (ofFields fs)
      else ofScalar d.type owner := by
  obtain ⟨ref, oneOf, type, enum, items, properties, required, notes⟩ := d
  cases hr
  cases he
  cases ho
  have hbeq : (type == some "array") = false := by simpa using ht
  rw [ofDefinition.eq_def]
  simp only [hbeq]
  cases properties with
  | none =>
    by_cases htype : (type == some "object") = true
    · simp only [htype, Definition.isObject]
      rfl
    · simp only [htype, Definition.isObject]
      rfl
  | some ps => rfl

theorem ofDefinition_object (hr : d.ref = none) (he : d.enum = none) (ho : d.oneOf = none)
    (ht : d.type ≠ some "array") (hobj : d.isObject) :
    ofDefinition doc registry owner d =
      ofProperties doc registry (enclosing owner) d.required (d.properties.getD []) >>= fun fs =>
        .ok (ofFields fs) := by
  rw [ofDefinition_eq_ite hr he ho ht, if_pos hobj]

theorem ofDefinition_scalar (hr : d.ref = none) (he : d.enum = none) (ho : d.oneOf = none)
    (ht : d.type ≠ some "array") (hobj : ¬d.isObject) :
    ofDefinition doc registry owner d = ofScalar d.type owner := by
  rw [ofDefinition_eq_ite hr he ho ht, if_neg hobj]

end Form

/-! ### Lists of definitions -/

theorem ofBranches_eq_mapM (owner : Option Name) (bs : List Definition) :
    ofBranches doc registry owner bs = bs.mapM (ofDefinition doc registry owner) := by
  induction bs with
  | nil => rfl
  | cons b bs ih =>
    rw [List.mapM_cons, ← ih]
    rfl

/-- The type of a property. -/
def typeOfProperty (doc : Document) (registry : Option Registry) (name : Name) (key : String)
    (d : Definition) : Except SynthesisFault Synthesis :=
  if key == tagProperty then
    (memberFor registry name d).map fun m =>
      ⟨.reference Registry.symbol (some m), [Registry.symbol]⟩
  else ofDefinition doc registry (some name) d

/-- The field of a property with its dependencies. -/
def ofProperty (doc : Document) (registry : Option Registry) (name : Name) (required : List String)
    (p : String × Definition) : Except SynthesisFault (Field × List String) :=
  typeOfProperty doc registry name p.1 p.2 >>= fun s => (docFor p.1 p.2).map fun fieldDoc =>
    (.mk p.1 s.type (p.1 == tagProperty || required.contains p.1) fieldDoc, s.deps)

theorem ofProperties_eq_mapM (name : Name) (required : List String)
    (ps : List (String × Definition)) :
    ofProperties doc registry name required ps =
      ps.mapM (ofProperty doc registry name required) := by
  induction ps with
  | nil => rfl
  | cons p ps ih =>
    obtain ⟨key, d⟩ := p
    rw [ofProperties, ih, List.mapM_cons, ofProperty, typeOfProperty]
    by_cases hp : (key == tagProperty) = true
    · rw [if_pos hp, if_pos hp]
      cases memberFor registry name d with
      | error f => rfl
      | ok m => cases docFor key d <;> rfl
    · rw [if_neg hp, if_neg hp]
      cases ofDefinition doc registry (some name) d with
      | error f => rfl
      | ok s => cases docFor key d <;> rfl

variable {P : Option Name → Definition → Synthesis → Prop}

theorem forall₂_of_ofBranches {owner : Option Name} {bs : List Definition}
    (hP : ∀ b ∈ bs, ∀ s, ofDefinition doc registry owner b = .ok s → P owner b s)
    {ss : List Synthesis} (h : ofBranches doc registry owner bs = .ok ss) :
    Forall₂ (fun b s => ofDefinition doc registry owner b = .ok s ∧ P owner b s) bs ss := by
  induction bs generalizing ss with
  | nil =>
    rw [ofBranches] at h
    cases h
    exact .nil
  | cons b bs ih =>
    rw [ofBranches] at h
    obtain ⟨s, hs, h⟩ := bind_eq_ok h
    obtain ⟨ss', hss, h⟩ := bind_eq_ok h
    cases h
    obtain ⟨hb, hbs⟩ := List.forall_mem_cons.1 hP
    exact .cons ⟨hs, hb s hs⟩ (ih hbs hss)

theorem forall₂_of_ofProperties {name : Name} {required : List String}
    {ps : List (String × Definition)}
    (hP : ∀ p ∈ ps, ∀ s, ofDefinition doc registry (some name) p.2 = .ok s → P (some name) p.2 s)
    {fs : List (Field × List String)} (h : ofProperties doc registry name required ps = .ok fs) :
    Forall₂ (FieldRule doc registry name required P) ps fs := by
  induction ps generalizing fs with
  | nil =>
    rw [ofProperties] at h
    cases h
    exact .nil
  | cons p ps ih =>
    obtain ⟨key, d⟩ := p
    obtain ⟨hd, hps⟩ := List.forall_mem_cons.1 hP
    rw [ofProperties] at h
    by_cases hp : key = tagProperty
    · subst hp
      rw [if_pos (beq_self_eq_true _)] at h
      obtain ⟨m, hm, h⟩ := bind_eq_ok h
      obtain ⟨s, hs, h⟩ := bind_eq_ok h
      cases hs
      obtain ⟨fieldDoc, hdoc, h⟩ := bind_eq_ok h
      obtain ⟨fs', hfs, h⟩ := bind_eq_ok h
      cases h
      exact .cons (.member hm hdoc) (ih hps hfs)
    · have hbeq : (key == tagProperty) = false := by simpa using hp
      rw [if_neg (by simpa using hp)] at h
      obtain ⟨s, hs, h⟩ := bind_eq_ok h
      obtain ⟨fieldDoc, hdoc, h⟩ := bind_eq_ok h
      obtain ⟨fs', hfs, h⟩ := bind_eq_ok h
      cases h
      rw [hbeq, Bool.false_or]
      exact .cons (.plain hp hs (hd s hs) hdoc) (ih hps hfs)

/-- What the rules preserve holds of every definition that gets a type. -/
theorem Closed.ofDefinition (hP : Closed doc registry P) (d : Definition) :
    ∀ owner s, ofDefinition doc registry owner d = .ok s → P owner d s := by
  induction d using Definition.induct with
  | step d hOneOf hItems hProperties =>
    intro owner s h
    cases d.form with
    | reference hr =>
      rw [ofDefinition_reference hr] at h
      obtain ⟨⟨x, hx⟩, rfl⟩ := ofRef_eq_ok h
      exact hP.reference hr hx
    | literals hr he =>
      rw [ofDefinition_literals hr he, ofEnum] at h
      split at h
      next => cases h
      next hv =>
        cases h
        exact hP.literals hr he (by simpa using hv)
    | alternatives hr he ho =>
      rw [ofDefinition_alternatives hr he ho] at h
      split at h
      next => cases h
      next hbs =>
        obtain ⟨ss, hss, h⟩ := bind_eq_ok h
        cases h
        exact hP.union hr he ho hbs
          (forall₂_of_ofBranches (fun b hb => hOneOf _ ho b hb owner) hss)
    | array hr he ho ht =>
      rw [ofDefinition_array hr he ho ht] at h
      split at h
      next => cases h
      next item hi =>
        obtain ⟨t, hs, h⟩ := bind_eq_ok h
        cases h
        exact hP.sequence hr he ho ht hi hs (hItems item hi owner t hs)
    | object hr he ho ht hobj =>
      rw [ofDefinition_object hr he ho ht hobj] at h
      obtain ⟨fs, hfs, h⟩ := bind_eq_ok h
      cases h
      exact hP.record hr he ho ht hobj
        (forall₂_of_ofProperties (fun p hp => hProperties p hp _) hfs)
    | scalar hr he ho ht hobj =>
      rw [ofDefinition_scalar hr he ho ht hobj, ofScalar] at h
      split at h
      next p hp =>
        cases h
        exact hP.primitive hr he ho ht hobj hp
      next => cases h

/-- An object at the top level becomes the record of its properties, whose types have what the rules
preserve. -/
theorem Closed.exists_fields_of_ofObject (hP : Closed doc registry P) {name : Name} {d : Definition}
    {s : Synthesis} (h : ofObject doc registry name d = .ok s) :
    ∃ fs, s = ofFields fs ∧
      Forall₂ (FieldRule doc registry name d.required P) (d.properties.getD []) fs := by
  obtain ⟨fs, hfs, h⟩ := bind_eq_ok h
  cases h
  exact ⟨fs, rfl, forall₂_of_ofProperties (fun p _ => hP.ofDefinition p.2 _) hfs⟩

/-- At the top level an object has the record of its fields for its type, and any other definition the
type that it has inside others. -/
theorem Closed.of_ofSchema (hP : Closed doc registry P) {name : Name} {d : Definition} {s : Synthesis}
    (h : ofSchema doc registry name d = .ok s) :
    (d.isObject ∧ ∃ fs, s = ofFields fs ∧
        Forall₂ (FieldRule doc registry name d.required P) (d.properties.getD []) fs) ∨
      ¬d.isObject ∧ P (some name) d s := by
  unfold ofSchema at h
  split at h
  next ho => exact Or.inl ⟨ho, hP.exists_fields_of_ofObject h⟩
  next ho => exact Or.inr ⟨ho, hP.ofDefinition d _ s h⟩

/-- Only objects have records for types. -/
theorem closed_isRecord :
    Closed doc registry fun _ d s => ¬d.isObject → s.type.isRecord = false where
  reference := fun _ _ _ => rfl
  literals := fun _ _ _ _ => rfl
  union := fun _ _ _ _ _ _ => rfl
  sequence := fun _ _ _ _ _ _ _ _ => rfl
  record := fun _ _ _ _ hobj _ hn => absurd hobj hn
  primitive := fun _ _ _ _ _ _ _ => rfl

/-- The type of a definition at the top level is a record exactly for an object. -/
theorem isRecord_of_ofSchema {name : Name} {x : Definition} {s : Synthesis}
    (h : ofSchema doc registry name x = .ok s) :
    s.type.isRecord = x.isObject := by
  rcases closed_isRecord.of_ofSchema h with ⟨ho, fs, rfl, -⟩ | ⟨ho, hs⟩
  · exact ho.symm
  · rw [hs ho, Bool.eq_false_iff.2 ho]

end Synthesis

end SchemaDecl
