import SchemaDecl.Definition

/-! Definitions without what they say for readers alone. Of all examples only those of the properties
that hold discriminants are kept, since these tell objects apart. -/

namespace SchemaDecl.Definition

/-- Notes with no more than an example. -/
def sampleOnly (sample : Value) : Notes :=
  ⟨none, sample, none, .null⟩

mutual

/-- The definition without its notes and those of the definitions in it. -/
def withoutNotes : Definition → Definition
  | .mk ref oneOf type enum items properties required _ =>
    .mk ref
      (match oneOf with
      | some bs => some (branchesWithoutNotes bs)
      | none => none)
      type enum
      (match items with
      | some item => some item.withoutNotes
      | none => none)
      (match properties with
      | some ps => some (propertiesWithoutNotes ps)
      | none => none)
      required (sampleOnly .null)

def branchesWithoutNotes : List Definition → List Definition
  | [] => []
  | d :: rest => d.withoutNotes :: branchesWithoutNotes rest

def propertiesWithoutNotes : List (String × Definition) → List (String × Definition)
  | [] => []
  | (key, d) :: rest =>
    (key,
      if key == tagProperty then { d.withoutNotes with notes := sampleOnly d.notes.sample }
      else d.withoutNotes) :: propertiesWithoutNotes rest

end

/-! ### Parts -/

theorem branchesWithoutNotes_eq_map (bs : List Definition) :
    branchesWithoutNotes bs = bs.map withoutNotes := by
  induction bs with
  | nil => rfl
  | cons b bs ih => rw [branchesWithoutNotes, ih, List.map_cons]

/-- A property without its notes but the example by which objects are told apart. -/
def propertyWithoutNotes (p : String × Definition) : String × Definition :=
  (p.1,
    if p.1 == tagProperty then { p.2.withoutNotes with notes := sampleOnly p.2.notes.sample }
    else p.2.withoutNotes)

theorem propertyWithoutNotes_of_ne {p : String × Definition} (h : p.1 ≠ tagProperty) :
    propertyWithoutNotes p = (p.1, p.2.withoutNotes) := by
  rw [propertyWithoutNotes, if_neg (by simpa using h)]

theorem propertyWithoutNotes_of_eq {p : String × Definition} (h : p.1 = tagProperty) :
    propertyWithoutNotes p =
      (p.1, { p.2.withoutNotes with notes := sampleOnly p.2.notes.sample }) := by
  rw [propertyWithoutNotes, if_pos (by simpa using h)]

theorem propertiesWithoutNotes_eq_map (ps : List (String × Definition)) :
    propertiesWithoutNotes ps = ps.map propertyWithoutNotes := by
  induction ps with
  | nil => rfl
  | cons p ps ih => rw [propertiesWithoutNotes, ih, List.map_cons, propertyWithoutNotes]

/-- The parts that are definitions lose their notes, and the notes themselves go. -/
theorem withoutNotes_eq (d : Definition) :
    d.withoutNotes =
      { d with
        oneOf := d.oneOf.map fun bs => bs.map withoutNotes
        items := d.items.map withoutNotes
        properties := d.properties.map fun ps => ps.map propertyWithoutNotes
        notes := sampleOnly .null } := by
  obtain ⟨ref, oneOf, type, enum, items, properties, required, notes⟩ := d
  rw [withoutNotes.eq_def]
  cases oneOf <;> cases items <;> cases properties <;>
    simp only [branchesWithoutNotes_eq_map, propertiesWithoutNotes_eq_map, Option.map]

section Parts

variable (d : Definition)

@[simp] theorem ref_withoutNotes : d.withoutNotes.ref = d.ref := by
  rw [withoutNotes_eq]

@[simp] theorem enum_withoutNotes : d.withoutNotes.enum = d.enum := by
  rw [withoutNotes_eq]

@[simp] theorem type_withoutNotes : d.withoutNotes.type = d.type := by
  rw [withoutNotes_eq]

@[simp] theorem required_withoutNotes : d.withoutNotes.required = d.required := by
  rw [withoutNotes_eq]

@[simp] theorem notes_withoutNotes : d.withoutNotes.notes = sampleOnly .null := by
  rw [withoutNotes_eq]

@[simp] theorem oneOf_withoutNotes :
    d.withoutNotes.oneOf = d.oneOf.map fun bs => bs.map withoutNotes := by
  rw [withoutNotes_eq]

@[simp] theorem items_withoutNotes : d.withoutNotes.items = d.items.map withoutNotes := by
  rw [withoutNotes_eq]

@[simp] theorem getD_properties_withoutNotes :
    d.withoutNotes.properties.getD [] = (d.properties.getD []).map propertyWithoutNotes := by
  rw [withoutNotes_eq]
  cases d.properties <;> rfl

@[simp] theorem isObject_withoutNotes : d.withoutNotes.isObject = d.isObject := by
  rw [withoutNotes_eq, isObject, isObject, Option.isSome_map]

end Parts

/-- The discriminant is among what is kept. -/
theorem discriminant_withoutNotes (d : Definition) : d.withoutNotes.discriminant = d.discriminant := by
  have hlookup : ∀ ps : List (String × Definition),
      ((ps.map propertyWithoutNotes).lookup tagProperty).map (fun x => x.notes.sample) =
        (ps.lookup tagProperty).map fun x => x.notes.sample := by
    intro ps
    induction ps with
    | nil => rfl
    | cons p ps ih =>
      obtain ⟨key, x⟩ := p
      rw [List.map_cons, propertyWithoutNotes, List.lookup_cons, List.lookup_cons]
      by_cases hk : key = tagProperty
      · subst hk
        simp [sampleOnly]
      · have hne : (tagProperty == key) = false := by simpa using Ne.symm hk
        rw [hne]
        exact ih
  have hsample : (d.withoutNotes.property? tagProperty).map (fun x => x.notes.sample) =
      (d.property? tagProperty).map fun x => x.notes.sample := by
    rw [property?, getD_properties_withoutNotes, hlookup, property?]
  have hbind : ∀ x : Definition,
      x.discriminant = ((x.property? tagProperty).map fun y => y.notes.sample).bind Value.asText? := by
    intro x
    unfold discriminant
    cases x.property? tagProperty <;> rfl
  rw [hbind, hbind, hsample]

end SchemaDecl.Definition
