import Mathlib.Data.Option.Basic
import SchemaDecl.Definition.Decode

/-! Definitions whose references are written in another way. Nothing else about them changes, and in
particular they are told apart by what they were told apart by. -/

namespace SchemaDecl.Definition

mutual

/-- The definition with every reference in it, at any depth, written as `f` says. -/
def mapRefs (f : String → String) : Definition → Definition
  | .mk ref oneOf type enum items properties required notes =>
    .mk (ref.map f)
      (match oneOf with
      | some bs => some (mapBranchRefs f bs)
      | none => none)
      type enum
      (match items with
      | some item => some (item.mapRefs f)
      | none => none)
      (match properties with
      | some ps => some (mapPropertyRefs f ps)
      | none => none)
      required notes

def mapBranchRefs (f : String → String) : List Definition → List Definition
  | [] => []
  | d :: rest => d.mapRefs f :: mapBranchRefs f rest

def mapPropertyRefs (f : String → String) :
    List (String × Definition) → List (String × Definition)
  | [] => []
  | (key, d) :: rest => (key, d.mapRefs f) :: mapPropertyRefs f rest

end

variable {f : String → String}

/-! ### Parts -/

theorem mapBranchRefs_eq_map (bs : List Definition) : mapBranchRefs f bs = bs.map (mapRefs f) := by
  induction bs with
  | nil => rfl
  | cons b bs ih => rw [mapBranchRefs, ih, List.map_cons]

/-- A property with its references written in another way. -/
def propertyMapRefs (f : String → String) (p : String × Definition) : String × Definition :=
  (p.1, p.2.mapRefs f)

theorem mapPropertyRefs_eq_map (ps : List (String × Definition)) :
    mapPropertyRefs f ps = ps.map (propertyMapRefs f) := by
  induction ps with
  | nil => rfl
  | cons p ps ih => rw [mapPropertyRefs, ih, List.map_cons, propertyMapRefs]

/-- The reference and those in the parts that are definitions are written anew. -/
theorem mapRefs_eq (d : Definition) :
    d.mapRefs f =
      { d with
        ref := d.ref.map f
        oneOf := d.oneOf.map fun bs => bs.map (mapRefs f)
        items := d.items.map (mapRefs f)
        properties := d.properties.map fun ps => ps.map (propertyMapRefs f) } := by
  obtain ⟨ref, oneOf, type, enum, items, properties, required, notes⟩ := d
  rw [mapRefs.eq_def]
  cases oneOf <;> cases items <;> cases properties <;>
    simp only [mapBranchRefs_eq_map, mapPropertyRefs_eq_map, Option.map]

section Parts

variable (d : Definition)

@[simp] theorem ref_mapRefs : (d.mapRefs f).ref = d.ref.map f := by
  rw [mapRefs_eq]

@[simp] theorem enum_mapRefs : (d.mapRefs f).enum = d.enum := by
  rw [mapRefs_eq]

@[simp] theorem type_mapRefs : (d.mapRefs f).type = d.type := by
  rw [mapRefs_eq]

@[simp] theorem required_mapRefs : (d.mapRefs f).required = d.required := by
  rw [mapRefs_eq]

@[simp] theorem notes_mapRefs : (d.mapRefs f).notes = d.notes := by
  rw [mapRefs_eq]

@[simp] theorem oneOf_mapRefs :
    (d.mapRefs f).oneOf = d.oneOf.map fun bs => bs.map (mapRefs f) := by
  rw [mapRefs_eq]

@[simp] theorem items_mapRefs : (d.mapRefs f).items = d.items.map (mapRefs f) := by
  rw [mapRefs_eq]

@[simp] theorem getD_properties_mapRefs :
    (d.mapRefs f).properties.getD [] = (d.properties.getD []).map (propertyMapRefs f) := by
  rw [mapRefs_eq]
  cases d.properties <;> rfl

@[simp] theorem isObject_mapRefs : (d.mapRefs f).isObject = d.isObject := by
  rw [mapRefs_eq, isObject, isObject, Option.isSome_map]

end Parts

theorem lookup_map_propertyMapRefs (key : String) (ps : List (String × Definition)) :
    (ps.map (propertyMapRefs f)).lookup key = (ps.lookup key).map (mapRefs f) := by
  induction ps with
  | nil => rfl
  | cons p ps ih =>
    obtain ⟨key', x⟩ := p
    rw [List.map_cons, propertyMapRefs, List.lookup_cons, List.lookup_cons]
    cases key == key' with
    | false => exact ih
    | true => rfl

/-- The discriminant is no reference. -/
theorem discriminant_mapRefs (d : Definition) : (d.mapRefs f).discriminant = d.discriminant := by
  unfold discriminant
  rw [property?, getD_properties_mapRefs, lookup_map_propertyMapRefs, ← property?]
  cases d.property? tagProperty with
  | none => rfl
  | some tag =>
    dsimp only [Option.map_some]
    rw [notes_mapRefs]

/-! ### Properties with one key -/

theorem putProperty_map (p : String × Definition) (ps : List (String × Definition)) :
    putProperty (propertyMapRefs f p) (ps.map (propertyMapRefs f)) =
      (putProperty p ps).map (propertyMapRefs f) := by
  induction ps with
  | nil => rfl
  | cons q ps ih =>
    rw [List.map_cons, putProperty, putProperty, ih]
    change (if (q.1 == p.1) = true then _ else _) = _
    split <;> rfl

/-- Which properties count depends on their keys. -/
theorem distinct_map (ps : List (String × Definition)) :
    distinct (ps.map (propertyMapRefs f)) = (distinct ps).map (propertyMapRefs f) := by
  have hfold : ∀ m : List (String × Definition),
      (ps.map (propertyMapRefs f)).foldl (fun m p => putProperty p m) (m.map (propertyMapRefs f)) =
        (ps.foldl (fun m p => putProperty p m) m).map (propertyMapRefs f) := by
    induction ps with
    | nil => exact fun m => rfl
    | cons p ps ih =>
      intro m
      rw [List.map_cons, List.foldl_cons, List.foldl_cons, putProperty_map, ih]
  exact hfold []

end SchemaDecl.Definition
