import SchemaDecl.Proofs.FirstSeen
import SchemaDecl.Proofs.Synthesis.Rules

/-! What the type of a definition is made of, read off the definition alone: the references that it
writes and the tag properties of its objects, from left to right and at every depth that the rules
reach. They correspond one by one to the named types in the type. -/

namespace SchemaDecl

open List (Forall₂)

/-- A place of a definition where its type has a name. -/
inductive Definition.Leaf where
  | reference (ref : String)
  /-- A tag property, with its example if that is a text. -/
  | member (tag : Option String)
  deriving DecidableEq, Repr

namespace Definition

mutual

/-- The leaves of a definition inside another one, where the first part that it has decides. -/
def leaves : Definition → List Leaf
  | .mk ref oneOf type enum items properties _ _ =>
    match ref with
    | some ref => [.reference ref]
    | none =>
      match enum with
      | some _ => []
      | none =>
        match oneOf with
        | some bs => branchLeaves bs
        | none =>
          if type == some "array" then
            match items with
            | some item => leaves item
            | none => []
          else
            match properties with
            | some ps => propertyLeaves ps
            | none => []

def branchLeaves : List Definition → List Leaf
  | [] => []
  | d :: rest => leaves d ++ branchLeaves rest

def propertyLeaves : List (String × Definition) → List Leaf
  | [] => []
  | (p, d) :: rest =>
    (if p == tagProperty then [.member d.notes.sample.asText?] else leaves d) ++ propertyLeaves rest

end

theorem branchLeaves_eq_flatten (ds : List Definition) :
    branchLeaves ds = (ds.map leaves).flatten := by
  induction ds with
  | nil => rfl
  | cons d ds ih => rw [branchLeaves, ih, List.map_cons, List.flatten_cons]

/-- The leaves of one property. -/
def leavesOfProperty (p : String × Definition) : List Leaf :=
  if p.1 == tagProperty then [.member p.2.notes.sample.asText?] else p.2.leaves

theorem propertyLeaves_eq_flatten (ps : List (String × Definition)) :
    propertyLeaves ps = (ps.map leavesOfProperty).flatten := by
  induction ps with
  | nil => rfl
  | cons p ps ih => rw [propertyLeaves, ih, List.map_cons, List.flatten_cons, leavesOfProperty]

/-- The leaves of an object. -/
def objectLeaves (d : Definition) : List Leaf :=
  propertyLeaves (d.properties.getD [])

/-- The leaves of a definition at the top level, where being an object comes before all. -/
def schemaLeaves (d : Definition) : List Leaf :=
  if d.isObject then d.objectLeaves else d.leaves

theorem leaves_eq (d : Definition) :
    d.leaves =
      match d.ref, d.enum, d.oneOf with
      | some ref, _, _ => [.reference ref]
      | none, some _, _ => []
      | none, none, some bs => branchLeaves bs
      | none, none, none =>
        if d.type == some "array" then (d.items.map leaves).getD [] else d.objectLeaves := by
  obtain ⟨ref, oneOf, type, enum, items, properties, required, notes⟩ := d
  rw [leaves.eq_def]
  cases ref <;> cases enum <;> cases oneOf <;> cases items <;> cases properties <;> rfl

end Definition

namespace TypeExpr

mutual

/-- The named types in a type with the members of enumerations, from left to right. -/
def links : TypeExpr → List (String × Option String)
  | .reference n m => [(n, m)]
  | .union ms => memberLinks ms
  | .sequence t => t.links
  | .record fs => fieldLinks fs
  | .literals _ => []
  | .primitive _ => []

def memberLinks : List TypeExpr → List (String × Option String)
  | [] => []
  | t :: rest => t.links ++ memberLinks rest

def fieldLinks : List Field → List (String × Option String)
  | [] => []
  | .mk _ t _ _ :: rest => t.links ++ fieldLinks rest

end

theorem memberLinks_eq_flatten (ts : List TypeExpr) :
    memberLinks ts = (ts.map links).flatten := by
  induction ts with
  | nil => rfl
  | cons t ts ih => rw [memberLinks, ih, List.map_cons, List.flatten_cons]

theorem fieldLinks_eq_flatten (fs : List Field) :
    fieldLinks fs = (fs.map fun f => f.type.links).flatten := by
  induction fs with
  | nil => rfl
  | cons f fs ih =>
    obtain ⟨name, type, required, doc⟩ := f
    rw [fieldLinks, ih, List.map_cons, List.flatten_cons]
    rfl

/-- The names of the named types in a type. -/
def references (t : TypeExpr) : List String :=
  t.links.map Prod.fst

end TypeExpr

namespace Synthesis

open Definition (Leaf)

variable {doc : Document} {registry : Option Registry}

/-- How a leaf shows in a type: a reference to a definition of the document by the name of that or of
the type that stands for its kind, a tag property by the member of the registry for its example or
else by an identifier made of a name. -/
inductive Shows (doc : Document) (registry : Option Registry) : Leaf → String × Option String → Prop
  | reference {ref : String} {x : Definition} (h : doc.getText? (Document.refTarget ref) = some x) :
      Shows doc registry (.reference ref) (symbolFor doc ref, none)
  | known {r : Registry} {tag m : String} (hr : registry = some r) (h : r.identifierFor tag = some m) :
      Shows doc registry (.member (some tag)) (Registry.symbol, some m)
  | unknown {tag : Option String} {name : Name} {m : String}
      (h : (registry.bind fun r => tag.bind r.identifierFor) = none) (hn : name.identifier? = some m) :
      Shows doc registry (.member tag) (Registry.symbol, some m)

/-- The type shows the leaves, and the dependencies are its references, each once. -/
structure Traces (doc : Document) (registry : Option Registry) (leaves : List Leaf) (s : Synthesis) :
    Prop where
  links : Forall₂ (Shows doc registry) leaves s.type.links
  deps_eq : s.deps = firstSeen s.type.references

theorem exists_of_forall₂ {α β : Type} {R : α → β → Prop} {xs : List α} {ys : List β}
    (h : List.Forall₂ R xs ys) {y : β} (hy : y ∈ ys) : ∃ x ∈ xs, R x y := by
  induction h with
  | nil => cases hy
  | cons hr _ ih =>
    rcases List.mem_cons.1 hy with rfl | hy
    · exact ⟨_, List.mem_cons_self, hr⟩
    · obtain ⟨x, hx, hr⟩ := ih hy
      exact ⟨x, List.mem_cons_of_mem _ hx, hr⟩

theorem ne_nil_of_forall₂ {α β : Type} {R : α → β → Prop} {xs : List α} {ys : List β}
    (h : List.Forall₂ R xs ys) (hne : xs ≠ []) : ys ≠ [] := by
  rintro rfl
  exact hne (List.forall₂_nil_right_iff.1 h)

/-- What holds of the types of the branches holds of the members of a union, and there are some. -/
theorem forall_types_of_forall₂ {P : TypeExpr → Prop} {owner : Option Name} {bs : List Definition}
    {ss : List Synthesis} (hne : bs ≠ [])
    (h : Forall₂ (fun b s => ofDefinition doc registry owner b = .ok s ∧ P s.type) bs ss) :
    ss.map Synthesis.type ≠ [] ∧ ∀ t ∈ ss.map Synthesis.type, P t := by
  refine ⟨fun he => ne_nil_of_forall₂ h hne (List.map_eq_nil_iff.1 he), fun t ht => ?_⟩
  obtain ⟨s, hs, rfl⟩ := List.mem_map.1 ht
  obtain ⟨b, -, hb⟩ := exists_of_forall₂ h hs
  exact hb.2

/-- Every leaf shows somewhere in the type. -/
theorem Traces.exists_shows {leaves : List Leaf} {s : Synthesis} (h : Traces doc registry leaves s)
    {leaf : Leaf} (hl : leaf ∈ leaves) : ∃ link ∈ s.type.links, Shows doc registry leaf link :=
  exists_of_forall₂ (R := flip (Shows doc registry))
    (List.Forall₂.flip (R := flip (Shows doc registry)) h.links) hl

theorem mergeDeps_eq {groups references : List (List String)}
    (h : groups = references.map firstSeen) : mergeDeps groups = firstSeen references.flatten := by
  rw [mergeDeps, h, firstSeen_flatten_map_firstSeen]

theorem map_deps_eq {parts : List (List Leaf)} {ss : List Synthesis}
    (h : Forall₂ (Traces doc registry) parts ss) :
    ss.map Synthesis.deps = (ss.map fun s => s.type.references).map firstSeen := by
  induction h with
  | nil => rfl
  | cons hs _ ih => rw [List.map_cons, List.map_cons, List.map_cons, hs.deps_eq, ih]

/-- A type that is put together from others traces the leaves of all of them when the dependencies are
merged. -/
theorem traces_join {parts : List (List Leaf)} {ss : List Synthesis} {t : TypeExpr}
    (h : Forall₂ (Traces doc registry) parts ss)
    (ht : t.links = (ss.map fun s => s.type.links).flatten) :
    Traces doc registry parts.flatten ⟨t, mergeDeps (ss.map Synthesis.deps)⟩ where
  links := by
    rw [ht]
    exact List.rel_flatten (List.forall₂_map_right_iff.2 (h.imp fun _ _ hs => hs.links))
  deps_eq := by
    have hr : t.references = (ss.map fun s => s.type.references).flatten := by
      rw [TypeExpr.references, ht, List.map_flatten, List.map_map]
      rfl
    rw [hr]
    exact mergeDeps_eq (map_deps_eq h)

/-- The type of a field with the dependencies of the field. -/
def ofField (f : Field × List String) : Synthesis :=
  ⟨f.1.type, f.2⟩

theorem shows_of_memberFor {name : Name} {d : Definition} {m : String}
    (h : memberFor registry name d = .ok m) :
    Shows doc registry (.member d.notes.sample.asText?) (Registry.symbol, some m) := by
  unfold memberFor at h
  split at h
  next identifier hi =>
    cases h
    obtain ⟨r, hr, hm⟩ := Option.bind_eq_some_iff.1 hi
    obtain ⟨tag, ht, hm⟩ := Option.bind_eq_some_iff.1 hm
    rw [ht]
    exact .known hr hm
  next hi =>
    split at h
    next identifier hn =>
      cases h
      exact .unknown hi hn
    next => cases h

theorem traces_union {owner : Option Name} {bs : List Definition} {ss : List Synthesis}
    (h : Forall₂ (fun b s => ofDefinition doc registry owner b = .ok s ∧
      Traces doc registry b.leaves s) bs ss) :
    Traces doc registry (Definition.branchLeaves bs)
      ⟨.union (ss.map Synthesis.type), mergeDeps (ss.map Synthesis.deps)⟩ := by
  rw [Definition.branchLeaves_eq_flatten]
  refine traces_join ?_ ?_
  · exact List.forall₂_map_left_iff.2 (h.imp fun _ _ hs => hs.2)
  · rw [TypeExpr.links, TypeExpr.memberLinks_eq_flatten, List.map_map]
    rfl

theorem traces_field {name : Name} {required : List String} {p : String × Definition}
    {f : Field × List String}
    (h : FieldRule doc registry name required (fun _ d s => Traces doc registry d.leaves s) p f) :
    Traces doc registry (Definition.leavesOfProperty p) (ofField f) := by
  cases h with
  | member hm hd => exact ⟨.cons (shows_of_memberFor hm) .nil, rfl⟩
  | plain hp hs ht hd =>
    rw [Definition.leavesOfProperty, if_neg (by simpa using hp)]
    exact ht

theorem traces_record {name : Name} {required : List String} {ps : List (String × Definition)}
    {fs : List (Field × List String)}
    (h : Forall₂ (FieldRule doc registry name required fun _ d s => Traces doc registry d.leaves s)
      ps fs) :
    Traces doc registry (Definition.propertyLeaves ps) (ofFields fs) := by
  rw [Definition.propertyLeaves_eq_flatten, ofFields,
    show fs.map Prod.snd = (fs.map ofField).map Synthesis.deps by rw [List.map_map]; rfl]
  refine traces_join ?_ ?_
  · exact List.forall₂_map_left_iff.2 (List.forall₂_map_right_iff.2 (h.imp fun _ _ => traces_field))
  · rw [TypeExpr.links, TypeExpr.fieldLinks_eq_flatten, List.map_map, List.map_map]
    rfl

theorem closed_traces :
    Closed doc registry fun _ d s => Traces doc registry d.leaves s where
  reference hr hx := by
    rw [Definition.leaves_eq, hr]
    exact ⟨.cons (.reference hx) .nil, rfl⟩
  literals hr he _ := by
    rw [Definition.leaves_eq, hr, he]
    exact ⟨.nil, rfl⟩
  union hr he ho _ h := by
    rw [Definition.leaves_eq, hr, he, ho]
    exact traces_union h
  sequence hr he ho ht hi _ h := by
    rw [Definition.leaves_eq, hr, he, ho, hi, if_pos (by simp [ht])]
    exact ⟨h.links, h.deps_eq⟩
  record hr he ho ht _ h := by
    rw [Definition.leaves_eq, hr, he, ho, if_neg (by simpa using ht)]
    exact traces_record h
  primitive {_ d _} hr he ho ht hobj _ := by
    have hp : d.properties = none := by
      simp only [Definition.isObject, Bool.or_eq_true, not_or] at hobj
      simpa using hobj.1
    rw [Definition.leaves_eq, hr, he, ho, if_neg (by simpa using ht), Definition.objectLeaves, hp]
    exact ⟨.nil, rfl⟩

/-! ### The three ways to a type -/

theorem traces_ofDefinition {owner : Option Name} {d : Definition} {s : Synthesis}
    (h : ofDefinition doc registry owner d = .ok s) : Traces doc registry d.leaves s :=
  closed_traces.ofDefinition d owner s h

theorem traces_ofObject {name : Name} {d : Definition} {s : Synthesis}
    (h : ofObject doc registry name d = .ok s) : Traces doc registry d.objectLeaves s := by
  obtain ⟨fs, rfl, hfs⟩ := closed_traces.exists_fields_of_ofObject h
  exact traces_record hfs

theorem traces_ofSchema {name : Name} {d : Definition} {s : Synthesis}
    (h : ofSchema doc registry name d = .ok s) : Traces doc registry d.schemaLeaves s := by
  rw [Definition.schemaLeaves]
  rcases closed_traces.of_ofSchema h with ⟨ho, fs, rfl, hfs⟩ | ⟨ho, hs⟩
  · rw [if_pos ho]
    exact traces_record hfs
  · rw [if_neg ho]
    exact hs

end Synthesis

end SchemaDecl
