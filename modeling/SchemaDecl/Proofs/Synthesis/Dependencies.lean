import SchemaDecl.Proofs.Registry.Build
import SchemaDecl.Proofs.Synthesis.Leaves

/-! The dependencies of a type. They are collected beside the type and thinned out at every union and
record; what remains in the end is what occurs in the type, each name at its first place, and each
name has a leaf of the definition that it comes from. -/

namespace SchemaDecl.Synthesis

open Definition (Leaf)

variable {doc : Document} {registry : Option Registry}

/-- The definition got the type in one of the three ways, each of which reads leaves of its own. -/
inductive Synthesized (doc : Document) (registry : Option Registry) (d : Definition) :
    List Leaf → Synthesis → Prop
  | inner {owner : Option Name} {s : Synthesis} (h : ofDefinition doc registry owner d = .ok s) :
      Synthesized doc registry d d.leaves s
  | object {name : Name} {s : Synthesis} (h : ofObject doc registry name d = .ok s) :
      Synthesized doc registry d d.objectLeaves s
  | schema {name : Name} {s : Synthesis} (h : ofSchema doc registry name d = .ok s) :
      Synthesized doc registry d d.schemaLeaves s

theorem Synthesized.traces {d : Definition} {leaves : List Leaf} {s : Synthesis}
    (h : Synthesized doc registry d leaves s) : Traces doc registry leaves s := by
  cases h with
  | inner h => exact traces_ofDefinition h
  | object h => exact traces_ofObject h
  | schema h => exact traces_ofSchema h

/-- Where the name of a dependency comes from: a tag property, a reference to a definition whose
discriminant is that of references to objects or to collections, or a reference to another definition
of the document. -/
inductive Origin (doc : Document) (leaves : List Leaf) : String → Prop
  | registry {tag : Option String} (h : .member tag ∈ leaves) : Origin doc leaves "TypeRegistry"
  | object {ref : String} (h : .reference ref ∈ leaves)
      (ht : doc.discriminantOf (.text (Document.refTarget ref)) = some "/api/refs/object") :
      Origin doc leaves "ApiObjectRef"
  | collection {ref : String} (h : .reference ref ∈ leaves)
      (ht : doc.discriminantOf (.text (Document.refTarget ref)) = some "/api/refs/collection") :
      Origin doc leaves "ApiCollectionRef"
  | definition {ref : String} (h : .reference ref ∈ leaves)
      (hn : .text (Document.refTarget ref) ∈ doc.names)
      (hs : doc.sentinelKind (.text (Document.refTarget ref)) = none) :
      Origin doc leaves (Document.refTarget ref)

/-- The discriminants that make a definition one for references, with the types that stand for it. -/
theorem sentinelKind_eq_some {name : Name} {symbol : String} (h : doc.sentinelKind name = some symbol) :
    (doc.discriminantOf name = some "/api/refs/object" ∧ symbol = "ApiObjectRef") ∨
      (doc.discriminantOf name = some "/api/refs/collection" ∧ symbol = "ApiCollectionRef") := by
  obtain ⟨tag, ht, hs⟩ := Option.bind_eq_some_iff.1 h
  rw [ht]
  simp only [Document.sentinels, List.lookup_cons, List.lookup_nil] at hs
  split at hs
  next hobj =>
    cases hs
    exact Or.inl ⟨by rw [beq_iff_eq.1 hobj], rfl⟩
  next =>
    split at hs
    next hcol =>
      cases hs
      exact Or.inr ⟨by rw [beq_iff_eq.1 hcol], rfl⟩
    next => cases hs

theorem origin_of_shows {leaves : List Leaf} {leaf : Leaf} {link : String × Option String}
    (h : Shows doc registry leaf link) (hl : leaf ∈ leaves) : Origin doc leaves link.1 := by
  cases h with
  | @reference ref x hx =>
    unfold symbolFor
    cases hk : doc.sentinelKind (.text (Document.refTarget ref)) with
    | none => exact .definition hl (Document.text_mem_names hx) hk
    | some symbol =>
      rcases sentinelKind_eq_some hk with ⟨ht, rfl⟩ | ⟨ht, rfl⟩
      · exact .object hl ht
      · exact .collection hl ht
  | known _ _ => exact .registry hl
  | unknown _ _ => exact .registry hl

/-- The dependencies are the names in the type, each once and in order; only the enumeration of the
registry has members, and every name has its origin. -/
theorem deps_eq_firstSeen_references (doc : Document) (registry : Option Registry) (d : Definition)
    (leaves : List Leaf) (s : Synthesis) (h : Synthesized doc registry d leaves s) :
    s.deps = firstSeen s.type.references ∧
      (∀ name member, (name, some member) ∈ s.type.links → name = "TypeRegistry") ∧
      ∀ name ∈ s.deps, Origin doc leaves name := by
  have ht := h.traces
  refine ⟨ht.deps_eq, fun name member hm => ?_, fun name hn => ?_⟩
  · obtain ⟨leaf, -, hs⟩ := exists_of_forall₂ ht.links hm
    cases hs <;> rfl
  · rw [ht.deps_eq, mem_firstSeen] at hn
    obtain ⟨link, hl, rfl⟩ := List.mem_map.1 hn
    obtain ⟨leaf, hm, hs⟩ := exists_of_forall₂ ht.links hl
    exact origin_of_shows hs hm

/-! ### An object with all kinds of leaves -/

/-- A reference. -/
def pointer (ref : String) : Definition :=
  { Definition.blank with ref := some ref }

/-- Four references, two of them to one definition, and a tag between them. -/
def parcel : Definition :=
  { Definition.blank with
    properties := some [
      ("stops", { Definition.blank with
        oneOf := some [pointer "#/definitions/Stop",
          { Definition.blank with type := some "array", items := some (pointer "Depot") }] }),
      (tagProperty, { Definition.blank with notes := ⟨none, .text "/api/parcel", none, .null⟩ }),
      ("owner", pointer "Owner"),
      ("last", pointer "Stop")] }

def parcels : Document :=
  ⟨[(.text "Parcel", parcel), (.text "Stop", .blank), (.text "Depot", .blank),
    (.text "Owner", .tagged "/api/refs/object")]⟩

theorem deps_parcel :
    ∃ s, ofSchema parcels none (.text "Parcel") parcel = .ok s ∧
      s.deps = ["Stop", "Depot", "TypeRegistry", "ApiObjectRef"] ∧
      s.deps = firstSeen s.type.references ∧ Origin parcels parcel.schemaLeaves "ApiObjectRef" := by
  have h := fun s (hs : ofSchema parcels none (.text "Parcel") parcel = .ok s) =>
    deps_eq_firstSeen_references parcels none parcel parcel.schemaLeaves s (.schema hs)
  exact ⟨_, rfl, by decide, (h _ rfl).1, (h _ rfl).2.2 _ (by decide)⟩

end SchemaDecl.Synthesis
