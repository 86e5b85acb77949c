import SchemaDecl.Proofs.Definition.Circle
import SchemaDecl.Proofs.Document.Sections

/-! Definitions at the top of a document and deeper in it. A mapping of definitions is the same document
by itself and as the section of a description of an interface, also where it lies inside itself. -/

namespace SchemaDecl

open List (Forall₂)
open Definition (unrolled unrolledSection unrolledDocument)
open Value (Part)

theorem Value.ne_of_fieldOf_eq_none {key : String} {entries : List (Value × Value)}
    (h : fieldOf key entries = none) {e : Value × Value} (he : e ∈ entries) : e.1 ≠ .text key := by
  induction entries with
  | nil => cases he
  | cons x rest ih =>
    obtain ⟨k, v⟩ := x
    by_cases hk : k = .text key
    · subst hk
      rw [fieldOf, if_pos (beq_self_eq_true _)] at h
      cases h
    · rw [fieldOf_cons_of_ne hk] at h
      rcases List.mem_cons.1 he with rfl | he
      · exact hk
      · exact ih h he

namespace Document

/-- A description of an interface with these definitions. -/
def wrapped (v : Value) : Value :=
  .object [("components", .object [("schemas", v)])]

variable {entries : List (Value × Value)}

theorem isWrapped_of_bare (hc : Value.fieldOf "components" entries = none)
    (ho : Value.fieldOf "openapi" entries = none) : isWrapped (.map entries) = .ok false := by
  simp [isWrapped, hc, ho]

theorem orEmpty_map_some (entries : List (Value × Value)) :
    orEmpty (some (.map entries)) = .map entries := by
  cases entries <;> rfl

theorem section?_wrapped (entries : List (Value × Value)) :
    Document.section? (wrapped (.map entries)) = .ok (.map entries) := by
  have hinner : orEmpty (Value.fieldOf "components"
      [(.text "components", .object [("schemas", .map entries)])]) =
        .map [(.text "schemas", .map entries)] := rfl
  have hsection := section?_of_wrapped rfl hinner
  rwa [Value.fieldOf, if_pos (beq_self_eq_true _), orEmpty_map_some] at hsection

theorem isCircular_wrapped (v : Value) : (wrapped v).isCircular = v.isCircular := by
  simp [wrapped, Value.object, Value.isCircular, Value.anyEntryCircular]

/-- Without a key for a section, every entry of a document that lies inside itself is a definition. -/
theorem unrolledDocument_of_bare (h : (Value.map entries).isCircular = true)
    (hc : Value.fieldOf "components" entries = none) :
    unrolledDocument (.map entries) =
      unrolledSection (Value.map entries).size ⟨.map entries, [], []⟩ := by
  rw [unrolledDocument, unrolledSection, h, if_neg (by decide)]
  refine congrArg Value.map (List.forall₂_eq_eq_eq ▸ Definition.forall₂_mapIdx fun i e he => ?_)
  obtain ⟨k, v⟩ := e
  have hk : k ≠ .text "components" := Value.ne_of_fieldOf_eq_none hc he
  dsimp only
  split
  next => exact absurd rfl hk
  next => rfl

/-- The definitions as a part of that description. -/
def sectionPart (v : Value) : Part :=
  (⟨v, [], []⟩ : Part).under [0, 0] [.object [("schemas", v)], wrapped v]

theorem unrolledDocument_wrapped (h : (Value.map entries).isCircular = true) :
    unrolledDocument (wrapped (.map entries)) =
      wrapped (unrolledSection (wrapped (.map entries)).size (sectionPart (.map entries))) := by
  unfold unrolledDocument
  rw [isCircular_wrapped, h, if_neg (by decide)]
  rfl

/-- The definitions of a section, each written out. -/
def sectionEntries (fuel : Nat) (p : Part) (entries : List (Value × Value)) : List (Value × Value) :=
  entries.mapIdx fun i e => (e.1, unrolled fuel [] (p.inner i e.2))

theorem unrolledSection_of_map {fuel : Nat} {p : Part} (h : p.value = .map entries) :
    unrolledSection fuel p = .map (sectionEntries fuel p entries) := by
  rw [unrolledSection, h]
  rfl

theorem keys_sectionEntries (fuel : Nat) (p : Part) (entries : List (Value × Value)) :
    (sectionEntries fuel p entries).map Prod.fst = entries.map Prod.fst :=
  List.ext_getElem (by simp [sectionEntries]) (by simp [sectionEntries])

theorem unrolledDocument_of_acyclic {v : Value} (h : v.isCircular = false) :
    unrolledDocument v = v := by
  unfold unrolledDocument
  rw [h]
  rfl

theorem size_le_size_wrapped (v : Value) : v.size ≤ (wrapped v).size := by
  simp only [wrapped, Value.object, List.map_cons, List.map_nil, Value.size, Value.sizeEntries]
  omega

/-- Each definition decodes deeper in the data as it does at the top. -/
theorem follows_inner_sectionPart (hg : (Value.map entries).isGrounded 0) {e : Value × Value}
    (he : e ∈ entries) (i : Nat) :
    Check.Follows Eq
      (Definition.decode (unrolled (Value.map entries).size []
        ((⟨.map entries, [], []⟩ : Part).inner i e.2)))
      (Definition.decode (unrolled (wrapped (.map entries)).size []
        ((sectionPart (.map entries)).inner i e.2))) := by
  have hp := Part.sound_whole hg
  have hv := Value.isGrounded_of_mem_entries hg he
  rw [sectionPart, Part.inner_under hp hv i]
  exact (Definition.stands_unrolled (size_le_size_wrapped _) [] (hp.inner hv i) _ _).decode

/-- A mapping of definitions is the same document when it stands in a description of an interface. -/
theorem ofValue_wrapped {d : Document} (hc : Value.fieldOf "components" entries = none)
    (ho : Value.fieldOf "openapi" entries = none) (hg : (Value.map entries).isGrounded 0)
    (hd : ofValue (.map entries) = .ok d) : ofValue (wrapped (.map entries)) = .ok d := by
  obtain ⟨es, hw, hes⟩ := exists_decodeEntries_of_ofValue hd
  have hbare := isWrapped_of_bare hc ho
  cases h : (Value.map entries).isCircular with
  | false =>
    rw [unrolledDocument_of_acyclic h, section?_of_bare hbare] at hw
    cases hw
    refine ofValue_of_decodeEntries ?_ hes
    rw [unrolledDocument_of_acyclic (by rw [isCircular_wrapped, h]), section?_wrapped]
  | true =>
    have htop : unrolledDocument (.map entries) =
        .map (sectionEntries (Value.map entries).size ⟨.map entries, [], []⟩ entries) :=
      (unrolledDocument_of_bare h hc).trans (unrolledSection_of_map rfl)
    have hdeep : unrolledDocument (wrapped (.map entries)) = wrapped (.map
        (sectionEntries (wrapped (.map entries)).size (sectionPart (.map entries)) entries)) :=
      (unrolledDocument_wrapped h).trans (congrArg wrapped (unrolledSection_of_map rfl))
    have hkeys := isWrapped_of_keys
      (keys_sectionEntries (Value.map entries).size ⟨.map entries, [], []⟩ entries)
    rw [htop, section?_of_bare (hkeys.trans hbare)] at hw
    cases hw
    have hsame : Forall₂ (fun e e' => e'.1 = e.1 ∧
        Check.Follows Eq (Definition.decode e.2) (Definition.decode e'.2))
        (sectionEntries (Value.map entries).size ⟨.map entries, [], []⟩ entries)
        (sectionEntries (wrapped (.map entries)).size (sectionPart (.map entries)) entries) :=
      Definition.forall₂_mapIdx fun i e he => ⟨rfl, follows_inner_sectionPart hg he i⟩
    obtain ⟨xs', hxs', hxs⟩ := exists_decodeEntries (R := fun _ => Eq) (T := fun _ => Eq) hsame rfl
      (fun _ _ d d' xs xs' hd hxs => by rw [hd, hxs]) hes
    have hd' : (⟨xs'⟩ : Document) = d := by
      rw [← hxs]
    rw [← hd']
    refine ofValue_of_decodeEntries ?_ hxs'
    rw [hdeep, section?_wrapped]

end Document

end SchemaDecl
