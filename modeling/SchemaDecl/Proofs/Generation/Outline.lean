import SchemaDecl.Proofs.Generation.Insertion

/-! What the modules of a document have to do with each other. Of all definitions the registry and the
references see no more than the outline: names in their order, each with its discriminant. A definition
that stands in two documents with one outline therefore comes to the same in runs on both, whatever
stands behind the other names. -/

namespace SchemaDecl

/-- The names of a document with their discriminants. -/
def Document.outline (d : Document) : List (Name × Option String) :=
  d.entries.map fun e => (e.1, e.2.discriminant)

variable {d d' : Document}

/-! ### What the outline decides -/

theorem Document.map_discriminant_getText? (d : Document) (name : String) :
    (d.getText? name).map Definition.discriminant =
      (d.outline.find? fun e => e.1.isText name).map Prod.snd := by
  rw [outline, List.find?_map, Option.map_map, getText?, Option.map_map]
  rfl

theorem Document.discriminantOf_eq (d : Document) (name : Name) :
    d.discriminantOf name = (d.outline.find? fun e => e.1.same name).bind Prod.snd := by
  rw [outline, List.find?_map, Option.bind_map, discriminantOf, get?, Option.bind_map]
  rfl

/-- A reference finds no more of its target than that it is there and which discriminant it has. -/
theorem Synthesis.ofRef_of_outline (ho : d.outline = d'.outline) (ref : String) (owner : Option Name) :
    ofRef d ref owner = ofRef d' ref owner := by
  have hfound : (d.getText? (Document.refTarget ref)).map Definition.discriminant =
      (d'.getText? (Document.refTarget ref)).map Definition.discriminant := by
    rw [Document.map_discriminant_getText?, Document.map_discriminant_getText?, ho]
  have hkind : d.sentinelKind (.text (Document.refTarget ref)) =
      d'.sentinelKind (.text (Document.refTarget ref)) := by
    rw [Document.sentinelKind, Document.sentinelKind, Document.discriminantOf_eq,
      Document.discriminantOf_eq, ho]
  unfold ofRef Document.resolve
  cases hx : d.getText? (Document.refTarget ref) with
  | none =>
    rw [hx, Option.map_none, eq_comm, Option.map_eq_none_iff] at hfound
    simp only [hx, hfound]
  | some x =>
    rw [hx, Option.map_some, eq_comm] at hfound
    obtain ⟨x', hx', -⟩ := Option.map_eq_some_iff.1 hfound
    simp only [hx, hx', hkind]

theorem Synthesis.ofSchema_of_outline (ho : d.outline = d'.outline) (registry : Option Registry)
    (name : Name) (x : Definition) : ofSchema d registry name x = ofSchema d' registry name x := by
  refine ofSchema_congr fun leaf _ => ?_
  cases leaf with
  | reference ref => exact ofRef_of_outline ho ref
  | member tag => rfl

namespace Registry

open Document

/-- The first pass reads names and discriminants alone. -/
theorem claims_of_outline (found : List Entry) {entries entries' : List (Name × Definition)}
    (h : outline ⟨entries⟩ = outline ⟨entries'⟩) : claims found entries = claims found entries' := by
  induction entries generalizing found entries' with
  | nil =>
    obtain rfl : entries' = [] := List.map_eq_nil_iff.1 h.symm
    rfl
  | cons e rest ih =>
    obtain ⟨name, x⟩ := e
    obtain ⟨⟨name', x'⟩, rest', rfl, he, hrest⟩ := List.map_eq_cons_iff.1 h.symm
    obtain ⟨rfl, hx⟩ : name' = name ∧ x'.discriminant = x.discriminant := Prod.mk.inj he
    have ih : ∀ found, claims found rest = claims found rest' := fun found => ih found hrest.symm
    simp only [claims, hx, ih]

theorem build_of_outline (ho : d.outline = d'.outline) (previous : List Entry) :
    build d previous = build d' previous := by
  rw [build, build, claims_of_outline [] ho]

end Registry

namespace Generation

open Registry (Entry)

theorem declare_of_outline (ho : d.outline = d'.outline) (registry : Registry) (e : Emitter)
    (name : Name) (x : Definition) : declare d registry e name x = declare d' registry e name x := by
  rw [declare, declare, Synthesis.ofSchema_of_outline ho]

theorem declareAll_of_outline (ho : d.outline = d'.outline) (registry : Registry) (e : Emitter)
    (keepGoing : Bool) (entries : List (Name × Definition)) :
    declareAll d registry e keepGoing entries = declareAll d' registry e keepGoing entries := by
  induction entries with
  | nil => rfl
  | cons x rest ih => rw [declareAll, declareAll, declare_of_outline ho, ih]

/-! ### Runs on both documents -/

/-- Two documents with one outline: a definition that stands in both under its name gets the same
module in both runs, or fails in both with the same error. -/
theorem same_outcome_of_outline (d d' : Document) (hd : d.FromJson) (hd' : d'.FromJson)
    (ho : d.outline = d'.outline) (settings : Settings) (previous : List Entry)
    (hi : (previous.map Entry.identifier).Nodup) (ht : (previous.map Entry.discriminant).Nodup) :
    ∃ g g', (run d { settings with keepGoing := true } previous).result = .ok g ∧
      (run d' { settings with keepGoing := true } previous).result = .ok g' ∧
      ∀ n x, (n, x) ∈ d.entries → (n, x) ∈ d'.entries →
        (∃ m, (n, m) ∈ declared d g ∧ (n, m) ∈ declared d' g') ∨
          ∃ err, (n, err) ∈ g.failures ∧ (n, err) ∈ g'.failures := by
  have hp := hd.plain
  have hp' := hd'.plain
  obtain ⟨g, hg⟩ := exists_run hp settings hi ht
  obtain ⟨g', hg'⟩ := exists_run hp' settings hi ht
  have hregistry : g'.registry = g.registry := by
    have hr' := (run_eq_ok hg').1
    rw [← Registry.build_of_outline ho, (run_eq_ok hg).1] at hr'
    exact (Except.ok.inj hr').symm
  refine ⟨g, g', hg, hg', fun n x hx hx' => ?_⟩
  have hout := (outcomes_of_run hg).module_or_failure hx
  have hout' := (outcomes_of_run hg').module_or_failure hx'
  rw [hregistry] at hout'
  rcases hout with ⟨m, -, hm⟩ | ⟨err, herr, he⟩
  · refine Or.inl ⟨m, (mem_declared_iff hg hp.textual hp.nodup).2 ⟨x, hx, hm⟩,
      (mem_declared_iff hg' hp'.textual hp'.nodup).2 ⟨x, hx', ?_⟩⟩
    rw [hregistry, ← declare_of_outline ho]
    exact hm
  · rw [← declare_of_outline ho, he] at hout'
    rcases hout' with ⟨m, -, hm⟩ | ⟨err', herr', he'⟩
    · cases hm
    · cases he'
      exact Or.inr ⟨err, herr, herr'⟩

/-- A reference and what it refers to, which has one property beside its tag. -/
def household (up : Definition) : Document :=
  ⟨[(.text "A", { Definition.blank with ref := some "B" }),
    (.text "B", { Definition.blank with
      properties := some [
        (tagProperty, { Definition.blank with notes := ⟨none, .text "b", none, .null⟩ }),
        ("up", up)] })]⟩

/-- The property refers back. -/
def family : Document :=
  household { Definition.blank with ref := some "A" }

/-- The property has no type. -/
def foreign : Document :=
  household .blank

/-- How both stand in JSON, with the property as it stands there. -/
def householdValue (up : Value) : Value :=
  .object
    [("A", .object [("$ref", .text "B")]),
      ("B", .object
        [("properties", .object [("_object", .object [("example", .text "b")]), ("up", up)])])]

theorem fromJson_family : family.FromJson := by
  have hvalue : Value.OfTexts (householdValue (.object [("$ref", .text "A")])) := by
    simp [householdValue]
  exact Document.fromJson_of_ofTexts hvalue rfl

theorem fromJson_foreign : foreign.FromJson := by
  have hvalue : Value.OfTexts (householdValue (.object [])) := by
    simp [householdValue]
  exact Document.fromJson_of_ofTexts hvalue rfl

theorem same_outcome_of_outline_family :
    ∃ g g', (run family { keepGoing := true } []).result = .ok g ∧
      (run foreign { keepGoing := true } []).result = .ok g' ∧ g.failures.map Prod.fst = [] ∧
      g'.failures.map Prod.fst = [.text "B"] ∧
      ∃ m, (.text "A", m) ∈ declared family g ∧ (.text "A", m) ∈ declared foreign g' := by
  obtain ⟨g, g', hg, hg', hsame⟩ := same_outcome_of_outline family foreign fromJson_family
    fromJson_foreign rfl {} [] List.nodup_nil List.nodup_nil
  have hf : g.failures = [] := by
    cases hg
    rfl
  refine ⟨g, g', hg, hg', by rw [hf]; rfl, ?_, ?_⟩
  · cases hg'
    rfl
  · rcases hsame (.text "A") _ List.mem_cons_self List.mem_cons_self with h | ⟨err, herr, -⟩
    · exact h
    · rw [hf] at herr
      cases herr

end Generation

end SchemaDecl
