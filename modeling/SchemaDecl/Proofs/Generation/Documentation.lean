import SchemaDecl.Proofs.Emission.Imports
import SchemaDecl.Proofs.Generation.Outline
import SchemaDecl.Proofs.Synthesis.Documentation

/-! Notes decide about no more than texts. Two documents that differ in descriptions, formats, defaults
and examples, but not in the examples that tell objects apart, get one registry and fail for the same
definitions with the same errors, and their modules are the same but for the text. -/

namespace SchemaDecl

/-- A document whose definitions are without notes. -/
def Document.withoutNotes (d : Document) : Document :=
  ⟨d.entries.map fun e => (e.1, e.2.withoutNotes)⟩

theorem Document.outline_withoutNotes (d : Document) : d.withoutNotes.outline = d.outline := by
  rw [outline, withoutNotes, List.map_map, outline]
  refine List.map_congr_left fun e _ => ?_
  exact congrArg (Prod.mk e.1) e.2.discriminant_withoutNotes

/-- A module without its text. -/
def Module.withoutSource (m : Module) : Module :=
  { m with source := "" }

namespace Synthesis

variable {d d' : Document}

/-- Definitions of plain documents that are equal without notes have the same type up to documentation,
or the same fault. -/
theorem map_bare_ofSchema (hd : d.Plain) (hd' : d'.Plain) (h : d.withoutNotes = d'.withoutNotes)
    (registry : Option Registry) {n : Name} {x x' : Definition} (hx : (n, x) ∈ d.entries)
    (hx' : (n, x') ∈ d'.entries) :
    (ofSchema d registry n x).map bare = (ofSchema d' registry n x').map bare := by
  have ho : d.outline = d'.outline := by
    rw [← d.outline_withoutNotes, h, d'.outline_withoutNotes]
  have hnames : d'.withoutNotes.names = d'.names := by
    rw [Document.names, Document.withoutNotes, List.map_map]
    rfl
  obtain ⟨s, hs⟩ := hd.textual _ hx
  obtain rfl : n = .text s := hs
  have hm : (.text s, x.withoutNotes) ∈ d'.withoutNotes.entries := by
    rw [← h]
    exact List.mem_map_of_mem hx
  have hm' : (.text s, x'.withoutNotes) ∈ d'.withoutNotes.entries := List.mem_map_of_mem hx'
  have hsame := Document.eq_of_mem_entries (hnames ▸ hd'.nodup) hm hm'
  rw [ofSchema_of_outline ho, ofSchema_withoutNotes (hd.definitions _ hx), hsame,
    ← ofSchema_withoutNotes (hd'.definitions _ hx')]

end Synthesis

namespace Generation

open Registry (Entry)

variable {doc : Document} {registry : Registry} {e : Emitter}

/-! ### Definition by definition -/

/-- What a module says beside its text depends on the structure of the type. -/
theorem withoutSource_of_bare {name : String} {s s' : Synthesis} {m m' : Module}
    (h : e.Declares name s m) (h' : e.Declares name s' m') (hs : s.bare = s'.bare) :
    m.withoutSource = m'.withoutSource := by
  obtain ⟨htype, hdeps⟩ := Synthesis.mk.inj hs
  have hrecord : s.type.isRecord = s'.type.isRecord := by
    rw [← s.type.isRecord_withoutDocs, htype, s'.type.isRecord_withoutDocs]
  rw [Module.withoutSource, Module.withoutSource, h.name_eq, h'.name_eq, h.filename_eq,
    h'.filename_eq, h.exports_eq, h'.exports_eq, hrecord, h.deps_eq, h'.deps_eq, hdeps]

/-- A definition comes to a module, and this to the same but for the text, or to the same error. -/
theorem declare_withoutNotes (doc : Document) (registry : Registry) (e : Emitter) (name : String)
    {x : Definition} (hx : x.Plain) :
    (declare doc registry e (.text name) x).map (Except.map Module.withoutSource) =
      (declare doc registry e (.text name) x.withoutNotes).map (Except.map Module.withoutSource) := by
  have h : (Synthesis.ofSchema doc (some registry) (.text name) x).map Synthesis.bare =
      (Synthesis.ofSchema doc (some registry) (.text name) x.withoutNotes).map Synthesis.bare :=
    Synthesis.ofSchema_withoutNotes hx
  have hsample : x.withoutNotes.notes.sample.IsJson := by
    rw [Definition.notes_withoutNotes]
    exact .null
  unfold declare
  cases hs : Synthesis.ofSchema doc (some registry) (.text name) x with
  | ok s =>
    rw [hs] at h
    obtain ⟨s', hs', hsame⟩ := map_eq_ok h.symm
    obtain ⟨m, hm⟩ := exists_declaration e name hx.isJson_sample s
    obtain ⟨m', hm'⟩ := exists_declaration e name hsample s'
    have hmodule := withoutSource_of_bare (Emitter.declares_of_declaration hm)
      (Emitter.declares_of_declaration hm') hsame.symm
    simp only [hs', hm, hm', Except.map, hmodule]
  | error f =>
    rw [hs] at h
    rw [map_eq_error h.symm]
    cases f <;> rfl

/-- Modules and errors, but for the texts of the modules. -/
def withoutSources (out : List Module × List (Name × SchemaError)) :
    List Module × List (Name × SchemaError) :=
  (out.1.map Module.withoutSource, out.2)

theorem declareAll_withoutNotes (doc : Document) (registry : Registry) (e : Emitter) (keepGoing : Bool)
    {entries : List (Name × Definition)} (hp : ∀ x ∈ entries, (∃ s, x.1 = .text s) ∧ x.2.Plain) :
    (declareAll doc registry e keepGoing entries).result.map withoutSources =
      (declareAll doc registry e keepGoing
        (entries.map fun x => (x.1, x.2.withoutNotes))).result.map withoutSources := by
  induction entries with
  | nil => rfl
  | cons x rest ih =>
    obtain ⟨name, d⟩ := x
    obtain ⟨⟨⟨s, rfl : name = .text s⟩, hd⟩, hrest⟩ := List.forall_mem_cons.1 hp
    rw [List.map_cons, declareAll_cons, declareAll_cons]
    refine map_bind_congr (declare_withoutNotes doc registry e s hd) fun o o' ho => ?_
    cases o with
    | ok m =>
      cases o' with
      | ok m' =>
        refine map_bind_congr (ih hrest) fun out out' hout => congrArg Except.ok ?_
        obtain ⟨hms, hfs⟩ := Prod.mk.inj hout
        exact congrArg₂ Prod.mk (congrArg₂ List.cons (Except.ok.inj ho) hms) hfs
      | error err' => cases ho
    | error err =>
      cases o' with
      | ok m' => cases ho
      | error err' =>
        -- one error stands for both, and the policy says what it does to the rest
        cases ho
        cases keepGoing with
        | false => rfl
        | true =>
          refine map_bind_congr (ih hrest) fun out out' hout => congrArg Except.ok ?_
          obtain ⟨hms, hfs⟩ := Prod.mk.inj hout
          exact congrArg₂ Prod.mk hms (congrArg (List.cons (Name.text s, err)) hfs)

/-! ### Runs on both documents -/

/-- What comes of a run, but for the texts of its modules. -/
def frame (g : Generation) : Registry × List Module × List (Name × SchemaError) :=
  (g.registry, g.declarations.map Module.withoutSource, g.failures)

/-- A run on plain definitions comes to the same without their notes, but for texts. -/
theorem run_withoutNotes (hd : doc.Plain) (settings : Settings) (previous : List Entry) :
    (run doc settings previous).result.map frame =
      (run doc.withoutNotes settings previous).result.map frame := by
  have ho := doc.outline_withoutNotes
  have hall := fun r => declareAll_withoutNotes doc r (emitterOf settings) settings.keepGoing
    fun x hx => ⟨hd.textual x hx, hd.definitions x hx⟩
  rw [run_result, run_result, Registry.build_of_outline ho]
  cases (Registry.build doc previous).result with
  | error f => rfl
  | ok r =>
    have hmap : ∀ x : Except Fault (List Module × List (Name × SchemaError)),
        x.map (assembled settings r) = x >>= fun out => .ok (assembled settings r out) := by
      intro x
      cases x <;> rfl
    dsimp only [Except.bind]
    rw [ofRegistry, ofRegistry, declareAll_of_outline ho, hmap, hmap]
    refine map_bind_congr (hall r) fun out out' hout => congrArg Except.ok ?_
    obtain ⟨hms, hfs⟩ := Prod.mk.inj hout
    exact congrArg₂ (fun ms fs => (r, ms, fs)) hms hfs

/-- Two documents that are equal without notes: runs that keep going give both the same registry, the
same errors and modules that differ in their texts at most, and each definition gets the same type up
to the documentation of fields, or the same fault. -/
theorem same_structure_of_withoutNotes (d d' : Document) (hd : d.FromJson) (hd' : d'.FromJson)
    (h : d.withoutNotes = d'.withoutNotes) (settings : Settings) (previous : List Entry)
    (hi : (previous.map Entry.identifier).Nodup) (ht : (previous.map Entry.discriminant).Nodup) :
    (∃ g g', (run d { settings with keepGoing := true } previous).result = .ok g ∧
      (run d' { settings with keepGoing := true } previous).result = .ok g' ∧
      g.registry = g'.registry ∧ g.failures = g'.failures ∧
      g.declarations.map Module.withoutSource = g'.declarations.map Module.withoutSource) ∧
    ∀ (registry : Option Registry) (n : Name) (x x' : Definition),
      (n, x) ∈ d.entries → (n, x') ∈ d'.entries →
      (∃ s s', Synthesis.ofSchema d registry n x = .ok s ∧
        Synthesis.ofSchema d' registry n x' = .ok s' ∧ s.sameShape s' = true) ∨
      ∃ f, Synthesis.ofSchema d registry n x = .error f ∧
        Synthesis.ofSchema d' registry n x' = .error f := by
  have hp := hd.plain
  have hp' := hd'.plain
  constructor
  · obtain ⟨g, hg⟩ := exists_run hp settings hi ht
    obtain ⟨g', hg'⟩ := exists_run hp' settings hi ht
    have hrun := run_withoutNotes hp { settings with keepGoing := true } previous
    rw [h, ← run_withoutNotes hp', hg, hg'] at hrun
    obtain ⟨hregistry, hrest⟩ := Prod.mk.inj (Except.ok.inj hrun)
    obtain ⟨hms, hfs⟩ := Prod.mk.inj hrest
    exact ⟨g, g', hg, hg', hregistry, hfs, hms⟩
  · intro registry n x x' hx hx'
    have hbare := Synthesis.map_bare_ofSchema hp hp' h registry hx hx'
    cases hs : Synthesis.ofSchema d registry n x with
    | ok s =>
      rw [hs] at hbare
      obtain ⟨s', hs', hsame⟩ := map_eq_ok hbare.symm
      exact Or.inl ⟨s, s', rfl, hs', Synthesis.sameShape_iff.2 hsame.symm⟩
    | error f =>
      rw [hs] at hbare
      exact Or.inr ⟨f, rfl, map_eq_error hbare.symm⟩

/-- A car, which is told by its discriminant, and something without a type. -/
def garage (car built thing : Notes) : Document :=
  ⟨[(.text "Car", { Definition.blank with
      properties := some [
        (tagProperty, { Definition.blank with notes := Definition.sampleOnly (.text "c") }),
        ("age", { Definition.blank with type := some "string", notes := built })]
      notes := car }),
    (.text "Any", { Definition.blank with notes := thing })]⟩

/-- With notes of every kind. -/
def annotated : Document :=
  garage ⟨some "A", .null, none, .null⟩ ⟨none, .text "d", some "date", .null⟩ ⟨none, .null, none, .text "n"⟩

/-- With the discriminant alone. -/
def terse : Document :=
  garage (Definition.sampleOnly .null) (Definition.sampleOnly .null) (Definition.sampleOnly .null)

theorem fromJson_annotated : annotated.FromJson := by
  have hvalue : Value.OfTexts (.object
      [("Car", .object
        [("description", .text "A"),
          ("properties", .object
            [("_object", .object [("example", .text "c")]),
              ("age", .object
                [("type", .text "string"), ("format", .text "date"), ("example", .text "d")])])]),
        ("Any", .object [("default", .text "n")])]) := by
    simp
  exact Document.fromJson_of_ofTexts hvalue rfl

theorem fromJson_terse : terse.FromJson := by
  have hvalue : Value.OfTexts (.object
      [("Car", .object
        [("properties", .object
          [("_object", .object [("example", .text "c")]),
            ("age", .object [("type", .text "string")])])]),
        ("Any", .object [])]) := by
    simp
  exact Document.fromJson_of_ofTexts hvalue rfl

theorem same_structure_of_withoutNotes_garage :
    ∃ g g', (run annotated { keepGoing := true } []).result = .ok g ∧
      (run terse { keepGoing := true } []).result = .ok g' ∧ g.registry = g'.registry ∧
      g'.registry.entries = [⟨"Car", "c"⟩] ∧ g.failures.map Prod.fst = [.text "Any"] ∧
      g.declarations.map Module.name = g'.declarations.map Module.name := by
  obtain ⟨⟨g, g', hg, hg', hregistry, hfailures, hmodules⟩, -⟩ :=
    same_structure_of_withoutNotes annotated terse fromJson_annotated fromJson_terse rfl {} []
      List.nodup_nil List.nodup_nil
  refine ⟨g, g', hg, hg', hregistry, ?_, ?_, ?_⟩
  · cases hg'
    rfl
  · rw [hfailures]
    cases hg'
    rfl
  · have hnames := congrArg (List.map Module.name) hmodules
    rwa [List.map_map, List.map_map] at hnames

end Generation

end SchemaDecl
