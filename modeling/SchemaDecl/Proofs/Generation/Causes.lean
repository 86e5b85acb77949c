import SchemaDecl.Loading
import SchemaDecl.Proofs.Document.Plain
import SchemaDecl.Proofs.Generation.Outcome
import SchemaDecl.Proofs.Registry.Build
import SchemaDecl.Proofs.Synthesis.Faults

/-! Why a run that keeps going can end without a result. Errors of the schema are recorded, so what is
left is a definition whose name is no text, or an example that has no written form. Documents in JSON
have neither, and every one of their definitions ends as a module or as an error. -/

namespace SchemaDecl

/-- The examples that come to be written: that of a definition itself, and those of the properties in
it but the ones that hold discriminants. -/
inductive Definition.Sampled (d : Definition) : Value → Prop
  | self : d.Sampled d.notes.sample
  | property {c p : Definition} {key : String} (hc : c.Within d)
      (hp : (key, p) ∈ c.properties.getD []) (hk : key ≠ tagProperty) : d.Sampled p.notes.sample

theorem Definition.Plain.isJson_of_sampled {d : Definition} (hd : d.Plain) {v : Value}
    (h : d.Sampled v) : v.IsJson := by
  cases h with
  | self => exact hd.isJson_sample
  | property hc hp _ => exact ((hd.within hc).property hp).isJson_sample

namespace Generation

open Registry (Entry)

variable {doc : Document} {registry : Registry} {e : Emitter}

/-- Why a run has no result although it keeps going. -/
inductive Cause (doc : Document) : Fault → Prop
  | name {v : Value} {x : Definition} (h : (.other v, x) ∈ doc.entries) : Cause doc .wrongType
  | sample {n : Name} {x : Definition} {v : Value} {err : Json.WriteError} (h : (n, x) ∈ doc.entries)
      (hv : x.Sampled v) (he : Json.write .example v = .error err) : Cause doc (.ofWriteError err)

/-- A plain document gives no cause. -/
theorem not_cause (hd : doc.Plain) {f : Fault} : ¬Cause doc f := by
  rintro (h | ⟨h, hv, he⟩)
  · exact hd.textual.not_other ⟨_, h, _, rfl⟩
  · obtain ⟨t, ht⟩ := Json.exists_write .example rfl ((hd.definitions _ h).isJson_of_sampled hv)
    rw [ht] at he
    cases he

/-! ### From definitions to runs -/

/-- A declaration under a text fails only for an example that has no written form. -/
theorem write_eq_error_of_declaration {name : String} {x : Definition} {s : Synthesis} {f : Fault}
    (h : e.declaration (.text name) x s = .error f) :
    ∃ err, f = .ofWriteError err ∧ Json.write .example x.notes.sample = .error err := by
  rcases bind_eq_error h with h | ⟨_, -, h⟩
  · cases hdoc : e.target.declarationDoc x.notes.description x.notes.sample with
    | ok lines =>
      rw [hdoc] at h
      cases h
    | error err =>
      rw [hdoc] at h
      cases h
      unfold Target.declarationDoc at hdoc
      dsimp only at hdoc
      split at hdoc
      · cases hdoc
      · rcases bind_eq_error hdoc with hw | ⟨_, -, hw⟩
        · exact ⟨err, rfl, hw⟩
        · cases hw
  · cases h

theorem exists_declaration (e : Emitter) (name : String) {x : Definition}
    (hx : x.notes.sample.IsJson) (s : Synthesis) : ∃ m, e.declaration (.text name) x s = .ok m := by
  cases hm : e.declaration (.text name) x s with
  | ok m => exact ⟨m, rfl⟩
  | error f =>
    obtain ⟨err, -, he⟩ := write_eq_error_of_declaration hm
    obtain ⟨t, ht⟩ := Json.exists_write .example rfl hx
    rw [ht] at he
    cases he

theorem cause_of_declaration {n : Name} {x : Definition} (hx : (n, x) ∈ doc.entries) {s : Synthesis}
    {f : Fault} (h : e.declaration n x s = .error f) : Cause doc f := by
  cases n with
  | other v =>
    cases h
    exact .name hx
  | text name =>
    obtain ⟨err, rfl, he⟩ := write_eq_error_of_declaration h
    exact .sample hx .self he

theorem cause_of_declare {n : Name} {x : Definition} (hx : (n, x) ∈ doc.entries) {f : Fault}
    (h : declare doc registry e n x = .error f) : Cause doc f := by
  unfold declare at h
  cases hs : Synthesis.ofSchema doc (some registry) n x with
  | ok s =>
    rw [hs] at h
    exact cause_of_declaration hx (map_eq_error h)
  | error fault =>
    rw [hs] at h
    cases Synthesis.reason_of_ofSchema hs with
    | schema err => cases h
    | unnamable hn =>
      cases hn
      cases h
      exact .name hx
    | unwritable hc hp hk he =>
      cases h
      exact .sample hx (.property hc hp hk) he

/-- A run that keeps going comes to a result, with a module or an error for every definition, or there
is a cause for what it fails with. -/
theorem exists_run_or_cause (doc : Document) (settings : Settings) {previous : List Entry}
    (hi : (previous.map Entry.identifier).Nodup) (ht : (previous.map Entry.discriminant).Nodup) :
    (∃ g, (run doc { settings with keepGoing := true } previous).result = .ok g) ∨
      ∃ f, (run doc { settings with keepGoing := true } previous).result = .error f ∧ Cause doc f := by
  rw [run_result]
  rcases Registry.exists_build_or_unnamed doc hi ht with ⟨r, hr⟩ | ⟨hr, x, hx, v, hv⟩
  · rw [hr]
    rcases declareAll_ok_or_error doc r (emitterOf settings) doc.entries with
      ⟨out, hout⟩ | ⟨x, hx, f, hf, hout⟩
    · refine Or.inl ⟨assembled settings r out, ?_⟩
      exact congrArg (Except.map (assembled settings r)) hout
    · refine Or.inr ⟨f, congrArg (Except.map (assembled settings r)) hout, cause_of_declare hx hf⟩
  · rw [hr]
    obtain ⟨n, d⟩ := x
    cases hv
    exact Or.inr ⟨_, rfl, .name hx⟩

theorem exists_run (hd : doc.Plain) (settings : Settings) {previous : List Entry}
    (hi : (previous.map Entry.identifier).Nodup) (ht : (previous.map Entry.discriminant).Nodup) :
    ∃ g, (run doc { settings with keepGoing := true } previous).result = .ok g :=
  (exists_run_or_cause doc settings hi ht).resolve_right fun ⟨_, _, hf⟩ => not_cause hd hf

/-- A run that keeps going returns a module or an error for every definition, unless there is a cause
for what it fails with. Documents in JSON give no cause. -/
theorem recorded_or_cause (doc : Document) (settings : Settings) (previous : List Entry)
    (hi : (previous.map Entry.identifier).Nodup) (ht : (previous.map Entry.discriminant).Nodup) :
    ((∃ g, (run doc { settings with keepGoing := true } previous).result = .ok g ∧
      ∀ x ∈ doc.entries,
        (∃ m ∈ g.declarations,
          declare doc g.registry (emitterOf settings) x.1 x.2 = .ok (.ok m)) ∨
        ∃ err, (x.1, err) ∈ g.failures ∧
          declare doc g.registry (emitterOf settings) x.1 x.2 = .ok (.error err)) ∨
      ∃ f, (run doc { settings with keepGoing := true } previous).result = .error f ∧ Cause doc f) ∧
    (doc.FromJson → ∀ f, ¬Cause doc f) := by
  refine ⟨(exists_run_or_cause doc settings hi ht).imp_left ?_, fun hd f => not_cause hd.plain⟩
  rintro ⟨g, hg⟩
  exact ⟨g, hg, fun x hx => (outcomes_of_run hg).module_or_failure hx⟩

/-- A text with an example. -/
def note : Definition :=
  { Definition.blank with
    type := some "string", notes := ⟨none, .object [("k", .text "v")], none, .null⟩ }

/-- A list of nothing, and a text. -/
def voidAndNote : Document :=
  ⟨[(.text "Void", { Definition.blank with type := some "array" }), (.text "Note", note)]⟩

theorem fromJson_voidAndNote : voidAndNote.FromJson := by
  have hvalue : Value.OfTexts (.object
      [("Void", .object [("type", .text "array")]),
        ("Note", .object [("type", .text "string"), ("example", .object [("k", .text "v")])])]) := by
    simp
  exact Document.fromJson_of_ofTexts hvalue rfl

theorem recorded_or_cause_voidAndNote :
    ∃ g, (run voidAndNote { keepGoing := true } []).result = .ok g ∧
      (∃ err, (.text "Void", err) ∈ g.failures) ∧ ∃ m ∈ g.declarations,
        declare voidAndNote g.registry (emitterOf {}) (.text "Note") note = .ok (.ok m) := by
  obtain ⟨hresult, hplain⟩ := recorded_or_cause voidAndNote {} [] List.nodup_nil List.nodup_nil
  rcases hresult with ⟨g, hg, hall⟩ | ⟨f, -, hf⟩
  · refine ⟨g, hg, ?_, ?_⟩
    · rcases hall _ List.mem_cons_self with ⟨m, -, hm⟩ | ⟨err, herr, -⟩
      · cases hm
      · exact ⟨err, herr⟩
    · rcases hall (.text "Note", note) (List.mem_cons_of_mem _ List.mem_cons_self) with
        hm | ⟨err, -, herr⟩
      · exact hm
      · obtain ⟨m, -, hm⟩ := map_eq_ok herr
        cases hm
  · exact absurd hf (hplain fromJson_voidAndNote f)

/-- A text in YAML: the keys of the example are a number and a text, which have no common order. -/
def statusText : String :=
  "Status:\n  type: string\n  example: \x7b200: ok, default: error\x7d\n"

/-- The document is accepted and the run on it has no result, though it keeps going. -/
theorem no_result_of_status :
    ∃ v doc, Format.read .yaml statusText = .ok v ∧ Document.ofValue v = .ok doc ∧
      ∀ g, (run doc { keepGoing := true } []).result ≠ .ok g := by
  have h : (Format.read .yaml statusText >>= Document.ofValue).toOption.map
      (fun doc => (run doc { keepGoing := true } []).result.toOption.isSome) = some false := by
    decide +kernel
  obtain ⟨doc, hdoc, hnone⟩ := Option.map_eq_some_iff.1 h
  obtain ⟨v, hv, hdoc⟩ := bind_eq_ok (eq_ok_of_toOption hdoc)
  refine ⟨v, doc, hv, hdoc, fun g hg => ?_⟩
  rw [hg] at hnone
  cases hnone

end Generation

end SchemaDecl
