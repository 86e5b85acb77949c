import SchemaDecl.Proofs.Document.Spelling
import SchemaDecl.Proofs.Generation.Outline
import SchemaDecl.Proofs.Synthesis.References

/-! Runs see the targets of references and not how they are spelled. Two documents that are equal once
their references are spelled in one way come to the same, down to the texts of modules and the
messages of errors. -/

namespace SchemaDecl

open Definition (mapRefs refTarget_inFull)

theorem Document.outline_inFull (d : Document) : d.inFull.outline = d.outline := by
  rw [outline, inFull, List.map_map, outline]
  exact List.map_congr_left fun e _ => congrArg (Prod.mk e.1) (Definition.discriminant_mapRefs e.2)

namespace Generation

open Document (wrapped)

/-- A definition comes to the same module, or to the same error, in each spelling. -/
theorem declare_inFull (doc : Document) (registry : Registry) (e : Emitter) (name : Name)
    (d : Definition) :
    declare doc registry e name (d.mapRefs Definition.inFull) = declare doc registry e name d := by
  have hmodule : ∀ s, e.declaration name (d.mapRefs Definition.inFull) s = e.declaration name d s := by
    intro s
    unfold Emitter.declaration
    rw [Definition.notes_mapRefs]
  simp only [declare, Synthesis.ofSchema_mapRefs refTarget_inFull, hmodule]

theorem declareAll_inFull (doc : Document) (registry : Registry) (e : Emitter) (keepGoing : Bool)
    (entries : List (Name × Definition)) :
    declareAll doc registry e keepGoing
        (entries.map fun x => (x.1, x.2.mapRefs Definition.inFull)) =
      declareAll doc registry e keepGoing entries := by
  induction entries with
  | nil => rfl
  | cons x rest ih => rw [List.map_cons, declareAll, declareAll, declare_inFull, ih]

theorem run_inFull (d : Document) (settings : Settings) (previous : List Registry.Entry) :
    run d.inFull settings previous = run d settings previous := by
  have hall : ∀ registry e, declareAll d.inFull registry e settings.keepGoing d.inFull.entries =
      declareAll d registry e settings.keepGoing d.entries := by
    intro registry e
    rw [declareAll_of_outline d.outline_inFull, Document.inFull, declareAll_inFull]
  simp only [run, Registry.build_of_outline d.outline_inFull, hall]

/-- A mapping of definitions that is accepted as a document, when any number of its references are
spelled in another way: it is accepted as well, by itself and as the section of a description of an
interface, and every run on it comes to the same. Data without circles is grounded, and so is other data
as long as it does not refer to anything around it. -/
theorem same_run_of_respelled (entries : List (Value × Value)) (v : Value) (d : Document)
    (hc : Value.fieldOf "components" entries = none) (ho : Value.fieldOf "openapi" entries = none)
    (hd : Document.ofValue (.map entries) = .ok d) (h : Document.Respelled (.map entries) v)
    (hg : v.isGrounded 0) :
    ∃ d', Document.ofValue v = .ok d' ∧ Document.ofValue (wrapped v) = .ok d' ∧
      ∀ settings previous, run d' settings previous = run d settings previous := by
  obtain ⟨d', hd', hwrapped, hsame⟩ := Document.exists_ofValue_of_respelled hc ho hd h hg
  refine ⟨d', hd', hwrapped, fun settings previous => ?_⟩
  rw [← run_inFull d', hsame, run_inFull]

/-- An object that refers to itself and to a reference that leads nowhere, in these spellings. -/
def nodes (node kind nowhere : String) : Value :=
  .object
    [("Node", .object [("properties", .object
      [("_object", .object [("example", .text "/node")]),
        ("next", .object [("$ref", .text node)]),
        ("kind", .object [("oneOf",
          .list [.object [("type", .text "string")], .object [("$ref", .text kind)]])])])]),
      ("Kind", .object [("$ref", .text nowhere)])]

theorem respelled_nodes :
    Document.Respelled (nodes "Node" "#/components/schemas/Kind" "#/definitions/Nowhere")
      (nodes "#/definitions/Node" "Kind" "#/components/schemas/Nowhere") := by
  have hbare : ∀ name ∈ ["Node", "Kind", "Nowhere"], Definition.IsBare name := by
    unfold Definition.IsBare
    decide
  -- a definition that is a reference, spelled in two ways
  have hpointer : ∀ {ref ref' : String} (name : String), name ∈ ["Node", "Kind", "Nowhere"] →
      Definition.Spells name ref → Definition.Spells name ref' →
      Definition.Respelled (.object [("$ref", .text ref)]) (.object [("$ref", .text ref')]) :=
    fun name hn h h' => @Definition.Respelled.reference [] [] _ _ _ _ _ (Or.inl rfl) rfl rfl
      ⟨name, hbare name hn, h, h'⟩
  have hnode : Document.RespelledOnce
      (nodes "Node" "#/components/schemas/Kind" "#/definitions/Nowhere")
      (nodes "#/definitions/Node" "#/components/schemas/Kind" "#/definitions/Nowhere") :=
    @Document.RespelledOnce.definition [] [_] _ _ _ <|
      @Definition.Respelled.property [] [] [_] [_] _ _ _ <|
        hpointer "Node" (by decide) .bare .definition
  have hkind : Document.RespelledOnce
      (nodes "#/definitions/Node" "#/components/schemas/Kind" "#/definitions/Nowhere")
      (nodes "#/definitions/Node" "Kind" "#/definitions/Nowhere") :=
    @Document.RespelledOnce.definition [] [_] _ _ _ <|
      @Definition.Respelled.property [] [] [_, _] [] _ _ _ <|
        @Definition.Respelled.branch [] [] _ [_] [] _ _ (Or.inl rfl) <|
          hpointer "Kind" (by decide) .component .bare
  have hnowhere : Document.RespelledOnce
      (nodes "#/definitions/Node" "Kind" "#/definitions/Nowhere")
      (nodes "#/definitions/Node" "Kind" "#/components/schemas/Nowhere") :=
    @Document.RespelledOnce.definition [_] [] _ _ _ <|
      hpointer "Nowhere" (by decide) .definition .component
  exact .head hnode (.head hkind (.single hnowhere))

theorem same_run_of_respelled_nodes :
    ∃ d d' g,
      Document.ofValue (nodes "Node" "#/components/schemas/Kind" "#/definitions/Nowhere") = .ok d ∧
      Document.ofValue (wrapped (nodes "#/definitions/Node" "Kind" "#/components/schemas/Nowhere")) =
        .ok d' ∧
      (run d { keepGoing := true } []).result = .ok g ∧
      (run d' { keepGoing := true } []).result = .ok g ∧
      g.registry.entries = [⟨"Node", "/node"⟩] ∧
      g.failures = [(.text "Kind", .unresolved "Nowhere" (some (.text "Kind")))] := by
  obtain ⟨d, hd⟩ : ∃ d,
      Document.ofValue (nodes "Node" "#/components/schemas/Kind" "#/definitions/Nowhere") = .ok d :=
    ⟨_, rfl⟩
  obtain ⟨d', -, hwrapped, hrun⟩ := same_run_of_respelled _ _ d rfl rfl hd respelled_nodes
    (Value.isGrounded_of_acyclic _ rfl)
  obtain ⟨g, hg, hregistry, hfailures⟩ : ∃ g, (run d { keepGoing := true } []).result = .ok g ∧
      g.registry.entries = [⟨"Node", "/node"⟩] ∧
      g.failures = [(.text "Kind", .unresolved "Nowhere" (some (.text "Kind")))] := by
    cases hd
    exact ⟨_, rfl, rfl, rfl⟩
  exact ⟨d, d', g, hd, hwrapped, hg, by rw [hrun, hg], hregistry, hfailures⟩

end Generation

end SchemaDecl
