import SchemaDecl.Proofs.Generation.Imports

/-! Imports in a run that keeps going. A reference is looked up in the document alone, and what it finds
there may be passed over for an error of its own. So a module is imported from what has a module or
from what was passed over, and from the latter exactly where the definition refers to it. -/

namespace SchemaDecl.Generation

open Registry (Entry)
open Identifier (ofName)

variable {doc : Document} {settings : Settings} {g : Generation}

/-- A definition that is referred to has a module that exports it, or an error. -/
theorem exported_or_failed {previous : List Entry} (hg : (run doc settings previous).result = .ok g)
    {name : String} (hname : .text name ∈ doc.names) :
    (∃ m ∈ g.declarations, m.name = ofName name ∧ ofName name ∈ m.exports) ∨
      ∃ err, (.text name, err) ∈ g.failures := by
  obtain ⟨⟨n, x⟩, hx, rfl⟩ := List.mem_map.1 hname
  rcases (outcomes_of_run hg).module_or_failure hx with ⟨m, hm, hdeclare⟩ | ⟨err, herr, -⟩
  · obtain ⟨name', s, hname', -, hdeclares⟩ := exists_declares_of_declare hdeclare
    cases hname'
    exact Or.inl ⟨m, hm, hdeclares.name_eq, hdeclares.mem_exports⟩
  · exact Or.inr ⟨err, herr⟩

/-- Every module of a run is that of a definition, and imports its dependencies but itself, each from
the module that is known for it or else from its sibling. Apart from the shared types these are the
definitions that are referred to: each has a module of the run, which exports it, or was passed over for
an error. -/
theorem import_present_or_skipped (doc : Document) (settings : Settings) (previous : List Entry)
    (g : Generation) (hg : (run doc settings previous).result = .ok g) (m : Module)
    (hm : m ∈ g.declarations) :
    ∃ name x s, (.text name, x) ∈ doc.entries ∧
      Synthesis.ofSchema doc (some g.registry) (.text name) x = .ok s ∧
      (emitterOf settings).Declares name s m ∧
      (∀ dep ∈ m.deps, dep ≠ name →
        m.Imports settings.target
          (settings.target.importLine (ofName dep) ((emitterOf settings).moduleFor dep)) ∧
        (dep ∉ (settings.knownModules ++ settings.target.sharedModules).map Prod.fst →
          (emitterOf settings).moduleFor dep = settings.target.sibling (ofName dep))) ∧
      ∀ dep, dep ∉ ["TypeRegistry", "ApiObjectRef", "ApiCollectionRef"] →
        (dep ∈ m.deps ↔ .text dep ∈ doc.names ∧ ∃ ref, .reference ref ∈ x.schemaLeaves ∧
          Document.refTarget ref = dep ∧ doc.sentinelKind (.text dep) = none) ∧
        (dep ∈ m.deps →
          (∃ m' ∈ g.declarations, m'.name = ofName dep ∧ ofName dep ∈ m'.exports) ∨
            ∃ err, (.text dep, err) ∈ g.failures) := by
  obtain ⟨⟨n, x⟩, hx, hdeclare⟩ := (outcomes_of_run hg).exists_declare hm
  obtain ⟨name, s, rfl, hs, hdeclares⟩ := exists_declares_of_declare hdeclare
  have htraces := Synthesis.traces_ofSchema hs
  refine ⟨name, x, s, hx, hs, hdeclares, fun dep hdep hne => ⟨?_, ?_⟩, fun dep hshared => ?_⟩
  · have hline := hdeclares.imports hdep hne
    rw [Emitter.importLine_eq] at hline
    exact hline
  · exact fun hunknown => Emitter.moduleFor_of_not_mem hunknown
  · have hreferred := fun hdep =>
      exists_reference_of_origin (htraces.origin (hdeclares.deps_eq ▸ hdep)) hshared
    refine ⟨⟨hreferred, ?_⟩, fun hdep => exported_or_failed hg (hreferred hdep).1⟩
    rintro ⟨-, ref, href, rfl, hk⟩
    rw [hdeclares.deps_eq]
    exact htraces.mem_deps href hk

/-- A list of boxes, and boxes that have no type. -/
def emptyBoxes : Document :=
  ⟨[(.text "Shelf", { Definition.blank with
      type := some "array", items := some (Synthesis.pointer "Box") }),
    (.text "Box", .blank)]⟩

/-- The list as it is written: with an import of boxes. -/
def shelfModule : Module :=
  { name := "Shelf"
    filename := "Shelf.py"
    source :=
      "\"\"\"Auto-generated file. Do not change.\"\"\"\n\n" ++
        "from __future__ import annotations\n\n" ++
        "from typing import TYPE_CHECKING, TypeAlias\n\nif TYPE_CHECKING:\n" ++
        "    from .Box import Box\n\n\n" ++
        "Shelf: TypeAlias = \"list[Box]\"\n"
    exports := ["Shelf"]
    deps := ["Box"] }

theorem exists_run_emptyBoxes :
    ∃ g, (run emptyBoxes { keepGoing := true } []).result = .ok g ∧
      g.declarations = [shelfModule] ∧ g.failures.map Prod.fst = [.text "Box"] := by
  obtain ⟨g, hg⟩ : ∃ g, (run emptyBoxes { keepGoing := true } []).result = .ok g := ⟨_, rfl⟩
  refine ⟨g, hg, ?_, ?_⟩
  · have h : (run emptyBoxes { keepGoing := true } []).result.toOption.map Generation.declarations =
        some [shelfModule] := by decide +kernel
    rw [hg] at h
    exact Option.some.inj h
  · cases hg
    rfl

theorem import_present_or_skipped_boxes :
    ∃ g, (run emptyBoxes { keepGoing := true } []).result = .ok g ∧ shelfModule ∈ g.declarations ∧
      shelfModule.Imports .python (Python.importLine "Box" ".Box") ∧
      ∃ err, (.text "Box", err) ∈ g.failures := by
  obtain ⟨g, hg, hmodules, -⟩ := exists_run_emptyBoxes
  have hm : shelfModule ∈ g.declarations := hmodules ▸ List.mem_cons_self
  obtain ⟨name, x, s, -, -, hdeclares, himports, hdeps⟩ :=
    import_present_or_skipped emptyBoxes { keepGoing := true } [] g hg shelfModule hm
  have hne : "Box" ≠ name := by
    rintro rfl
    exact absurd hdeclares.name_eq (by decide)
  have hdep : "Box" ∈ shelfModule.deps := List.mem_cons_self
  obtain ⟨hline, hsibling⟩ := himports "Box" hdep hne
  rw [hsibling (by decide)] at hline
  obtain ⟨m, hm', hname, -⟩ | herr := (hdeps "Box" (by decide)).2 hdep
  · rw [hmodules, List.mem_singleton] at hm'
    rw [hm'] at hname
    exact absurd hname (by decide)
  · have hself : ofName "Box" = "Box" := by decide
    rw [hself] at hline
    exact ⟨g, hg, hm, hline, herr⟩

/-- Boxes have an error and no module, and the list is written all the same and imports them. -/
theorem import_of_skipped_boxes :
    ∃ g, (run emptyBoxes { keepGoing := true } []).result = .ok g ∧
      g.failures.map Prod.fst = [.text "Box"] ∧ shelfModule ∈ g.declarations ∧
      shelfModule.Imports .python
        (Python.importLine (ofName "Box") (Target.python.sibling (ofName "Box"))) ∧
      ∀ m ∈ g.modules, m.name ≠ ofName "Box" := by
  obtain ⟨g, hg, hmodules, hfailures⟩ := exists_run_emptyBoxes
  have himports : shelfModule.Imports .python (Python.importLine "Box" ".Box") :=
    ⟨Emitter.pythonOpening "Auto-generated file. Do not change." ["TYPE_CHECKING", "TypeAlias"],
      [Python.importLine "Box" ".Box"], ["", "", "Shelf: TypeAlias = \"list[Box]\""],
      by decide +kernel, List.mem_cons_self⟩
  have hself : ofName "Box" = "Box" := by decide
  rw [hself]
  refine ⟨g, hg, hfailures, hmodules ▸ List.mem_cons_self, himports, ?_⟩
  have hnames : g.modules.map Module.name = ["Shelf", "TypeRegistry", "__init__"] := by
    cases hg
    rfl
  intro m hm hname
  have hmem : "Box" ∈ g.modules.map Module.name := hname ▸ List.mem_map_of_mem hm
  rw [hnames] at hmem
  exact absurd hmem (by decide)

end SchemaDecl.Generation
