import SchemaDecl.Proofs.Emission.Imports
import SchemaDecl.Proofs.Generation.Outcome
import SchemaDecl.Proofs.Identifier.Shape
import SchemaDecl.Proofs.Synthesis.Dependencies

/-! Imports between the modules of a run. A dependency is a shared type or the name of a definition, and
it is imported from the module of that definition as long as the name is none of the names of shared
types, which come first. -/

namespace SchemaDecl

open Definition (Leaf)
open Identifier (ofName)

namespace Synthesis

variable {doc : Document} {registry : Option Registry}

theorem Traces.origin {leaves : List Leaf} {s : Synthesis} (h : Traces doc registry leaves s)
    {dep : String} (hd : dep ∈ s.deps) : Origin doc leaves dep := by
  rw [h.deps_eq, mem_firstSeen] at hd
  obtain ⟨link, hl, rfl⟩ := List.mem_map.1 hd
  obtain ⟨leaf, hm, hs⟩ := exists_of_forall₂ h.links hl
  exact origin_of_shows hs hm

/-- A reference to a definition that nothing stands for is a dependency. -/
theorem Traces.mem_deps {leaves : List Leaf} {s : Synthesis} (h : Traces doc registry leaves s)
    {ref : String} (hl : .reference ref ∈ leaves)
    (hk : doc.sentinelKind (.text (Document.refTarget ref)) = none) :
    Document.refTarget ref ∈ s.deps := by
  obtain ⟨link, hlink, hs⟩ := h.exists_shows hl
  have hname : link.1 = Document.refTarget ref := by
    cases hs with
    | reference _ => simp only [symbolFor, hk, Option.getD_none]
  rw [h.deps_eq, mem_firstSeen, ← hname]
  exact List.mem_map_of_mem hlink

end Synthesis

namespace Generation

open Registry (Entry)

variable {doc : Document} {settings : Settings} {previous : List Entry} {g : Generation}

/-- The module of a definition declares it, and its dependencies come from the leaves of the
definition. -/
theorem exists_declares (hg : (run doc settings previous).result = .ok g) (ht : doc.Textual)
    (hn : doc.names.Nodup) {name : String} {x : Definition} (hx : (.text name, x) ∈ doc.entries)
    {m : Module} (hm : (.text name, m) ∈ declared doc g) :
    ∃ s, Synthesis.Traces doc (some g.registry) x.schemaLeaves s ∧
      (emitterOf settings).Declares name s m := by
  obtain ⟨s, hs, hmodule⟩ := exists_type_of_declared hg ht hn hx hm
  exact ⟨s, Synthesis.traces_ofSchema hs, Emitter.declares_of_declaration hmodule⟩

/-- What has a module has a text for its name and a type, and this is what the module declares. -/
theorem exists_declares_of_declare {registry : Registry} {e : Emitter} {n : Name} {x : Definition}
    {m : Module} (h : declare doc registry e n x = .ok (.ok m)) :
    ∃ name s, n = .text name ∧ Synthesis.ofSchema doc (some registry) n x = .ok s ∧
      e.Declares name s m := by
  obtain ⟨s, hs, hm⟩ := declare_eq_module.1 h
  cases n with
  | text name => exact ⟨name, s, rfl, hs, Emitter.declares_of_declaration hm⟩
  | other v => cases hm

/-- The types that stand for all references of a kind, and the registry, are known to both languages. -/
theorem shared_mem_sharedModules (t : Target) :
    ∀ symbol ∈ ["TypeRegistry", "ApiObjectRef", "ApiCollectionRef"],
      symbol ∈ t.sharedModules.map Prod.fst := by
  cases t <;> decide

theorem not_shared_of_unknown {dep : String}
    (hunknown : dep ∉ (settings.knownModules ++ settings.target.sharedModules).map Prod.fst) :
    dep ∉ ["TypeRegistry", "ApiObjectRef", "ApiCollectionRef"] := by
  intro hs
  refine hunknown ?_
  rw [List.map_append]
  exact List.mem_append_right _ (shared_mem_sharedModules settings.target dep hs)

/-- What is left of the origins of a dependency is a definition of the document. -/
theorem exists_reference_of_origin {leaves : List Leaf} {dep : String}
    (h : Synthesis.Origin doc leaves dep)
    (hs : dep ∉ ["TypeRegistry", "ApiObjectRef", "ApiCollectionRef"]) :
    .text dep ∈ doc.names ∧ ∃ ref, .reference ref ∈ leaves ∧ Document.refTarget ref = dep ∧
      doc.sentinelKind (.text dep) = none := by
  cases h with
  | registry _ => exact absurd (by decide) hs
  | object _ _ => exact absurd (by decide) hs
  | collection _ _ => exact absurd (by decide) hs
  | @definition ref href hname hk => exact ⟨hname, ref, href, rfl, hk⟩

/-- A run that ends with the first error leaves no import open: a dependency of a declaration, other
than itself, for which no module is known is imported from a module of the run that exports it. -/
theorem import_found (doc : Document) (ht : doc.Textual) (hn : doc.names.Nodup) (settings : Settings)
    (hk : settings.keepGoing = false) (previous : List Entry) (g : Generation)
    (hg : (run doc settings previous).result = .ok g) :
    (declared doc g).map Prod.snd = g.declarations ∧
    ∀ n m dep, (n, m) ∈ declared doc g → dep ∈ m.deps → n ≠ .text dep →
      dep ∉ (settings.knownModules ++ settings.target.sharedModules).map Prod.fst →
      ∃ m' ∈ g.modules,
        m.Imports settings.target
          (settings.target.importLine (ofName dep) (settings.target.sibling m'.name)) ∧
        (emitterOf settings).importLine dep =
          settings.target.importLine (ofName dep) (settings.target.sibling m'.name) ∧
        ofName dep ∈ m'.exports := by
  refine ⟨map_snd_declared hg ht hn, fun n m dep hm hdep hne hunknown => ?_⟩
  obtain ⟨name, x, rfl, hx⟩ := exists_entry_of_declared hg ht hn hm
  obtain ⟨s, htraces, hdeclares⟩ := exists_declares hg ht hn hx hm
  obtain ⟨hname, -⟩ := exists_reference_of_origin (htraces.origin (hdeclares.deps_eq ▸ hdep))
    (not_shared_of_unknown hunknown)
  obtain ⟨m', hm'⟩ := exists_declared hg ht hn hk hname
  obtain ⟨_, x', hname', hx'⟩ := exists_entry_of_declared hg ht hn hm'
  cases hname'
  obtain ⟨s', -, hdeclares'⟩ := exists_declares hg ht hn hx' hm'
  have hline : (emitterOf settings).importLine dep =
      settings.target.importLine (ofName dep) (settings.target.sibling m'.name) := by
    rw [Emitter.importLine_eq, Emitter.moduleFor_of_not_mem hunknown, hdeclares'.name_eq]
    rfl
  have himports := hdeclares.imports hdep fun h => hne (congrArg Name.text h.symm)
  rw [hline] at himports
  exact ⟨m', mem_modules_of_declared hg ht hn hm', himports, hline, hdeclares'.mem_exports⟩

/-- A list of references, and a text that they may be to. -/
def shelf (ref target : String) : Document :=
  ⟨[(.text "Shelf", { Definition.blank with
      type := some "array", items := some (Synthesis.pointer ref) }),
    (.text target, { Definition.blank with type := some "string" })]⟩

theorem textual_shelf (ref target : String) : (shelf ref target).Textual := by
  simp [shelf]

theorem names_shelf (ref target : String) :
    (shelf ref target).names = [.text "Shelf", .text target] := rfl

theorem import_found_shelf :
    ∃ g m, (run (shelf "#/definitions/Big-Box" "Big-Box") {} []).result = .ok g ∧
      m ∈ g.declarations ∧ m.name = "Shelf" ∧ "Big-Box" ∈ m.deps ∧
      ∃ m' ∈ g.modules, m.Imports .python (Python.importLine "Big_Box" ("." ++ m'.name)) ∧
        "Big_Box" ∈ m'.exports := by
  obtain ⟨g, hg⟩ : ∃ g, (run (shelf "#/definitions/Big-Box" "Big-Box") {} []).result = .ok g :=
    ⟨_, rfl⟩
  have ht := textual_shelf "#/definitions/Big-Box" "Big-Box"
  have hn : (shelf "#/definitions/Big-Box" "Big-Box").names.Nodup := by simp [names_shelf]
  have hname : .text "Shelf" ∈ (shelf "#/definitions/Big-Box" "Big-Box").names := by
    simp [names_shelf]
  obtain ⟨m, hm⟩ := exists_declared hg ht hn rfl hname
  obtain ⟨s, htraces, hdeclares⟩ := exists_declares hg ht hn List.mem_cons_self hm
  have hleaf : Leaf.reference "#/definitions/Big-Box" ∈
      Definition.schemaLeaves { Definition.blank with
        type := some "array", items := some (Synthesis.pointer "#/definitions/Big-Box") } := by
    decide
  have hdep : "Big-Box" ∈ m.deps := by
    rw [hdeclares.deps_eq]
    exact htraces.mem_deps hleaf (by decide)
  obtain ⟨hall, himports⟩ := import_found _ ht hn {} rfl [] g hg
  obtain ⟨m', hm', hline, -, hexports⟩ :=
    himports _ m "Big-Box" hm hdep (by simp) (by decide)
  have hself : ofName "Big-Box" = "Big_Box" := by decide
  rw [hself] at hline hexports
  refine ⟨g, m, hg, ?_, ?_, hdep, m', hm', hline, hexports⟩
  · rw [← hall]
    exact List.mem_map_of_mem hm
  · rw [hdeclares.name_eq]
    decide

/-! ### Names of shared types -/

theorem sibling_inj {t : Target} {a b : String} : t.sibling a = t.sibling b ↔ a = b := by
  cases t <;> exact String.append_right_inj _

/-- A sibling has the path of a shared type only if it has the name of the registry. -/
theorem sibling_not_mem_sharedModules (t : Target) {name : String} (h : name ≠ "TypeRegistry") :
    t.sibling (ofName name) ∉ t.sharedModules.map Prod.snd := by
  have hpaths : ∀ p ∈ t.sharedModules,
      p.2 = t.sibling "TypeRegistry" ∨ ¬(t.sibling "").toList <+: p.2.toList := by
    cases t <;> decide
  intro hmem
  obtain ⟨p, hp, he⟩ := List.mem_map.1 hmem
  rcases hpaths p hp with hr | hr
  · rw [he, sibling_inj] at hr
    have hself : ofName name = name := Identifier.ofName_eq_self (by rw [hr]; decide)
    exact h (hself ▸ hr)
  · refine hr ?_
    rw [he]
    cases t <;> exact ⟨(ofName name).toList, by simp [Target.sibling]⟩

/-- A reference from one definition to another, both of which have modules in a run, is imported from
the module that is known for its name, and this is the module of the run exactly if the name is none of
those of shared types. -/
theorem import_sibling_iff (doc : Document) (ht : doc.Textual) (hn : doc.names.Nodup)
    (settings : Settings) (hknown : settings.knownModules = []) (previous : List Entry)
    (g : Generation) (hg : (run doc settings previous).result = .ok g) (n : Name) (x : Definition)
    (hx : (n, x) ∈ doc.entries) (m : Module) (hm : (n, m) ∈ declared doc g) (ref target : String)
    (href : .reference ref ∈ x.schemaLeaves) (htarget : target = Document.refTarget ref)
    (hne : n ≠ .text target) (hk : doc.sentinelKind (.text target) = none) (m' : Module)
    (hm' : (.text target, m') ∈ declared doc g) :
    ∃ path,
      m.Imports settings.target (settings.target.importLine (ofName target) path) ∧
      (emitterOf settings).importLine target = settings.target.importLine (ofName target) path ∧
      path = (settings.target.sharedModules.lookup target).getD (settings.target.sibling m'.name) ∧
      (path = settings.target.sibling m'.name ∧ path ∉ settings.target.sharedModules.map Prod.snd ↔
        target ∉ settings.target.sharedModules.map Prod.fst) := by
  subst htarget
  obtain ⟨name, hname⟩ := ht _ hx
  obtain rfl : n = .text name := hname
  obtain ⟨s, htraces, hdeclares⟩ := exists_declares hg ht hn hx hm
  obtain ⟨_, x', hname', hx'⟩ := exists_entry_of_declared hg ht hn hm'
  cases hname'
  obtain ⟨s', -, hdeclares'⟩ := exists_declares hg ht hn hx' hm'
  have hpath : (emitterOf settings).moduleFor (Document.refTarget ref) =
      (settings.target.sharedModules.lookup (Document.refTarget ref)).getD
        (settings.target.sibling m'.name) := by
    rw [Emitter.moduleFor_of_known_eq_nil hknown, hdeclares'.name_eq]
    rfl
  have hline := Emitter.importLine_eq (emitterOf settings) (Document.refTarget ref)
  have hdep : Document.refTarget ref ∈ m.deps := hdeclares.deps_eq ▸ htraces.mem_deps href hk
  have himports := hdeclares.imports hdep fun h => hne (congrArg Name.text h.symm)
  rw [hline, hpath] at himports
  rw [hpath] at hline
  refine ⟨_, himports, hline, rfl, ?_⟩
  constructor
  · rintro ⟨-, hnot⟩ hmem
    cases hl : settings.target.sharedModules.lookup (Document.refTarget ref) with
    | none =>
      obtain ⟨p, hp, hpn⟩ := List.mem_map.1 hmem
      have hall := List.lookup_eq_none_iff.1 hl p hp
      simp [hpn] at hall
    | some path =>
      obtain ⟨_, _, hsplit, -⟩ := List.lookup_eq_some_iff.1 hl
      rw [hl, Option.getD_some] at hnot
      exact hnot (List.mem_map.2 ⟨(Document.refTarget ref, path), by simp [hsplit], rfl⟩)
  · intro hnot
    rw [Emitter.lookup_eq_none hnot, Option.getD_none]
    refine ⟨rfl, ?_⟩
    rw [hdeclares'.name_eq]
    refine sibling_not_mem_sharedModules settings.target ?_
    intro h
    exact hnot (h ▸ shared_mem_sharedModules settings.target "TypeRegistry" (by decide))

theorem import_sibling_iff_shelf :
    ∃ g m m', (run (shelf "Big-Box" "Big-Box") { target := .typescript } []).result = .ok g ∧
      (.text "Shelf", m) ∈ declared (shelf "Big-Box" "Big-Box") g ∧
      (.text "Big-Box", m') ∈ declared (shelf "Big-Box" "Big-Box") g ∧
      m.Imports .typescript (TypeScript.importLine "Big_Box" ("./" ++ m'.name)) := by
  obtain ⟨g, hg⟩ :
      ∃ g, (run (shelf "Big-Box" "Big-Box") { target := .typescript } []).result = .ok g :=
    ⟨_, rfl⟩
  have ht := textual_shelf "Big-Box" "Big-Box"
  have hn : (shelf "Big-Box" "Big-Box").names.Nodup := by simp [names_shelf]
  have hnames : ∀ n ∈ [Name.text "Shelf", .text "Big-Box"],
      ∃ m, (n, m) ∈ declared (shelf "Big-Box" "Big-Box") g :=
    fun _ h => exists_declared hg ht hn rfl h
  obtain ⟨m, hm⟩ := hnames (.text "Shelf") (by simp)
  obtain ⟨m', hm'⟩ := hnames (.text "Big-Box") (by simp)
  obtain ⟨path, hline, -, rfl, -⟩ := import_sibling_iff _ ht hn { target := .typescript } rfl []
    g hg (.text "Shelf") _ List.mem_cons_self m hm "Big-Box" "Big-Box" (by decide)
    (by decide) (by simp) (by decide +kernel) m' hm'
  have hself : ofName "Big-Box" = "Big_Box" := by decide
  rw [hself] at hline
  exact ⟨g, m, m', hg, hm, hm', hline⟩

/-- The name of a type that Python code shares: the members of the list come from the shared module,
and not from the one that the run has for the definition. -/
theorem import_option_shelf :
    (shelf "Option" "Option").sentinelKind (.text "Option") = none ∧
      (emitterOf {}).importLine "Option" ≠
        Target.python.importLine (ofName "Option") (Target.python.sibling "Option") ∧
      (run (shelf "Option" "Option") {} []).result.toOption.map Generation.declarations = some [
        { name := "Shelf"
          filename := "Shelf.py"
          source :=
            "\"\"\"Auto-generated file. Do not change.\"\"\"\n\n" ++
              "from __future__ import annotations\n\n" ++
              "from typing import TYPE_CHECKING, TypeAlias\n\nif TYPE_CHECKING:\n" ++
              "    from schemagen.runtime.refs import Option\n\n\n" ++
              "Shelf: TypeAlias = \"list[Option]\"\n"
          exports := ["Shelf"]
          deps := ["Option"] },
        { name := "Option"
          filename := "Option.py"
          source :=
            "\"\"\"Auto-generated file. Do not change.\"\"\"\n\n" ++
              "from __future__ import annotations\n\n" ++
              "from typing import TypeAlias\n\n\nOption: TypeAlias = str\n"
          exports := ["Option"]
          deps := [] }] :=
  ⟨by decide, by decide +kernel, by decide +kernel⟩

end Generation

end SchemaDecl
