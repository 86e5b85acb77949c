import SchemaDecl.Emission
import SchemaDecl.Proofs.FirstSeen
import SchemaDecl.Proofs.Returns

/-! What a declaration module is made of, and its imports. Each dependency but the declaration itself has
a line that imports its symbol from the module that is known for it, or else from its sibling. -/

namespace SchemaDecl

namespace Target

/-- The line that imports a symbol from a module. -/
def importLine (t : Target) (symbol path : String) : String :=
  match t with
  | .python => Python.importLine symbol path
  | .typescript => TypeScript.importLine symbol path

/-- The lines with which a module imports. In Python they are read by checkers alone. -/
def importBlock (t : Target) (imports : List String) : List String :=
  match t with
  | .python =>
    if imports.isEmpty then [] else ["", "if TYPE_CHECKING:"] ++ imports.map ("    " ++ ·)
  | .typescript => imports

end Target

/-- The module has the line among those with which it imports. -/
def Module.Imports (m : Module) (t : Target) (line : String) : Prop :=
  ∃ before imports after, m.source = Emitter.unlines (before ++ t.importBlock imports ++ after) ∧
    line ∈ imports

namespace Emitter

open Identifier (ofName)

variable {e : Emitter}

/-! ### The module that a symbol comes from -/

theorem importLine_eq (e : Emitter) (dep : String) :
    e.importLine dep = e.target.importLine (ofName dep) (e.moduleFor dep) := by
  unfold importLine Target.importLine
  cases e.target <;> rfl

theorem lookup_eq_none {table : List (String × String)} {symbol : String}
    (h : symbol ∉ table.map Prod.fst) : table.lookup symbol = none := by
  rw [List.lookup_eq_none_iff]
  intro p hp
  have hne : symbol ≠ p.1 := by
    rintro rfl
    exact h (List.mem_map_of_mem hp)
  simpa using hne

/-- A symbol that nothing is known of comes from its sibling. -/
theorem moduleFor_of_not_mem {symbol : String}
    (h : symbol ∉ (e.known ++ e.target.sharedModules).map Prod.fst) :
    e.moduleFor symbol = e.target.sibling (ofName symbol) := by
  unfold moduleFor
  rw [lookup_eq_none h]
  rfl

/-- Without further knowledge only shared types do not come from their siblings. -/
theorem moduleFor_of_known_eq_nil (h : e.known = []) (symbol : String) :
    e.moduleFor symbol =
      (e.target.sharedModules.lookup symbol).getD (e.target.sibling (ofName symbol)) := by
  have hpaths : ∀ t : Target, ∀ p ∈ t.sharedModules, p.2 ≠ "" := by
    intro t
    cases t <;> decide
  unfold moduleFor
  rw [h, List.nil_append]
  cases hl : e.target.sharedModules.lookup symbol with
  | none => rfl
  | some path =>
    obtain ⟨_, _, hsplit, -⟩ := List.lookup_eq_some_iff.1 hl
    have hne : path ≠ "" := hpaths e.target (symbol, path) (by simp [hsplit])
    have hsome : nonempty (some path) = some path := by simp [nonempty, hne]
    rw [hsome]
    rfl

/-! ### Import lines -/

theorem mem_importLines {deps : List String} {self line : String} :
    line ∈ e.importLines deps (some (.text self)) ↔
      ∃ dep ∈ deps, dep ≠ self ∧ line = e.importLine dep := by
  have hself : ∀ dep, (!(some (Name.text self)).any fun n => n.isText dep) = true ↔ dep ≠ self := by
    intro dep
    rw [Option.any_some, Name.isText, Bool.not_eq_true', beq_eq_false_iff_ne]
    exact ne_comm
  simp only [importLines, List.mem_map, List.mem_filter, mem_firstSeen, hself]
  constructor
  · rintro ⟨dep, ⟨hd, hne⟩, rfl⟩
    exact ⟨dep, hd, hne, rfl⟩
  · rintro ⟨dep, hd, hne, rfl⟩
    exact ⟨dep, ⟨hd, hne⟩, rfl⟩

/-! ### Declaration modules -/

/-- The head of a module in Python up to the imports of other modules. -/
def pythonOpening (header : String) (typing : List String) : List String :=
  [banner header, "", "from __future__ import annotations", ""] ++
    if typing.isEmpty then [] else ["from typing import " ++ Python.commaSeparated typing]

theorem pythonHead_eq (header : String) (typing imports : List String) :
    pythonHead header typing imports =
      pythonOpening header typing ++ Target.python.importBlock imports ++ ["", ""] := rfl

/-- The lines of a declaration module. -/
def declarationLines (e : Emitter) (symbol : String) (imports docs : List String) (s : Synthesis) :
    List String :=
  match e.target with
  | .python =>
    pythonHead e.header (Python.Typing.names (pythonTyping (!imports.isEmpty) s.type)) imports ++
      pythonDeclaration symbol docs s
  | .typescript => comment e.header ++ imports ++ typescriptDeclaration symbol docs s.type

/-- What the module of a definition says of it. -/
structure Declares (e : Emitter) (name : String) (s : Synthesis) (m : Module) : Prop where
  name_eq : m.name = ofName name
  filename_eq : m.filename = e.target.filename (ofName name)
  exports_eq : m.exports =
    if s.type.isRecord then [ofName name, liftName e.target (ofName name)] else [ofName name]
  deps_eq : m.deps = s.deps
  exists_source : ∃ docs, m.source =
    unlines (e.declarationLines (ofName name) (e.importLines s.deps (some (.text name))) docs s)

theorem declares_of_declaration {name : String} {x : Definition} {s : Synthesis} {m : Module}
    (h : e.declaration (.text name) x s = .ok m) : e.Declares name s m := by
  rw [declaration] at h
  obtain ⟨docs, -, h⟩ := bind_eq_ok h
  cases h
  exact ⟨rfl, rfl, rfl, rfl, docs, rfl⟩

/-- A module exports its own symbol. -/
theorem Declares.mem_exports {name : String} {s : Synthesis} {m : Module} (h : e.Declares name s m) :
    ofName name ∈ m.exports := by
  rw [h.exports_eq]
  split <;> exact List.mem_cons_self

theorem exists_importBlock (e : Emitter) (symbol : String) (imports docs : List String)
    (s : Synthesis) : ∃ before after,
      e.declarationLines symbol imports docs s = before ++ e.target.importBlock imports ++ after := by
  unfold declarationLines
  cases e.target with
  | python =>
    dsimp only
    rw [pythonHead_eq, List.append_assoc]
    exact ⟨_, _, rfl⟩
  | typescript => exact ⟨comment e.header, _, rfl⟩

/-- Each dependency but the declaration itself is imported. -/
theorem Declares.imports {name : String} {s : Synthesis} {m : Module} (h : e.Declares name s m)
    {dep : String} (hd : dep ∈ m.deps) (hne : dep ≠ name) :
    m.Imports e.target (e.importLine dep) := by
  obtain ⟨docs, hsource⟩ := h.exists_source
  obtain ⟨before, after, hblock⟩ := e.exists_importBlock (ofName name)
    (e.importLines s.deps (some (.text name))) docs s
  rw [hblock] at hsource
  exact ⟨before, _, after, hsource, mem_importLines.2 ⟨dep, h.deps_eq ▸ hd, hne, rfl⟩⟩

/-- An emitter for Python that knows of no further modules. -/
def pythonEmitter : Emitter :=
  { target := .python, known := [], header := "Generated." }

end Emitter

end SchemaDecl
