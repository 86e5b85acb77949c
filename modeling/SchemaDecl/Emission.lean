import SchemaDecl.Synthesis
import SchemaDecl.Target.Python
import SchemaDecl.Target.TypeScript

/-! The text of generated modules: one for each declaration, one for the registry, and an index that
exports them all. A module is laid out line by line: a banner, imports, documentation, the declaration
and, for records, a function that lifts an object as it was received. -/

namespace SchemaDecl

/-- A generated module. -/
structure Module where
  name : String
  filename : String
  source : String
  exports : List String
  deps : List String
  deriving DecidableEq, Repr

/-- How modules are written: the language, the modules that types are imported from where they differ
from the usual ones, and the banner. -/
structure Emitter where
  target : Target
  known : List (String × String)
  header : String

namespace Emitter

/-- A text of lines, each with its end. -/
def unlines (ls : List String) : String :=
  String.join (ls.map fun l => l ++ "\n")

/-! ### Imports -/

/-- The module that a type is imported from: the one that is known for it, or else its sibling. -/
def moduleFor (e : Emitter) (symbol : String) : String :=
  match nonempty ((e.known ++ e.target.sharedModules).lookup symbol) with
  | some m => m
  | none => e.target.sibling (Identifier.ofName symbol)

def importLine (e : Emitter) (dep : String) : String :=
  let symbol := Identifier.ofName dep
  match e.target with
  | .python => Python.importLine symbol (e.moduleFor dep)
  | .typescript => TypeScript.importLine symbol (e.moduleFor dep)

/-- A line for each dependency but the declaration itself. -/
def importLines (e : Emitter) (deps : List String) (self : Option Name) : List String :=
  ((firstSeen deps).filter fun d => !(self.any fun n => n.isText d)).map e.importLine

/-! ### Python -/

/-- Text inside a documentation string. -/
def escapeDoc : List Char → List Char
  | '"' :: '"' :: '"' :: rest => '\\' :: '"' :: '\\' :: '"' :: '\\' :: '"' :: escapeDoc rest
  | '\\' :: rest => '\\' :: '\\' :: escapeDoc rest
  | c :: rest => c :: escapeDoc rest
  | [] => []

/-- The lines as a documentation string, the second and later ones behind `indent` blanks. -/
def docstringAt (indent : Nat) (ls : List String) : String :=
  let pad := String.ofList (List.replicate indent ' ')
  match ls.map fun l => String.ofList (escapeDoc l.toList) with
  | [] => "\"\"\"\"\"\""
  | [l] => "\"\"\"" ++ l ++ "\"\"\""
  | l :: rest =>
    "\"\"\"" ++ l ++ "\n" ++ "\n".intercalate (rest.map fun l => if l.isEmpty then "" else pad ++ l) ++
      "\n" ++ pad ++ "\"\"\""

/-- The documentation string of a class. -/
def docstring (ls : List String) : String :=
  docstringAt 4 ls

/-- A line of a comment that documents what follows. -/
def remark (line : String) : String :=
  "#:" ++ (if line.isEmpty then "" else " " ++ line)

def banner (header : String) : String :=
  "\"\"\"" ++ header ++ "\"\"\""

/-- The head of a declaration module: banner and imports. -/
def pythonHead (header : String) (typing imports : List String) : List String :=
  [banner header, "", "from __future__ import annotations", ""] ++
    (if typing.isEmpty then [] else ["from typing import " ++ Python.commaSeparated typing]) ++
    (if imports.isEmpty then [] else ["", "if TYPE_CHECKING:"] ++ imports.map ("    " ++ ·)) ++
    ["", ""]

/-- A record as a class. -/
def pythonClass (symbol : String) (doc : List String) (fields : List Field) : List String :=
  ("class " ++ symbol ++ "(TypedDict):") ::
    (if doc.isEmpty then (if fields.isEmpty then ["    pass"] else [])
     else ("    " ++ docstring doc) :: (if fields.isEmpty then [] else [""])) ++
    fields.flatMap fun f =>
      (Python.fieldDoc f.doc).map (fun line => "    " ++ remark line) ++
        ["    " ++ f.name ++ ": " ++ Python.fieldAnnotation f.type f.required]

/-- A record as a call, for field names that a class cannot declare. -/
def pythonCall (symbol : String) (doc : List String) (fields : List Field) : List String :=
  doc.map remark ++
    [symbol ++ " = TypedDict(", "    " ++ literal symbol ++ ",", "    \x7b"] ++
    (fields.map fun f =>
      "        " ++ literal f.name ++ ": " ++ literal (Python.fieldAnnotation f.type f.required) ++ ",") ++
    ["    \x7d,", ")"]

def pythonLift (symbol : String) : List String :=
  ["", "", "def lift_" ++ symbol ++ "(original: " ++ symbol ++ ") -> " ++ symbol ++ ":",
    "    \"\"\"Lift a wire object into the domain type; the seam for derived fields.\"\"\"",
    "    return original"]

/-- What the declaration of a type needs from the typing library. -/
def pythonTyping (hasImports : Bool) : TypeExpr → List Python.Typing
  | .record fields =>
    (if hasImports then [.typeChecking] else []) ++ .typedDict ::
      fields.flatMap fun f =>
        Python.typingUsed f.type ++ (if f.required then [] else [.notRequired])
  | t => (if hasImports then [.typeChecking] else []) ++ .typeAlias :: Python.typingUsed t

/-- The declaration of a type. An alias that mentions imported types is quoted, since they are
imported for checkers alone. -/
def pythonDeclaration (symbol : String) (doc : List String) (s : Synthesis) : List String :=
  match s.type with
  | .record fields =>
    (if fields.all fun f => Python.isFieldName f.name then pythonClass symbol doc fields
     else pythonCall symbol doc fields) ++ pythonLift symbol
  | t =>
    let target := if s.deps.isEmpty then Python.typeText t else literal (Python.typeText t)
    doc.map remark ++ [symbol ++ ": TypeAlias = " ++ target]

/-! ### TypeScript -/

def comment (header : String) : List String :=
  ["/**", " * " ++ header, " */"]

def typescriptLift (symbol : String) : List String :=
  ["/**",
    " * Lifts an object returned from the API into the SDK domain by augmenting it with higher level properties.",
    " */",
    "export const lift" ++ symbol ++ " = (original: " ++ symbol ++ ") => \x7b", "\treturn original", "\x7d"]

def typescriptDeclaration (symbol : String) (doc : List String) (t : TypeExpr) : List String :=
  (if doc.isEmpty then [] else "/**" :: doc.map TypeScript.starred ++ [" */"]) ++
    ["export type " ++ symbol ++ " = " ++ TypeScript.typeText 0 t] ++
    (if t.isRecord then typescriptLift symbol else [])

/-! ### Modules -/

/-- The name of the function that lifts objects of a type. -/
def liftName (target : Target) (symbol : String) : String :=
  match target with
  | .python => "lift_" ++ symbol
  | .typescript => "lift" ++ symbol

/-- The module that declares a definition. -/
def declaration (e : Emitter) (name : Name) (d : Definition) (s : Synthesis) : Except Fault Module := do
  match name.identifier? with
  | none => .error .wrongType
  | some symbol =>
    let imports := e.importLines s.deps (some name)
    let doc ← (e.target.declarationDoc d.notes.description d.notes.sample).mapError Fault.ofWriteError
    let lines :=
      match e.target with
      | .python =>
        pythonHead e.header (Python.Typing.names (pythonTyping (!imports.isEmpty) s.type)) imports ++
          pythonDeclaration symbol doc s
      | .typescript => comment e.header ++ imports ++ typescriptDeclaration symbol doc s.type
    .ok
      { name := symbol
        filename := e.target.filename symbol
        source := unlines lines
        exports := if s.type.isRecord then [symbol, liftName e.target symbol] else [symbol]
        deps := s.deps }

/-- The module of the enumeration of all discriminants. -/
def registry (e : Emitter) (r : Registry) : Module :=
  let member (sep : String) (x : Registry.Entry) : String :=
    x.identifier ++ " = " ++ literal x.discriminant ++ sep
  let lines :=
    match e.target with
    | .python =>
      [banner e.header, "", "from __future__ import annotations", "", "import enum", "", "",
        "class " ++ Registry.symbol ++ "(str, enum.Enum):",
        "    \"\"\"Discriminant (\x60\x60_object\x60\x60) value of every tagged API type.\"\"\""] ++
        (if r.entries.isEmpty then [] else [""]) ++
        r.entries.map fun x => "    " ++ member "" x
    | .typescript =>
      comment e.header ++ ["export enum " ++ Registry.symbol ++ " \x7b"] ++
        (r.entries.map fun x => "\t" ++ member "," x) ++ ["\x7d"]
  { name := Registry.symbol
    filename := e.target.filename Registry.symbol
    source := unlines lines
    exports := [Registry.symbol]
    deps := [] }

/-- The module that exports what the others do, in their order. -/
def index (e : Emitter) (modules : List Module) : Module :=
  let exports := modules.flatMap Module.exports
  let lines :=
    match e.target with
    | .python =>
      [banner e.header, ""] ++
        (modules.map fun m => "from ." ++ m.name ++ " import " ++ Python.commaSeparated m.exports) ++
        ["", "__all__ = ["] ++ (exports.map fun x => "    " ++ literal x ++ ",") ++ ["]"]
    | .typescript =>
      comment e.header ++ modules.map fun m => "export * from './" ++ m.name ++ "'"
  { name := e.target.indexName
    filename := e.target.filename e.target.indexName
    source := unlines lines
    exports := exports
    deps := [] }

end Emitter

end SchemaDecl
