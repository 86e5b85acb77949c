import SchemaDecl.TypeExpr
import SchemaDecl.Identifier
import SchemaDecl.Failure
import SchemaDecl.Text.Blank

/-! The languages that declarations are written in, and what both have in common: names of modules,
where shared types come from, literals, and the documentation of a declaration. -/

namespace SchemaDecl

inductive Target where
  | python
  | typescript
  deriving DecidableEq, Repr

namespace Target

def word : Target → String
  | .python => "python"
  | .typescript => "typescript"

def ofWord? (s : String) : Option Target :=
  [Target.python, .typescript].find? fun t => t.word == s

/-- The target with this name. -/
def ofWord (s : String) : Except Failure Target :=
  match ofWord? s with
  | some t => .ok t
  | none => .error (.unknownTarget s)

def extension : Target → String
  | .python => ".py"
  | .typescript => ".ts"

/-- The name of the module that exports all others. -/
def indexName : Target → String
  | .python => "__init__"
  | .typescript => "index"

def filename (t : Target) (symbol : String) : String :=
  symbol ++ t.extension

/-- The path of a module that lies beside the importing one. -/
def sibling (t : Target) (symbol : String) : String :=
  match t with
  | .python => "." ++ symbol
  | .typescript => "./" ++ symbol

/-- The modules that shared types are imported from. -/
def sharedModules : Target → List (String × String)
  | .python =>
    [("ApiObjectRef", "schemagen.runtime.refs"), ("ApiCollectionRef", "schemagen.runtime.refs"),
      ("TypedApiObject", "schemagen.runtime.refs"), ("Option", "schemagen.runtime.refs"),
      ("ResolvableObject", "schemagen.runtime.link"),
      ("ResolvableCollection", "schemagen.runtime.link"),
      ("ResolvablePage", "schemagen.runtime.link"), ("link_object", "schemagen.runtime.link"),
      ("link_collection", "schemagen.runtime.link"), ("link_page", "schemagen.runtime.link"),
      ("to_date_or_none", "schemagen.runtime.dates"), ("TypeRegistry", ".TypeRegistry")]
  | .typescript =>
    [("ApiObjectRef", "../types/ApiObjectRef"), ("ApiCollectionRef", "../types/ApiCollectionRef"),
      ("TypedApiObject", "../types/TypedApiObject"), ("Option", "fp-ts/lib/Option"),
      ("ResolvableObject", "../types/Link"), ("ResolvableCollection", "../types/Link"),
      ("ResolvablePage", "../types/Link"), ("linkObject", "../types/Link"),
      ("linkCollection", "../types/Link"), ("linkPage", "../types/Link"),
      ("toDateOrUndefined", "../transformer/toDate"), ("TypeRegistry", "./TypeRegistry")]

/-- The words before the example of a declaration. -/
def sampleTag : Target → String
  | .python => "Example:"
  | .typescript => "@example"

/-- The documentation lines of a declaration: its description without the blanks around it, and its
example. -/
def declarationDoc (t : Target) (description : Option String) (sample : Value) :
    Except Json.WriteError (List String) := do
  let lines := Text.lines (Text.trim (description.getD ""))
  if sample.isNull then .ok lines
  else
    let encoded ← Json.write .example sample
    .ok (lines ++ (if lines.isEmpty then [] else [""]) ++ [t.sampleTag ++ " " ++ encoded])

end Target

/-- A text as a literal of either language. -/
def literal (s : String) : String :=
  Text.quote s

def deprecationNote : String := "Do not use! This field is deprecated."

/-- The lines of a text that is there and not empty. -/
def linesOf (s : Option String) : List String :=
  Text.lines (s.getD "")

/-- A line of its own for a part that is there and not empty. -/
def labelled (label : String) (s : Option String) : List String :=
  match s with
  | some s => if s == "" then [] else [label ++ s]
  | none => []

end SchemaDecl
