import SchemaDecl.Registry
import SchemaDecl.Report
import SchemaDecl.Synthesis

/-! A listing of the definitions of a document. Each has a row with its name, the kind of declaration
that it makes, its discriminant and what it depends on; a definition at fault is listed with its
error. -/

namespace SchemaDecl.Inspection

/-- The kind of declaration that a definition makes. -/
def kindOf (d : Document) (name : Name) (x : Definition) : String :=
  if (d.sentinelKind name).isSome then "sentinel"
  else if x.isObject then "record"
  else if x.enum.isSome then "enum"
  else if x.oneOf.isSome then "union"
  else "alias"

structure Row where
  name : Name
  kind : String
  discriminant : String
  dependencies : String
  deriving Repr

/-- What stands in a cell for nothing. -/
def blank (s : String) : String :=
  if s == "" then "-" else s

def row (d : Document) (r : Registry) (name : Name) (x : Definition) : Except Fault Row :=
  let discriminant := blank ((d.discriminantOf name).getD "")
  match Synthesis.ofSchema d (some r) name x with
  | .ok s => .ok ⟨name, kindOf d name x, discriminant, blank (", ".intercalate s.deps)⟩
  | .error (.schema e) => .ok ⟨name, "invalid", discriminant, e.message⟩
  | .error f => .error f.toFault

def rowsOf (d : Document) (r : Registry) : List (Name × Definition) → Except Fault (List Row)
  | [] => .ok []
  | (name, x) :: rest => do
    let first ← row d r name x
    let others ← rowsOf d r rest
    return first :: others

/-- The rows of a document, in its order. -/
def rows (d : Document) : Run (List Row) := do
  let r ← Registry.build d []
  Run.ofExcept (rowsOf d r d.entries)

def headers : List String := ["Name", "Kind", "Discriminant", "Dependencies"]

def Row.cells (r : Row) : List Value :=
  [r.name.toValue, .text r.kind, .text r.discriminant, .text r.dependencies]

end SchemaDecl.Inspection
