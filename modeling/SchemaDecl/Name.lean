import SchemaDecl.Value.Display
import SchemaDecl.Identifier

/-! The name of a definition. It is a text, except that a YAML document can name a definition by a
number, a date or another scalar; such a name can be shown but has no identifier. -/

namespace SchemaDecl

inductive Name where
  | text (s : String)
  | other (v : Value)
  deriving Inhabited, Repr

namespace Name

def ofValue : Value → Name
  | .text s => .text s
  | v => .other v

def toValue : Name → Value
  | .text s => .text s
  | .other v => v

/-- The name as messages show it. -/
def display : Name → String
  | .text s => s
  | .other v => v.display

/-- An empty name counts as none in messages. -/
def isTruthy (n : Name) : Bool :=
  n.toValue.isTruthy

def same (a b : Name) : Bool :=
  Value.sameScalar a.toValue b.toValue

def isText (s : String) : Name → Bool
  | .text t => t == s
  | .other _ => false

def identifier? : Name → Option String
  | .text s => some (Identifier.ofName s)
  | .other _ => none

@[simp] theorem identifier?_text (s : String) :
    (Name.text s).identifier? = some (Identifier.ofName s) := rfl

end Name

end SchemaDecl
