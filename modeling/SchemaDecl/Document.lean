import SchemaDecl.Failure
import SchemaDecl.Definition.Circle

/-! A schema document: definitions by name, in the order in which they were written. References are
looked up by name and never followed when a document is built, so definitions may refer to each other
in circles. -/

namespace SchemaDecl

structure Document where
  entries : List (Name × Definition)
  deriving Inhabited, Repr

namespace Document

/-! ### Look-up -/

def names (d : Document) : List Name :=
  d.entries.map Prod.fst

def get? (d : Document) (name : Name) : Option Definition :=
  (d.entries.find? fun e => e.1.same name).map Prod.snd

/-- The definition with a text for a name. -/
def getText? (d : Document) (name : String) : Option Definition :=
  (d.entries.find? fun e => e.1.isText name).map Prod.snd

/-- What a reference may write in front of a name. -/
def refStarts : List String :=
  ["#/components/schemas/", "#/definitions/"]

/-- The text behind a beginning. -/
def dropStart? (start s : String) : Option String :=
  if start.toList.isPrefixOf s.toList then some (String.ofList (s.toList.drop start.length)) else none

/-- The name that a reference names. -/
def refTarget (ref : String) : String :=
  (refStarts.findSome? fun start => dropStart? start ref).getD ref

/-- The name and the definition that a reference stands for. -/
def resolve (d : Document) (ref : String) (referrer : Option Name) :
    Except SchemaError (String × Definition) :=
  let name := refTarget ref
  match d.getText? name with
  | some x => .ok (name, x)
  | none => .error (.unresolved name referrer)

def discriminantOf (d : Document) (name : Name) : Option String :=
  (d.get? name).bind Definition.discriminant

/-- The discriminants of references to objects and collections, with the types that stand for all of
them. -/
def sentinels : List (String × String) :=
  [("/api/refs/object", "ApiObjectRef"), ("/api/refs/collection", "ApiCollectionRef")]

/-- The type that takes the place of references to a definition. -/
def sentinelKind (d : Document) (name : Name) : Option String :=
  (d.discriminantOf name).bind fun tag => sentinels.lookup tag

/-! ### Reading -/

/-- The names and definitions of a mapping, up to the first one that is invalid. -/
def decodeEntries : List (Value × Value) → Except Fault (List (Name × Definition))
  | [] => .ok []
  | (k, v) :: rest =>
    match Definition.decode v with
    | .error issues =>
      .error (.failure (.document (.invalidDefinition (Name.ofValue k) issues)))
    | .ok x => (decodeEntries rest).map fun es => (Name.ofValue k, x) :: es

/-- Whether a text occurs inside another one. -/
def occursIn (needle : List Char) : List Char → Bool
  | [] => needle.isEmpty
  | c :: s => needle.isPrefixOf (c :: s) || occursIn needle s

/-- Whether data says of itself that definitions lie deeper in it, by one of the two words that full
descriptions of an interface begin with. -/
def isWrapped (v : Value) : Except Fault Bool :=
  let words := ["components", "openapi"]
  match v with
  | .map entries => .ok (words.any fun w => (Value.fieldOf w entries).isSome)
  | .list items => .ok (words.any fun w => items.any (Value.sameScalar (.text w)))
  | .set items => .ok (words.any fun w => items.any (Value.sameScalar (.text w)))
  | .text s => .ok (words.any fun w => occursIn w.toList s.toList)
  | _ => .error .wrongType

/-- A value, or an empty mapping where there is none to speak of. -/
def orEmpty (v : Option Value) : Value :=
  match v with
  | some v => if v.isTruthy then v else .map []
  | none => .map []

/-- The part of the data that holds the definitions. -/
def section? (v : Value) : Except Fault Value := do
  if ← isWrapped v then
    match v with
    | .map entries =>
      match orEmpty (Value.fieldOf "components" entries) with
      | .map inner => .ok (orEmpty (Value.fieldOf "schemas" inner))
      | _ => .error .noMember
    | _ => .error .noMember
  else .ok v

/-- The document in decoded data: a mapping of names to definitions, or a description of an interface
that holds such a mapping. -/
def ofValue (v : Value) : Except Fault Document := do
  match ← section? (Definition.unrolledDocument v) with
  | .map entries => .ok ⟨← decodeEntries entries⟩
  | v => .error (.failure (.document (.sectionNotObject v)))

end Document

end SchemaDecl
