import SchemaDecl.Target
import SchemaDecl.Text.Identifier

/-! Type expressions in Python: typed dictionaries, literals, unions and lists. -/

namespace SchemaDecl.Python

/-- What a module may need from the typing library, in alphabetical order. -/
inductive Typing where
  | any
  | literal
  | notRequired
  | typeChecking
  | typeAlias
  | typedDict
  | union
  deriving DecidableEq, Repr

def Typing.all : List Typing :=
  [.any, .literal, .notRequired, .typeChecking, .typeAlias, .typedDict, .union]

def Typing.name : Typing → String
  | .any => "Any"
  | .literal => "Literal"
  | .notRequired => "NotRequired"
  | .typeChecking => "TYPE_CHECKING"
  | .typeAlias => "TypeAlias"
  | .typedDict => "TypedDict"
  | .union => "Union"

/-- The names in alphabetical order, each once. -/
def Typing.names (used : List Typing) : List String :=
  (Typing.all.filter used.contains).map Typing.name

def primitive : Primitive → String
  | .number => "int"
  | .string => "str"
  | .boolean => "bool"

def commaSeparated (parts : List String) : String :=
  ", ".intercalate parts

/-- The text of a union whose members have these texts. -/
def unionText (parts : List String) : String :=
  match firstSeen parts with
  | [p] => p
  | ps => "Union[" ++ commaSeparated ps ++ "]"

mutual

/-- The text of a type. A record inside another type has no name and is any dictionary. -/
def typeText : TypeExpr → String
  | .reference n none => Identifier.ofName n
  | .reference n (some m) => "Literal[" ++ Identifier.ofName n ++ "." ++ m ++ "]"
  | .union ms => unionText (typeTexts ms)
  | .sequence t => "list[" ++ typeText t ++ "]"
  | .record _ => "dict[str, Any]"
  | .literals vs => "Literal[" ++ commaSeparated (vs.map SchemaDecl.literal) ++ "]"
  | .primitive p => primitive p

def typeTexts : List TypeExpr → List String
  | [] => []
  | t :: rest => typeText t :: typeTexts rest

end

mutual

/-- What the text of a type needs from the typing library. -/
def typingUsed : TypeExpr → List Typing
  | .reference _ none => []
  | .reference _ (some _) => [.literal]
  | .union ms =>
    typingUsedAll ms ++ (if 1 < (firstSeen (typeTexts ms)).length then [.union] else [])
  | .sequence t => typingUsed t
  | .record _ => [.any]
  | .literals _ => [.literal]
  | .primitive _ => []

def typingUsedAll : List TypeExpr → List Typing
  | [] => []
  | t :: rest => typingUsed t ++ typingUsedAll rest

end

/-- Whether a field can be declared by its bare name: an identifier that is no reserved word, and that
a class body would not change for being private. -/
def isFieldName (name : String) : Bool :=
  let s := name.toList
  let isPrivate := ['_', '_'].isPrefixOf s && !(['_', '_'].isSuffixOf s)
  !isPrivate && Text.isIdentifier name && !isReserved name

def fieldAnnotation (t : TypeExpr) (required : Bool) : String :=
  if required then typeText t else "NotRequired[" ++ typeText t ++ "]"

/-- The documentation lines of a field. -/
def fieldDoc (d : FieldDoc) : List String :=
  linesOf d.description ++
    (if d.deprecated then ["Deprecated: " ++ deprecationNote] else []) ++
    labelled "JSON-schema: " d.jsonSchema ++
    (match d.sample with
    | some s => ["Example: " ++ s]
    | none => [])

def importLine (symbol module : String) : String :=
  "from " ++ module ++ " import " ++ symbol

end SchemaDecl.Python
