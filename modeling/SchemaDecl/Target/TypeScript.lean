import SchemaDecl.Target
import SchemaDecl.Text.Identifier

/-! Type expressions in TypeScript: object types with read-only fields, unions of literals and
arrays. -/

namespace SchemaDecl.TypeScript

def primitive : Primitive → String
  | .number => "number"
  | .string => "string"
  | .boolean => "boolean"

/-- Whether the text of a type would fall apart in front of the brackets of an array. -/
def isCompound : TypeExpr → Bool
  | .union ms => 1 < ms.length
  | .literals vs => 1 < vs.length
  | _ => false

def barSeparated (parts : List String) : String :=
  " | ".intercalate parts

/-- The documentation lines of a field: its description, and behind an empty line the rest. -/
def fieldDoc (d : FieldDoc) : List String :=
  let lines :=
    if d.description.getD "" == "" then []
    else linesOf d.description ++ (if d.deprecated then ["@deprecated " ++ deprecationNote] else [])
  let details := labelled "JSON-schema: " d.jsonSchema ++
    (match d.sample with
    | some s => ["@example " ++ s]
    | none => [])
  lines ++ (if lines.isEmpty || details.isEmpty then [] else [""]) ++ details

def tabs (n : Nat) : String :=
  String.ofList (List.replicate n '\t')

/-- A line behind the star of a comment. -/
def starred (line : String) : String :=
  " *" ++ (if line.isEmpty then "" else " " ++ line)

/-- The comment of a field, one text per line. -/
def commentLines (pad : String) (doc : List String) : List String :=
  if doc.isEmpty then []
  else (pad ++ "/**") :: doc.map (fun line => pad ++ starred line) ++ [pad ++ " */"]

/-- A field name, quoted unless it is an identifier. -/
def fieldName (name : String) : String :=
  if Text.isIdentifier name then name else SchemaDecl.literal name

mutual

/-- The text of a type that stands at a depth of indentation. -/
def typeText (indent : Nat) : TypeExpr → String
  | .reference n none => Identifier.ofName n
  | .reference n (some m) => Identifier.ofName n ++ "." ++ m
  | .union ms => barSeparated (firstSeen (typeTexts indent ms))
  | .sequence t =>
    let item := typeText indent t
    (if isCompound t then "(" ++ item ++ ")" else item) ++ "[]"
  | .record [] => "object"
  | .record (f :: fs) =>
    "\n".intercalate ("\x7b" :: fieldLines (indent + 1) (f :: fs) ++ [tabs indent ++ "\x7d"])
  | .literals vs => barSeparated (vs.map SchemaDecl.literal)
  | .primitive p => primitive p

def typeTexts (indent : Nat) : List TypeExpr → List String
  | [] => []
  | t :: rest => typeText indent t :: typeTexts indent rest

/-- The lines of the fields of a record, each behind its comment. -/
def fieldLines (indent : Nat) : List Field → List String
  | [] => []
  | .mk name type required doc :: rest =>
    commentLines (tabs indent) (fieldDoc doc) ++
      (tabs indent ++ "readonly " ++ fieldName name ++ (if required then "" else "?") ++ ": " ++
        typeText indent type) :: fieldLines indent rest

end

def importLine (symbol module : String) : String :=
  "import \x7b " ++ symbol ++ " \x7d from '" ++ module ++ "'"

end SchemaDecl.TypeScript
