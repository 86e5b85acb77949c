/-! Type expressions, free of any target language: named types, unions, sequences, records, closed sets
of texts and three primitive types. The documentation of a field is carried along and counts for
nothing when structures are compared. -/

namespace SchemaDecl

inductive Primitive where
  | number
  | string
  | boolean
  deriving DecidableEq, Repr

def Primitive.name : Primitive → String
  | .number => "number"
  | .string => "string"
  | .boolean => "boolean"

def Primitive.ofName? (s : String) : Option Primitive :=
  [Primitive.number, .string, .boolean].find? fun p => p.name == s

/-- What is shown of a field beside its type. -/
structure FieldDoc where
  description : Option String := none
  deprecated : Bool := false
  jsonSchema : Option String := none
  sample : Option String := none
  deriving DecidableEq, Repr

/-- Whether there is anything to show. -/
def FieldDoc.isTruthy (d : FieldDoc) : Bool :=
  [d.description, d.jsonSchema, d.sample].any fun part => (part.getD "") != ""

mutual

inductive TypeExpr where
  /-- A type by its name, or a member of an enumeration. -/
  | reference (name : String) (member : Option String)
  | union (members : List TypeExpr)
  | sequence (item : TypeExpr)
  | record (fields : List Field)
  | literals (values : List String)
  | primitive (p : Primitive)

inductive Field where
  | mk (name : String) (type : TypeExpr) (required : Bool) (doc : FieldDoc)

end

instance : Inhabited TypeExpr := ⟨.record []⟩

namespace Field

def name : Field → String
  | .mk n _ _ _ => n

def type : Field → TypeExpr
  | .mk _ t _ _ => t

def required : Field → Bool
  | .mk _ _ r _ => r

def doc : Field → FieldDoc
  | .mk _ _ _ d => d

end Field

namespace TypeExpr

def isRecord : TypeExpr → Bool
  | .record _ => true
  | _ => false

mutual

/-- The structure alone. -/
def withoutDocs : TypeExpr → TypeExpr
  | .reference n m => .reference n m
  | .union ms => .union (membersWithoutDocs ms)
  | .sequence t => .sequence t.withoutDocs
  | .record fs => .record (fieldsWithoutDocs fs)
  | .literals vs => .literals vs
  | .primitive p => .primitive p

def membersWithoutDocs : List TypeExpr → List TypeExpr
  | [] => []
  | t :: rest => t.withoutDocs :: membersWithoutDocs rest

def fieldsWithoutDocs : List Field → List Field
  | [] => []
  | .mk n t r _ :: rest => .mk n t.withoutDocs r {} :: fieldsWithoutDocs rest

end

mutual

def beq : TypeExpr → TypeExpr → Bool
  | .reference n m, .reference n' m' => n == n' && m == m'
  | .union ms, .union ms' => beqMembers ms ms'
  | .sequence t, .sequence t' => beq t t'
  | .record fs, .record fs' => beqFields fs fs'
  | .literals vs, .literals vs' => vs == vs'
  | .primitive p, .primitive p' => p == p'
  | _, _ => false

def beqMembers : List TypeExpr → List TypeExpr → Bool
  | [], [] => true
  | t :: rest, t' :: rest' => beq t t' && beqMembers rest rest'
  | _, _ => false

def beqFields : List Field → List Field → Bool
  | [], [] => true
  | .mk n t r d :: rest, .mk n' t' r' d' :: rest' =>
    n == n' && beq t t' && r == r' && d == d' && beqFields rest rest'
  | _, _ => false

end

instance : BEq TypeExpr := ⟨beq⟩

/-- Equality of structures. -/
def sameShape (a b : TypeExpr) : Bool :=
  a.withoutDocs == b.withoutDocs

end TypeExpr

/-- The first occurrences in a list. -/
def firstSeen {α : Type} [BEq α] : List α → List α
  | [] => []
  | x :: rest => x :: (firstSeen rest).filter fun y => !(y == x)

example : firstSeen [3, 1, 3, 2, 1] = [3, 1, 2] := by decide

/-- A type expression with the names that it depends on, each once, in the order in which they first
occur. -/
structure Synthesis where
  type : TypeExpr
  deps : List String

namespace Synthesis

def mergeDeps (groups : List (List String)) : List String :=
  firstSeen groups.flatten

/-- Equality that takes no account of documentation. -/
def sameShape (a b : Synthesis) : Bool :=
  a.type.sameShape b.type && a.deps == b.deps

end Synthesis

end SchemaDecl
