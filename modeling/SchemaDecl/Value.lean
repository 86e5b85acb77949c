import SchemaDecl.Number.Binary64
import SchemaDecl.Calendar.Date

/-! Decoded data: what documents in JSON and YAML hold. A mapping keeps its entries in the order in
which their keys were first written, and its keys are values themselves, since YAML names entries
by numbers, dates and the like; the keys that JSON writes are texts. -/

namespace SchemaDecl

inductive Value where
  | null
  | bool (b : Bool)
  | int (n : Int)
  | float (x : Binary64)
  | text (s : String)
  | date (d : Date)
  | time (t : DateTime)
  | bytes (bs : List UInt8)
  | list (items : List Value)
  | map (entries : List (Value × Value))
  | set (members : List Value)
  /-- The collection so many levels further out than the one that this value stands in. Only data that
  lies inside itself holds it. -/
  | outer (levels : Nat)
  deriving Inhabited, Repr

namespace Value

/-- The word for the kind of a value in messages. -/
def kindName : Value → String
  | .null => "NoneType"
  | .bool _ => "bool"
  | .int _ => "int"
  | .float _ => "float"
  | .text _ => "str"
  | .date _ => "date"
  | .time _ => "datetime"
  | .bytes _ => "bytes"
  | .list _ => "list"
  | .map _ => "dict"
  | .set _ => "set"
  | .outer _ => "cycle"

/-- Whether a value counts as present: not null, false, zero or empty. -/
def isTruthy : Value → Bool
  | .null => false
  | .bool b => b
  | .int n => n != 0
  | .float x => x.isNonzero
  | .text s => s != ""
  | .date _ | .time _ => true
  | .bytes bs => !bs.isEmpty
  | .list items => !items.isEmpty
  | .map entries => !entries.isEmpty
  | .set members => !members.isEmpty
  | .outer _ => true

def asText? : Value → Option String
  | .text s => some s
  | _ => none

def isNull : Value → Bool
  | .null => true
  | _ => false

/-! ### Equality

Numbers and truth values are equal when they stand for the same number, whatever their kind. -/

def ofBool (b : Bool) : Int :=
  if b then 1 else 0

/-- Equality of values other than lists, mappings and sets. Whatever is no number equals itself. -/
def sameScalar : Value → Value → Bool
  | .null, .null => true
  | .bool a, .bool b => a == b
  | .bool a, .int b => ofBool a == b
  | .int a, .bool b => a == ofBool b
  | .int a, .int b => a == b
  | .float x, .float y => x.compare? y == some .eq || (x == .nan && y == .nan)
  | .float x, .int n | .int n, .float x => x.compareInt? n == some .eq
  | .float x, .bool b | .bool b, .float x => x.compareInt? (ofBool b) == some .eq
  | .text a, .text b => a == b
  | .date a, .date b => a == b
  | .time a, .time b => a.same b
  | .bytes a, .bytes b => a == b
  | .outer a, .outer b => a == b
  | _, _ => false

/-- The value under a scalar key. -/
def lookup (key : Value) : List (Value × Value) → Option Value
  | [] => none
  | (k, v) :: rest => if sameScalar k key then some v else lookup key rest

mutual

/-- Equality of values. Mappings are equal when they have the same entries in any order. -/
def same : Value → Value → Bool
  | .list xs, .list ys => sameItems xs ys
  | .map xs, .map ys => xs.length == ys.length && sameEntries xs ys
  | .set xs, .set ys => xs.length == ys.length && xs.all fun x => ys.any (sameScalar x)
  | a, b => sameScalar a b

def sameItems : List Value → List Value → Bool
  | [], [] => true
  | x :: xs, y :: ys => same x y && sameItems xs ys
  | _, _ => false

/-- Whether every entry of the first list occurs in the second. -/
def sameEntries : List (Value × Value) → List (Value × Value) → Bool
  | [], _ => true
  | (k, v) :: rest, ys =>
    (match lookup k ys with
    | some w => same v w
    | none => false) && sameEntries rest ys

end

/-! ### Mappings -/

/-- Puts a value under a key. A key that is there keeps its place and its spelling. -/
def insert (key value : Value) : List (Value × Value) → List (Value × Value)
  | [] => [(key, value)]
  | (k, v) :: rest =>
    if sameScalar k key then (k, value) :: rest else (k, v) :: insert key value rest

/-- The mapping that results from writing the entries one after another. -/
def ofEntries (entries : List (Value × Value)) : Value :=
  .map (entries.foldl (fun m e => insert e.1 e.2 m) [])

/-- A mapping whose keys are texts. -/
def object (fields : List (String × Value)) : Value :=
  .map (fields.map fun f => (.text f.1, f.2))

/-- Finds a field by its name. -/
def fieldOf (name : String) : List (Value × Value) → Option Value
  | [] => none
  | (.text k, v) :: rest => if k == name then some v else fieldOf name rest
  | _ :: rest => fieldOf name rest

/-- The field of a mapping with this name. -/
def field? (name : String) : Value → Option Value
  | .map entries => fieldOf name entries
  | _ => none

/-- The field of a mapping with this name, null when there is none. -/
def fieldOrNull (name : String) (v : Value) : Value :=
  (v.field? name).getD .null

end Value

end SchemaDecl
