import SchemaDecl.Definition
import SchemaDecl.Value.Display
import SchemaDecl.Text.Utf8

/-! Definitions from decoded data. Keys without a meaning are passed over, and every part that does
not have the right kind is noted with its place; a definition comes out when there is none. -/

namespace SchemaDecl

/-- What a part of the data should have been. -/
inductive IssueKind where
  | text
  | textEncoding
  | list
  | mapping
  /-- An object with fields of its own. -/
  | model
  /-- One of a few words. -/
  | choice
  | truth
  /-- A text or number that says yes or no. -/
  | truthWord
  /-- A definition in place of one that stands around it. -/
  | loop
  deriving DecidableEq, Repr

/-- A step on the way to a part of the data. -/
inductive Step where
  | name (s : String)
  | number (n : Int)
  deriving DecidableEq, Repr

structure Issue where
  place : List Step
  kind : IssueKind
  deriving DecidableEq, Repr

/-- A result, or all that stands against it. -/
abbrev Check (α : Type) := Except (List Issue) α

namespace Check

def bad {α : Type} (kind : IssueKind) : Check α :=
  .error [⟨[], kind⟩]

/-- Puts a step in front of the places of all issues. -/
def within {α : Type} (step : Step) (c : Check α) : Check α :=
  c.mapError fun issues => issues.map fun i => { i with place := step :: i.place }

/-- Both results, or the issues of both, those of the first before those of the second. -/
def and {α β : Type} (a : Check α) (b : Check β) : Check (α × β) :=
  match a, b with
  | .ok x, .ok y => .ok (x, y)
  | .error e, .ok _ => .error e
  | .ok _, .error f => .error f
  | .error e, .error f => .error (e ++ f)

def cons {α : Type} (a : Check α) (b : Check (List α)) : Check (List α) :=
  (a.and b).map fun p => p.1 :: p.2

/-- The results for the items of a list, each by its number from `n` on. -/
def items {α : Type} (f : Value → Check α) (n : Nat) : List Value → Check (List α)
  | [] => .ok []
  | v :: rest => cons (within (.number n) (f v)) (items f (n + 1) rest)

def text : Value → Check String
  | .text s => .ok s
  | .bytes bs =>
    match Text.decode bs with
    | .ok s => .ok s
    | .error _ => bad .textEncoding
  | _ => bad .text

def texts : Value → Check (List String)
  | .list vs | .set vs => items text 0 vs
  | _ => bad .list

/-- A part that may be null. -/
def optional {α : Type} (f : Value → Check α) : Value → Check (Option α)
  | .null => .ok none
  | v => (f v).map some

/-- Whether an integer fits into 64 bits with its sign. -/
def isWord (n : Int) : Bool :=
  -9223372036854775808 ≤ n && n ≤ 9223372036854775807

/-- The step to the entry under a key. -/
def keyStep : Value → Step
  | .text s => .name s
  | .int n => if isWord n then .number n else .name (toString n)
  | .bool b => .number (Value.ofBool b)
  | v => .name v.shown

/-- An entry of a mapping from texts. -/
def entry {α : Type} (key : Value) (value : Check α) : Check (String × α) :=
  (within (keyStep key) (within (.name "[key]") (text key))).and (within (keyStep key) value)

end Check

namespace Definition

/-- What the keys of an object say, each checked by itself. Two parts have a second key that counts
when the first one is missing. -/
structure Slots where
  ref : Option (Check (Option String)) := none
  refName : Option (Check (Option String)) := none
  oneOf : Option (Check (Option (List Definition))) := none
  oneOfName : Option (Check (Option (List Definition))) := none
  type : Option (Check (Option String)) := none
  enum : Option (Check (Option (List String))) := none
  items : Option (Check (Option Definition)) := none
  properties : Option (Check (Option (List (String × Definition)))) := none
  required : Option (Check (List String)) := none
  description : Option (Check (Option String)) := none
  sample : Option Value := none
  format : Option (Check (Option String)) := none
  fallback : Option Value := none

/-- The check under the first of two keys that is there. -/
def Slots.either {α : Type} (a b : String) (x y : Option (Check (Option α))) : Check (Option α) :=
  match x, y with
  | some c, _ => c.within (.name a)
  | none, some c => c.within (.name b)
  | none, none => .ok none

def Slots.one {α : Type} (key : String) (fallback : α) (x : Option (Check α)) : Check α :=
  match x with
  | some c => c.within (.name key)
  | none => .ok fallback

/-- The definition that the keys describe, or the issues in the order of its parts. -/
def Slots.assemble (s : Slots) : Check Definition :=
  ((either "$ref" "ref" s.ref s.refName).and <|
    (either "oneOf" "one_of" s.oneOf s.oneOfName).and <|
    (one "type" none s.type).and <|
    (one "enum" none s.enum).and <|
    (one "items" none s.items).and <|
    (one "properties" none s.properties).and <|
    (one "required" [] s.required).and <|
    (one "description" none s.description).and <|
    one "format" none s.format).map fun (ref, oneOf, type, enum, items, properties, required,
      description, format) =>
    { ref, oneOf, type, enum, items, properties, required
      notes := ⟨description, s.sample.getD .null, format, s.fallback.getD .null⟩ }

/-- Puts an entry with a text for a key, by replacing one with the same key in its place. -/
def putProperty (p : String × Definition) : List (String × Definition) → List (String × Definition)
  | [] => [p]
  | q :: rest => if q.1 == p.1 then p :: rest else q :: putProperty p rest

/-- The properties in order; of two whose names decode to the same text the last one counts. -/
def distinct (ps : List (String × Definition)) : List (String × Definition) :=
  ps.foldl (fun m p => putProperty p m) []

mutual

/-- The definition that decoded data describes. -/
def decode : Value → Check Definition
  | .map entries => (decodeSlots entries).assemble
  | .outer _ => Check.bad .loop
  | _ => Check.bad .model

/-- What the entries of an object say. -/
def decodeSlots : List (Value × Value) → Slots
  | [] => {}
  | (k, v) :: rest =>
    let s := decodeSlots rest
    match k with
    | .text "$ref" => { s with ref := some (Check.optional Check.text v) }
    | .text "ref" => { s with refName := some (Check.optional Check.text v) }
    | .text "oneOf" => { s with oneOf := some (decodeBranches v) }
    | .text "one_of" => { s with oneOfName := some (decodeBranches v) }
    | .text "type" => { s with type := some (Check.optional Check.text v) }
    | .text "enum" => { s with enum := some (Check.optional Check.texts v) }
    | .text "items" => { s with items := some (decodeItem v) }
    | .text "properties" => { s with properties := some (decodeProperties v) }
    | .text "required" => { s with required := some (Check.texts v) }
    | .text "description" => { s with description := some (Check.optional Check.text v) }
    | .text "example" => { s with sample := some v }
    | .text "format" => { s with format := some (Check.optional Check.text v) }
    | .text "default" => { s with fallback := some v }
    | _ => s

def decodeBranches : Value → Check (Option (List Definition))
  | .null => .ok none
  | .list vs => (decodeList 0 vs).map some
  | .set vs => (decodeList 0 vs).map some
  | _ => Check.bad .list

def decodeList (n : Nat) : List Value → Check (List Definition)
  | [] => .ok []
  | v :: rest => Check.cons ((decode v).within (.number n)) (decodeList (n + 1) rest)

def decodeItem : Value → Check (Option Definition)
  | .null => .ok none
  | .map entries => ((decodeSlots entries).assemble).map some
  | .outer _ => Check.bad .loop
  | _ => Check.bad .model

def decodeProperties : Value → Check (Option (List (String × Definition)))
  | .null => .ok none
  | .map entries => (decodeEntries entries).map fun ps => some (distinct ps)
  | _ => Check.bad .mapping

def decodeEntries : List (Value × Value) → Check (List (String × Definition))
  | [] => .ok []
  | (k, v) :: rest => Check.cons (Check.entry k (decode v)) (decodeEntries rest)

end

theorem decodeItem_eq (v : Value) : decodeItem v = Check.optional decode v := by
  cases v <;> simp [decodeItem, Check.optional, decode, Except.map, Check.bad]

end Definition

end SchemaDecl
