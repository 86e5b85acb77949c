import SchemaDecl.Failure
import SchemaDecl.Http.Host
import SchemaDecl.Value.Display

/-! Forms: named texts as they stand in the query of an address. Names and texts are joined by equals
signs, and fields by ampersands; a blank is written as a plus sign. What a form is made from may be a
text of this kind, a mapping in which a list stands for several texts of one name, or a list of pairs. -/

namespace SchemaDecl

/-- Names in the order in which they came, with all texts that were given for each. -/
abbrev Form := List (String × List String)

namespace Form

/-! ### Texts of forms -/

def isPlainChar (c : Char) : Bool :=
  c.isAlphanum || ['-', '.', '_', '~', ' '].contains c

def encode (s : String) : String :=
  String.ofList ((Percent.escape isPlainChar s).toList.map fun c => if c == ' ' then '+' else c)

def decode (s : List Char) : String :=
  Percent.unescape (String.ofList (s.map fun c => if c == '+' then ' ' else c))

def text (f : Form) : String :=
  "&".intercalate (f.flatMap fun e => e.2.map fun s => encode e.1 ++ "=" ++ encode s)

/-! ### Collecting -/

/-- Adds a text to those of a name; equal names are told by `same`. -/
def add {α β : Type} (same : α → α → Bool) (es : List (α × List β)) (name : α) (x : β) :
    List (α × List β) :=
  if es.any fun e => same e.1 name then
    es.map fun e => if same e.1 name then (e.1, e.2 ++ [x]) else e
  else es ++ [(name, [x])]

/-- The form that a text spells. -/
def read (s : String) : Form :=
  let fields := (Host.split '&' s.toList).filter (· != [])
  fields.foldl (fun f field =>
    let name := field.takeWhile (· != '=')
    add (· == ·) f (decode name) (decode (field.drop (name.length + 1)))) []

/-! ### Values -/

/-- The text of a value in a form. -/
def valueText : Value → String
  | .bool b => if b then "true" else "false"
  | .null => ""
  | v => v.display

/-- The names are written as texts; where two have the same text, the later one counts. -/
def ofEntries (es : List (Value × List Value)) : Form :=
  es.foldl (fun f e =>
    let name := e.1.display
    let texts := e.2.map valueText
    if f.any fun g => g.1 == name then f.map fun g => if g.1 == name then (name, texts) else g
    else f ++ [(name, texts)]) []

/-- What stands at a place of an item that should be a pair. -/
def part (item : Value) (place : Nat) : Except Fault Value :=
  match item with
  | .list vs => (vs[place]?.map .ok).getD (.error .outOfRange)
  | .text s => (s.toList[place]?.map fun c => .ok (.text (String.singleton c))).getD (.error .outOfRange)
  | .map _ => .error .missingKey
  | _ => .error .wrongType

/-- A name that can be looked up. -/
def requireName : Value → Except Fault Unit
  | .list _ | .map _ => .error .wrongType
  | _ => .ok ()

def ofPairs (items : List Value) : Except Fault Form := do
  let es ← items.foldlM (fun es item => do
    let name ← part item 0
    requireName name
    return add Value.same es name (← part item 1)) []
  return ofEntries es

/-- The form that a value describes. -/
def ofValue : Value → Except Fault Form
  | .text s => .ok (read s)
  | .map es => .ok (ofEntries (es.map fun e => (e.1, match e.2 with | .list vs => vs | v => [v])))
  | .list items => ofPairs items
  | _ => .error .noMember

/-- The query that a value asks for: none, if it holds no name. -/
def queryOf (v : Value) : Except Fault (Option String) := do
  if !v.isTruthy then return none
  let f ← ofValue v
  return if f.isEmpty then none else some f.text

example : text [("a b", ["1", "é"])] = "a+b=1&a+b=%C3%A9" := by decide +kernel

end Form

end SchemaDecl
