import SchemaDecl.Value.Display
import SchemaDecl.Number.Numeral
import SchemaDecl.Json.KeyOrder

/-! Writing values as JSON. A style fixes what the format leaves open: blanks, line breaks, which
characters are escaped and whether keys are sorted. Values that JSON lacks are written as the texts
that messages show for them, where the style admits that; keys that are no texts are written as
texts, but keys of several kinds cannot be sorted. -/

namespace SchemaDecl.Json

structure Style where
  /-- Between an item and the next one on the same line. -/
  comma : String
  colon : String
  /-- The number of blanks per level when every item has a line of its own. -/
  indent : Option Nat
  sorted : Bool
  ascii : Bool
  /-- Whether dates, sets and bytes are written as texts. -/
  lenient : Bool
  /-- Whether numbers are written that are no numbers, or infinite. -/
  endless : Bool

/-- On one line, keys sorted: examples in documentation. -/
def Style.example : Style := ⟨", ", ": ", none, true, false, true, true⟩

/-- On one line without blanks: messages to a service. -/
def Style.message : Style := ⟨",", ":", none, false, false, false, false⟩

/-- A line for every item: listings. -/
def Style.listing : Style := ⟨",", ": ", some 2, false, false, false, true⟩

/-- A line for every item, in ASCII: files that other programs compare. -/
def Style.record : Style := ⟨",", ": ", some 2, false, true, false, true⟩

inductive WriteError where
  /-- Keys of kinds that have no common order. -/
  | unsortable
  /-- A key or a value that has no written form. -/
  | unwritable
  /-- Data that lies inside itself. -/
  | circular
  /-- An integer too long to be written. -/
  | tooManyDigits
  /-- A number that is none, or infinite. -/
  | endless
  deriving DecidableEq, Repr

def Style.text (style : Style) (s : String) : String :=
  if style.ascii then Text.quoteAscii s else Text.quote s

def floatText (style : Style) : Binary64 → Except WriteError String
  | .nan => if style.endless then .ok "NaN" else .error .endless
  | .infinite s =>
    if style.endless then .ok (if s then "-Infinity" else "Infinity") else .error .endless
  | x => .ok x.toText

def integerText (n : Int) : Except WriteError String :=
  match Numeral.integerText? n with
  | some t => .ok t
  | none => .error .tooManyDigits

/-- The text of a key. -/
def keyText (style : Style) : Value → Except WriteError String
  | .text s => .ok s
  | .int n => integerText n
  | .bool b => .ok (if b then "true" else "false")
  | .null => .ok "null"
  | .float x => floatText style x
  | _ => .error .unwritable

/-- Puts written items between brackets. -/
def bracket (style : Style) (level : Nat) (opening closing : String) (items : List String) : String :=
  if items.isEmpty then opening ++ closing
  else
    match style.indent with
    | none => opening ++ style.comma.intercalate items ++ closing
    | some width =>
      let break_ (l : Nat) := "\n" ++ String.ofList (List.replicate (width * l) ' ')
      opening ++ break_ (level + 1) ++ (style.comma ++ break_ (level + 1)).intercalate items ++
        break_ level ++ closing

/-- Writes the entries of a mapping from the texts of its values, or why they have none. -/
def entryTexts (style : Style) (entries : List (Value × Except WriteError String)) :
    Except WriteError (List String) := do
  if style.sorted && !sortable (entries.map Prod.fst) then .error .unsortable
  (if style.sorted then sortEntries entries else entries).mapM fun (k, v) => do
    let t ← keyText style k
    .ok (style.text t ++ style.colon ++ (← v))

mutual

/-- The text of a value at a level of nesting. -/
def writeAt (style : Style) (level : Nat) : Value → Except WriteError String
  | .null => .ok "null"
  | .bool b => .ok (if b then "true" else "false")
  | .int n => integerText n
  | .float x => floatText style x
  | .text s => .ok (style.text s)
  | .list items => do
    .ok (bracket style level "[" "]" (← writeItems style (level + 1) items))
  | .map entries => do
    let texts ← entryTexts style (writeEntries style (level + 1) entries)
    .ok (bracket style level "\x7b" "\x7d" texts)
  | .outer _ => .error .circular
  | v => if style.lenient then .ok (style.text v.display) else .error .unwritable

def writeItems (style : Style) (level : Nat) : List Value → Except WriteError (List String)
  | [] => .ok []
  | v :: rest => do .ok ((← writeAt style level v) :: (← writeItems style level rest))

def writeEntries (style : Style) (level : Nat) :
    List (Value × Value) → List (Value × Except WriteError String)
  | [] => []
  | (k, v) :: rest => (k, writeAt style level v) :: writeEntries style level rest

end

def write (style : Style) (v : Value) : Except WriteError String :=
  writeAt style 0 v

end SchemaDecl.Json
