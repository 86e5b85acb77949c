import SchemaDecl.Run
import SchemaDecl.Number.Numeral
import SchemaDecl.Text.Fold

/-! What a run tells its user. Tables are data and go to standard output; remarks of every kind go to
standard error, so that whoever reads the data is not disturbed by them. -/

namespace SchemaDecl

inductive TableFormat where
  | plain
  | json
  deriving DecidableEq, Repr

namespace TableFormat

def word : TableFormat → String
  | .plain => "plain"
  | .json => "json"

/-- The format that a word asks for; it is plain when the word leaves the choice open. -/
def ofWord (w : String) : Except Fault TableFormat :=
  if w == "auto" || w == "plain" then .ok .plain
  else if w == "json" then .ok .json
  else .error (.badValue (Text.shown w ++ " is not a valid OutputFormat"))

end TableFormat

structure Report where
  format : TableFormat := .plain
  quiet : Bool := false
  verbose : Bool := false
  /-- The width that remarks are folded to; `none` when they are printed as they are. -/
  width : Option Nat := none
  deriving DecidableEq, Repr

namespace Report

/-! ### Width -/

/-- The width of a screen that does not tell how wide it is. -/
def usualWidth : Nat := 80

/-- The width that a text of digits tells. -/
def widthOf? (s : String) : Option Nat :=
  let cs := s.toList
  if cs.isEmpty then none
  else ((cs.map Numeral.plainChar).mapM (Numeral.digit? 10)).map fun ds => ds.foldl (fun n d => n * 10 + d) 0

/-- The report for a screen with these variables. Where colours are unwanted remarks are not laid out
either. -/
def onScreen (r : Report) (variable_ : String → Option String) : Report :=
  if (variable_ "NO_COLOR").isSome || variable_ "TERM" == some "dumb" then { r with width := none }
  else { r with width := r.width.map fun w => ((variable_ "COLUMNS").bind widthOf?).getD w }

/-! ### Remarks -/

/-- The lines of a remark. -/
def line (r : Report) (text : String) : String :=
  match r.width with
  | none => text ++ "\n"
  | some w => Text.fold w text

/-- A line about the state of the work. -/
def info (r : Report) (message : String) : String :=
  if r.quiet then "" else r.line message

/-- A line about work that went well. -/
def success (r : Report) (message : String) : String :=
  r.info message

def warning (r : Report) (message : String) : String :=
  r.line ("Warning: " ++ message)

def error (r : Report) (message : String) : String :=
  r.line ("Error: " ++ message)

/-- A line that only the curious see. -/
def debug (r : Report) (message : String) : String :=
  if r.verbose then r.line ("[debug] " ++ message) else ""

/-- The line of a remark. -/
def remark (r : Report) : Notice → String
  | .data _ => ""
  | .success m => r.success m
  | .warning m => r.warning m
  | .error m => r.error m
  | .debug m => r.debug m

/-- What goes to standard error. -/
def remarks (r : Report) (ns : List Notice) : String :=
  String.join (ns.map r.remark)

/-! ### Data -/

def data (text : String) : String :=
  text ++ "\n"

/-- What goes to standard output. -/
def output (ns : List Notice) : String :=
  String.join (ns.map fun n =>
    match n with
    | .data text => text
    | _ => "")

/-- The text of a cell in a plain table, if it has one. -/
def cellText? : Value → Option String
  | .text s => some s
  | _ => none

/-- A row as a line of cells. -/
def plainRow (cells : List Value) : Option String :=
  (cells.mapM cellText?).map fun ts => "\t".intercalate ts

/-- The lines of a plain table, and whether all of its rows could be written. -/
def plainTable : List (List Value) → String × Bool
  | [] => ("", true)
  | row :: rest =>
    match plainRow row with
    | none => ("", false)
    | some line =>
      let (text, ok) := plainTable rest
      (data line ++ text, ok)

/-- A row as an object; cells without a header are left out. -/
def rowObject (headers : List String) (cells : List Value) : Value :=
  Value.ofEntries ((headers.zip cells).map fun p => (.text p.1, p.2))

/-- The text of a table: an object for every row, or a line for the headers and every row. With it,
whether the whole table could be written. -/
def table (r : Report) (headers : List String) (rows : List (List Value)) : String × Bool :=
  match r.format with
  | .json =>
    match Json.write .listing (.list (rows.map (rowObject headers))) with
    | .ok s => (data s, true)
    | .error _ => ("", false)
  | .plain => plainTable (headers.map .text :: rows)

end Report

end SchemaDecl
