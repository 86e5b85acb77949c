/-! Paths: the names that lead from a directory to a file. A path is kept without empty names and
without names for the directory it stands in; a name for the directory above stays. -/

namespace SchemaDecl

structure Path where
  absolute : Bool := false
  names : List String
  deriving DecidableEq, Inhabited, Repr

namespace Path

def ofText (text : String) : Path where
  absolute := text.startsWith "/"
  names := ((text.toList.splitOn '/').map String.ofList).filter fun n => n != "" && n != "."

def text (p : Path) : String :=
  if p.absolute then "/" ++ "/".intercalate p.names
  else if p.names.isEmpty then "."
  else "/".intercalate p.names

/-- The path that a second one names as seen from the first. -/
def join (p q : Path) : Path :=
  if q.absolute then q else ⟨p.absolute, p.names ++ q.names⟩

/-- The path of a file in a directory. -/
def entry (p : Path) (name : String) : Path :=
  p.join (ofText name)

/-- The directory that a path lies in; the top lies in itself. -/
def parent (p : Path) : Path :=
  ⟨p.absolute, p.names.dropLast⟩

def name (p : Path) : String :=
  (p.names.getLast?).getD ""

/-- Whether a path ends in a name and not in a step to where one is or to the directory above. -/
def isNamed (p : Path) : Bool :=
  p.name != "" && p.name != ".."

/-- The part of a name from its last point on, unless that begins or ends the name. -/
def suffix (p : Path) : String :=
  let after := p.name.toList.reverse.takeWhile (· != '.')
  if after.isEmpty || after.length + 1 ≥ p.name.length then ""
  else String.ofList ('.' :: after.reverse)

end Path

end SchemaDecl
