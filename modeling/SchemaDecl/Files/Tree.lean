import SchemaDecl.Work

/-! Files as a value. A path is followed name by name from the top, and every name but the last must be
that of a directory. -/

namespace SchemaDecl

inductive Node where
  | file (bytes : List UInt8)
  | directory
  deriving DecidableEq, Repr

/-- The nodes with the names that lead to them from the top, which is a directory itself. -/
structure Files where
  nodes : List (List String × Node) := []
  deriving DecidableEq, Inhabited, Repr

namespace Files

/-! ### Places -/

def get? (fs : Files) (place : List String) : Option Node :=
  if place.isEmpty then some .directory else fs.nodes.lookup place

/-- Puts a node at a place, instead of what is there. -/
def setNode (place : List String) (n : Node) : List (List String × Node) → List (List String × Node)
  | [] => [(place, n)]
  | (p, m) :: rest => if p == place then (place, n) :: rest else (p, m) :: setNode place n rest

def set (fs : Files) (place : List String) (n : Node) : Files :=
  ⟨setNode place n fs.nodes⟩

def erase (fs : Files) (place : List String) : Files :=
  ⟨fs.nodes.filter fun e => e.1 != place⟩

/-- The greatest number of bytes in a name. -/
def nameLimit : Nat := 255

/-- Follows names from a place. -/
def follow (fs : Files) (place : List String) : List String → Except FileFault (List String)
  | [] => .ok place
  | name :: rest =>
    match fs.get? place with
    | none => .error .missing
    | some (.file _) => .error .notDirectory
    | some .directory =>
      if nameLimit < name.utf8ByteSize then .error .nameTooLong
      else if name == ".." then follow fs place.dropLast rest
      else follow fs (place ++ [name]) rest

/-- The place that a path leads to. Above the top is the top again. -/
def locate (fs : Files) (p : Path) : Except FileFault (List String) :=
  if p.names.any fun n => n.toList.contains '\x00' then .error .nullInName
  else fs.follow [] p.names

/-! ### Operations -/

def kind (fs : Files) (p : Path) : Except FileFault (Option FileKind) :=
  match fs.locate p with
  | .error .missing | .error .notDirectory | .error .nullInName => .ok none
  | .error e => .error e
  | .ok place =>
    .ok ((fs.get? place).map fun n =>
      match n with
      | .file _ => .file
      | .directory => .directory)

def read (fs : Files) (p : Path) : Except FileFault (List UInt8) := do
  match fs.get? (← fs.locate p) with
  | none => throw .missing
  | some .directory => throw .isDirectory
  | some (.file bytes) => return bytes

/-- Writes a file, a new one if there is none. -/
def write (fs : Files) (p : Path) (bytes : List UInt8) : Except FileFault Files := do
  let place ← fs.locate p
  match fs.get? place with
  | some .directory => throw .isDirectory
  | _ => return fs.set place (.file bytes)

def makeDirectory (fs : Files) (p : Path) : Except FileFault Files := do
  let place ← fs.locate p
  match fs.get? place with
  | some _ => throw .exists
  | none => return fs.set place .directory

/-- Puts a file in the place of another file, or where there is none. -/
def rename (fs : Files) (source target : Path) : Except FileFault Files := do
  let place ← fs.locate source
  let goal ← fs.locate target
  match fs.get? place, fs.get? goal with
  | none, _ => throw .missing
  | some .directory, _ => throw .notDirectory
  | some (.file _), some .directory => throw .isDirectory
  | some (.file bytes), _ => return (fs.erase place).set goal (.file bytes)

def remove (fs : Files) (p : Path) : Except FileFault Files := do
  let place ← fs.locate p
  match fs.get? place with
  | none => throw .missing
  | some .directory => throw .isDirectory
  | some (.file _) => return fs.erase place

/-- The name of a temporary file, made from the name that the file is to have in the end. -/
def temporaryName (name : String) (n : Nat) : String :=
  "." ++ name ++ "." ++ toString n ++ ".tmp"

/-- The first temporary name that is free, among so many. -/
def freeName (fs : Files) (place : List String) (name : String) : Nat → Nat → String
  | 0, n => temporaryName name n
  | left + 1, n =>
    if (fs.get? (place ++ [temporaryName name n])).isNone then temporaryName name n
    else freeName fs place name left (n + 1)

def createTemporary (fs : Files) (directory : Path) (name : String) :
    Except FileFault (Path × Files) := do
  let place ← fs.locate directory
  let temporary := directory.entry (fs.freeName place name fs.nodes.length 10000000)
  return (temporary, ← fs.write temporary [])

end Files

end SchemaDecl
