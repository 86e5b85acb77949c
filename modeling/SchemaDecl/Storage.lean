import SchemaDecl.Generation
import SchemaDecl.Registry.Lock
import SchemaDecl.Text.Blank
import SchemaDecl.Work

/-! Files that runs leave behind and find again. A file is replaced as a whole: the new text goes to a
temporary file beside it, which takes its place when it is complete, so that a run that breaks off
leaves the old file as it was. A module is written only when its text has changed. -/

namespace SchemaDecl.Storage

/-! ### Reading -/

def kind (p : Path) : Work (Option FileKind) := do
  Work.ofAnswer (← Work.query (.kind p))

def isFile (p : Path) : Work Bool := do
  return (← kind p) == some .file

def isDirectory (p : Path) : Work Bool := do
  return (← kind p) == some .directory

/-- The text of a file, every line end in it read as a line feed. -/
def readText (p : Path) : Work String := do
  let bytes ← Work.ofAnswer (← Work.query (.read p))
  let text ← Work.ofExcept ((Text.decode bytes).mapError Fault.notUtf8)
  return Text.unifyNewlines text

/-- The value that a file spells. What stands against it is told by `unreadable`. -/
def readJson (p : Path) (unreadable : String → Fault) : Work Value := do
  match ← Work.attempt (readText p) with
  | .error (.notUtf8 e) => Work.fail (unreadable e.message)
  | .error f => Work.fail f
  | .ok text => Work.ofExcept ((Json.read text).mapError fun e => unreadable e.message)

/-! ### Directories -/

def order (a : FileAction) : Work Unit := do
  Work.ofAnswer (← Work.query (.act a))

/-- After a directory could not be made: one that is there already will do. -/
def settle (p : Path) (e : FileFault) : Work Unit := do
  if !(← isDirectory p) then Work.fail (.file e)

/-- Makes a directory if it is not there. -/
def makeDirectory (p : Path) : Work Unit := do
  match ← Work.query (.act (.makeDirectory p)) with
  | .ok () => pure ()
  | .error e => settle p e

/-- Makes the directory with these names, the last one first, and those it lies in. -/
def ensureNames (absolute : Bool) : List String → Work Unit
  | [] => makeDirectory ⟨absolute, []⟩
  | name :: above => do
    let p : Path := ⟨absolute, (name :: above).reverse⟩
    match ← Work.query (.act (.makeDirectory p)) with
    | .ok () => pure ()
    | .error .missing => do
      ensureNames absolute above
      makeDirectory p
    | .error e => settle p e

/-- Makes a directory and those it lies in, as far as they are not there. -/
def ensureDirectory (p : Path) : Work Unit :=
  ensureNames p.absolute p.names.reverse

/-! ### Writing -/

/-- Removes a temporary file that is still there. -/
def discard (temporary : Path) : Work Unit := do
  if (← kind temporary).isSome then order (.remove temporary)

/-- Fills an open file up to the last byte. -/
def fill (p : Path) (text : String) : Work Unit := do
  order (.write p (Text.encode text))
  order (.flush p)
  order (.sync p)

/-- Puts a text into a file as a whole. On failure the temporary file is closed and removed, and the
file stays as it was. -/
def replaceText (p : Path) (text : String) : Work Unit := do
  ensureDirectory p.parent
  let temporary ← Work.ofAnswer (← Work.query (.createTemporary p.parent p.name))
  match ← Work.attempt (fill temporary text) with
  | .error e =>
    order (.close temporary)
    discard temporary
    Work.fail e
  | .ok () =>
    let placed ← Work.attempt do
      order (.close temporary)
      order (.rename temporary p)
    match placed with
    | .error e =>
      discard temporary
      Work.fail e
    | .ok () => pure ()

/-! ### Registries of earlier runs -/

/-- The name of the file that keeps the registry of a run in its directory. -/
def lockName : String := ".schemagen-registry.json"

/-- The entries of the registry of the last run into a directory, if there was one. -/
def loadLock (directory : Path) : Work (Option (List Registry.Entry)) := do
  let p := directory.entry lockName
  if !(← isFile p) then return none
  let v ← readJson p fun reason => .failure (.config (.unreadableLock p.text reason))
  let entries ← Work.ofExcept ((Registry.ofLock v).mapError fun e => .failure (.config e))
  return some entries

/-- Keeps the registry of a run for the next one. -/
def saveLock (directory : Path) (r : Registry) : Work Unit := do
  let text ← Work.ofExcept (r.lockText.mapError Fault.ofWriteError)
  replaceText (directory.entry lockName) text

/-! ### Modules -/

/-- Whether a file holds a text already. -/
def holds (p : Path) (text : String) : Work Bool := do
  if ← isFile p then return (← readText p) == text
  return false

/-- Writes the modules whose texts have changed and names their files. -/
def saveModules (directory : Path) : List Module → Work (List Path)
  | [] => pure []
  | m :: ms => do
    let p := directory.entry m.filename
    if ← holds p m.source then saveModules directory ms
    else do
      replaceText p m.source
      return p :: (← saveModules directory ms)

/-- Writes all that a run made, and its registry, and names the files of the modules that were
written. -/
def save (directory : Path) (g : Generation) : Work (List Path) := do
  ensureDirectory directory
  let written ← saveModules directory g.modules
  saveLock directory g.registry
  return written

end SchemaDecl.Storage
