import SchemaDecl.Settings
import SchemaDecl.Storage

/-! Where settings come from. What the command line says goes before the environment, the environment
before the file of the project, and the file before what is usual. -/

namespace SchemaDecl.Settings

/-- What the command line says. -/
structure Overrides where
  target : Option String := none
  outputDir : Option String := none
  keepGoing : Option Bool := none
  deriving DecidableEq, Inhabited, Repr

/-- Puts a value under a key if there is one. -/
def override (key : String) (v : Option Value) (entries : List (Value × Value)) :
    List (Value × Value) :=
  match v with
  | some v => Value.insert (.text key) v entries
  | none => entries

/-- A variable counts when it is set to something. -/
def ofVariable (v : Option String) : Option Value :=
  (v.filter (· != "")).map .text

/-- The settings of a project with the overrides of the environment and of the command line. -/
def merge (project : List (Value × Value)) (target outputDir : Option String) (o : Overrides) :
    List (Value × Value) :=
  override "keep_going" (o.keepGoing.map .bool) <|
  override "output_dir" (o.outputDir.map .text) <|
  override "target" (o.target.map .text) <|
  override "output_dir" (ofVariable outputDir) <|
  override "target" (ofVariable target) project

/-- The name of the file of a project. -/
def projectName : String := "schemagen.json"

/-- The settings of the project in a directory, if it has a file for them. -/
def loadProject (directory : Path) : Work (Option (List (Value × Value))) := do
  let p := directory.entry projectName
  if !(← Storage.isFile p) then return none
  let unreadable (reason : String) : Fault := .failure (.config (.unreadableSettings p.text reason))
  match ← Storage.readJson p unreadable with
  | .map entries => return some entries
  | _ => Work.fail (.failure (.config (.settingsNotObject p.text)))

/-- The settings in force in a directory. -/
def resolve (directory : Path) (o : Overrides) : Work Settings := do
  let project ← loadProject directory
  let target ← Work.query (.variable "SCHEMAGEN_TARGET")
  let outputDir ← Work.query (.variable "SCHEMAGEN_OUTPUT_DIR")
  let entries := merge (project.getD []) target outputDir o
  Work.ofExcept ((decode (.map entries)).mapError fun is => .failure (.config (.invalidSettings is)))

end SchemaDecl.Settings
