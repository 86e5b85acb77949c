import SchemaDecl.Arguments
import SchemaDecl.Inspection
import SchemaDecl.Source

/-! The program: it reads its arguments, does what they ask for and ends with an exit code. Failures
are told on standard error and have codes of their own. After a fault that nobody foresaw, a log is
left in the directory for the data of the user. -/

namespace SchemaDecl.Program

def version : String := "schemagen 0.1.0"

def usage : String := "Usage: schemagen [OPTIONS] COMMAND [ARGS]..."

/-- The exit code for arguments that cannot be understood. -/
def usageCode : Int := 2

/-! ### Commands -/

def loadDocument (source : String) : Work Document := do
  let v ← (Source.ofText source).load
  Work.ofExcept (Document.ofValue v)

/-- Generates modules from a document and writes them. The code tells whether a definition was
skipped. -/
def generate (source : String) (o : Settings.Overrides) : Work Int := do
  let here : Path ← Work.query .workingDirectory
  let settings ← Settings.resolve here o
  let doc ← loadDocument source
  let out := Path.ofText settings.outputDir
  let previous ← Storage.loadLock out
  match previous with
  | some es =>
    Work.say (.debug ("Loaded " ++ toString es.length ++ " registry entries from previous run"))
  | none => pure ()
  let g ← Work.ofRun (Generation.run doc settings (previous.getD []))
  let written ← Storage.save out g
  g.failures.forM fun (name, e) =>
    Work.say (.warning ("Skipped " ++ name.display ++ ": " ++ e.message))
  Work.say (.success ("Generated " ++ toString g.declarations.length ++ " of " ++
    toString doc.entries.length ++ " schemas into " ++ out.text ++ " (" ++
    toString written.length ++ " files changed)"))
  return if g.failures.isEmpty then 0 else FailureKind.document.exitCode

/-- Lists the definitions of a document. -/
def inspect (report : Report) (source : String) : Work Int := do
  let doc ← loadDocument source
  let rows ← Work.ofRun (Inspection.rows doc)
  let (text, complete) := report.table Inspection.headers (rows.map Inspection.Row.cells)
  Work.say (.data text)
  if complete then return 0 else Work.fail .wrongType

def command (report : Report) : Arguments.Command → Work Int
  | .generate source o => generate source o
  | .inspect source => inspect report source

/-! ### Faults -/

/-- The directory of the user, which no tilde can stand for. -/
def homeDirectory : Work Path := do
  let home : Option String ← Work.query (.variable "HOME")
  match home.filter (· != "") with
  | some h => if h.startsWith "~" then Work.fail .noHome else return Path.ofText h
  | none => return Path.ofText "/"

/-- The directory for the data of the user, which is made if it is not there. -/
def dataDirectory : Work Path := do
  let chosen : Option String ← Work.query (.variable "XDG_DATA_HOME")
  let base ← match chosen.filter (· != "") with
    | some v => pure (Path.ofText v)
    | none => pure ((← homeDirectory).entry ".local/share")
  let p := base.entry "schemagen"
  Storage.ensureDirectory p
  return p

/-- Leaves a log of a fault and names its file. -/
def leaveLog (fault : Fault) : Work Path := do
  let directory := (← dataDirectory).entry "logs"
  Storage.ensureDirectory directory
  let time : String ← Work.query .time
  let p := directory.entry ("crash-" ++ time ++ ".log")
  Storage.order (.write p (Text.encode (version ++ "\n" ++ fault.message ++ "\n")))
  return p

/-- The exit code of work, after telling what it failed of. -/
def concluded (work : Work Int) : Work Int := do
  match ← work.attempt with
  | .ok code => return code
  | .error (.failure f) =>
    Work.say (.error f.message)
    return f.exitCode
  | .error fault =>
    let p ← leaveLog fault
    Work.say (.error ("Unexpected error. Debug log: " ++ p.text))
    return FailureKind.general.exitCode

/-- The work that the arguments ask for. -/
def work : Option Arguments.Request → Work Int
  | none => do
    Work.say (.error usage)
    return usageCode
  | some .version => do
    Work.say (.data (version ++ "\n"))
    return 0
  | some .help => do
    Work.say (.data (usage ++ "\n"))
    return 0
  | some (.run report c) => concluded (command report c)

/-- How a run tells what it tells. -/
def reportOf : Option Arguments.Request → Report
  | some (.run report _) => report
  | _ => {}

end SchemaDecl.Program
