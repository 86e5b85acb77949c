import SchemaDecl.Files.Tree
import SchemaDecl.Program
import Std.Time

/-! The command line on the machine it runs on: each question of the program is put to the machine, and
what the program tells is printed as it comes. There is no network here, so no address answers. -/

namespace SchemaDecl.Machine

/-! ### Files -/

def faultOf : IO.Error → FileFault
  | .noFileOrDirectory _ _ _ => .missing
  | .alreadyExists _ _ _ => .exists
  | .inappropriateType _ code _ => if code == 20 then .notDirectory else .isDirectory
  | .invalidArgument _ 36 _ => .nameTooLong
  | .resourceBusy _ _ => .busy
  | _ => .device

/-- The answer of the machine, where a refusal is a value. -/
def asked {α : Type} (act : IO α) : IO (Except FileFault α) := do
  try
    return .ok (← act)
  catch e => return .error (faultOf e)

def kind (p : Path) : IO (Except FileFault (Option FileKind)) := do
  let found ← asked do
    let place ← IO.FS.realPath p.text
    if !(← place.pathExists) then return none
    return some (if ← place.isDir then FileKind.directory else FileKind.file)
  match found with
  | .error .missing | .error .notDirectory => return .ok none
  | r => return r

/-- Makes a file with the first name that is free, after so many tries at most. -/
def createTemporary (directory : Path) (name : String) : Nat → IO (Except FileFault Path)
  | 0 => return .error .exists
  | tries + 1 => do
    let p := directory.entry (Files.temporaryName name (10000000 + (← IO.rand 0 89999999)))
    match ← asked (IO.FS.Handle.mk p.text .writeNew) with
    | .ok _ => return .ok p
    | .error .exists => createTemporary directory name tries
    | .error e => return .error e

/-- What becomes of the files. A file is written, flushed and closed in one go. -/
def act : FileAction → IO Unit
  | .makeDirectory p => IO.FS.createDir p.text
  | .write p bytes => IO.FS.writeBinFile p.text (ByteArray.mk bytes.toArray)
  | .flush _ | .sync _ | .close _ => pure ()
  | .rename source target => IO.FS.rename source.text target.text
  | .remove p => IO.FS.removeFile p.text

/-! ### Questions -/

/-- The standard input as text. -/
def standardInput : IO String := do
  let input ← IO.getStdin
  let bytes ← input.readBinToEnd
  return Text.decodeLossy bytes.toList

/-- The time to the second. -/
def time : IO String := do
  let now ← Std.Time.PlainDateTime.now
  return now.format "uuuuMMdd-HHmmss"

def answer : (q : Query) → IO q.Answer
  | .variable name => IO.getEnv name
  | .workingDirectory => do return Path.ofText (← IO.currentDir).toString
  | .standardInput => standardInput
  | .time => time
  | .fetch _ => return .error (.transport ⟨.connect, "No network is available"⟩)
  | .kind p => kind p
  | .read p => asked do return (← IO.FS.readBinFile p.text).toList
  | .createTemporary directory name => createTemporary directory name 100
  | .act a => asked (act a)

/-- Carries work out and prints what it tells. -/
def perform {α : Type} (report : Report) : Work α → IO (Except Fault α)
  | .done r => return r
  | .tell n next => do
    let output ← IO.getStdout
    output.putStr (Report.output [n])
    output.flush
    IO.eprint (report.remarks [n])
    perform report next
  | .ask q next => do
    let a ← answer q
    perform report (next a)

end SchemaDecl.Machine

/-- Exits with the code of the program, or with that of a failure nobody foresaw. -/
def main (args : List String) : IO UInt32 := do
  let request := SchemaDecl.Arguments.read args
  let environment ← ["NO_COLOR", "TERM", "COLUMNS"].mapM fun v => return (v, ← IO.getEnv v)
  let report := (SchemaDecl.Program.reportOf request).onScreen fun v => (environment.lookup v).join
  match ← SchemaDecl.Machine.perform report (SchemaDecl.Program.work request) with
  | .ok code => return UInt32.ofNat code.toNat
  | .error fault =>
    IO.eprint (report.error fault.message)
    return 1
