import SchemaDecl.Client
import SchemaDecl.Files.Tree
import SchemaDecl.Work

/-! A world as a value, which answers all that work asks: files, an environment, an input and a clock.
What lies behind addresses is known to a transport, which may change it. -/

namespace SchemaDecl

structure World (σ : Type) where
  files : Files := {}
  environment : List (String × String) := []
  /-- Where the paths begin that do not begin at the top. -/
  directory : Path := ⟨true, []⟩
  input : String := ""
  time : String := ""
  net : σ

namespace World

variable {σ α : Type}

/-- The path from the top to what a path names. -/
def place (w : World σ) (p : Path) : Path :=
  w.directory.join p

/-- The answer of files that stay as they are. -/
def look (f : World σ → Except FileFault α) : Act (World σ) (Except FileFault α) := do
  let w ← Act.get
  return f w

/-- The answer of files that change unless they refuse. -/
def change (f : World σ → Except FileFault (α × Files)) : Act (World σ) (Except FileFault α) := do
  let w ← Act.get
  match f w with
  | .ok (x, files) =>
    Act.set { w with files }
    return .ok x
  | .error e => return .error e

/-- The response at an address, as a client without a base gets it. -/
def fetch (carry : Transport σ) (url : String) : Act (World σ) (Except Fault Response) :=
  match Client.requestFor ⟨"", [], none⟩ {} "GET" url none none with
  | .error e => pure (.error e)
  | .ok request =>
    Act.on World.net (fun net w => { w with net }) (Act.attempt (carry.send request))

/-- What becomes of the files. What is written to a file is there at once. Nothing can take the place of
a directory that is not called by its name. -/
def act (w : World σ) : FileAction → Except FileFault Files
  | .makeDirectory p => w.files.makeDirectory (w.place p)
  | .write p bytes => w.files.write (w.place p) bytes
  | .flush _ | .sync _ | .close _ => .ok w.files
  | .rename source target =>
    if target.isNamed then w.files.rename (w.place source) (w.place target) else .error .busy
  | .remove p => w.files.remove (w.place p)

/-- Answers a question. -/
def answer (carry : Transport σ) : (q : Query) → Act (World σ) q.Answer
  | .variable name => do return (← Act.get).environment.lookup name
  | .workingDirectory => do return (← Act.get).directory
  | .standardInput => do return (← Act.get).input
  | .time => do return (← Act.get).time
  | .fetch url => fetch carry url
  | .kind p => look fun w => w.files.kind (w.place p)
  | .read p => look fun w => w.files.read (w.place p)
  | .createTemporary d name => change fun w => w.files.createTemporary (w.place d) name
  | .act a => change fun w => (act w a).map fun files => ((), files)

/-- Carries work out in a world. -/
def perform (carry : Transport σ) (work : Work α) : Act (World σ) α :=
  work.carryOut (answer carry)

end World

end SchemaDecl
