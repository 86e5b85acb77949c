import SchemaDecl.Files.Path
import SchemaDecl.Http.Message
import SchemaDecl.Run

/-! Work that needs the world. It is a tree: at each node it tells something or asks the world a
question and goes on with the answer, and its leaves are outcomes. What the answers are is left to
whoever carries the work out, so a test can answer from a value and a program from the machine it runs
on, and any step may be made to fail. -/

namespace SchemaDecl

inductive FileKind where
  | file
  | directory
  deriving DecidableEq, Repr

/-- What work does to files. -/
inductive FileAction where
  | makeDirectory (p : Path)
  | write (p : Path) (bytes : List UInt8)
  | flush (p : Path)
  | sync (p : Path)
  | close (p : Path)
  /-- Puts one file in the place of another. -/
  | rename (source target : Path)
  | remove (p : Path)
  deriving DecidableEq, Repr

/-- What work asks of the world. -/
inductive Query where
  /-- The value of a variable of the environment. -/
  | variable (name : String)
  | workingDirectory
  | standardInput
  /-- The time, as it stands in names of files. -/
  | time
  | fetch (url : String)
  /-- What is at a path, if anything. -/
  | kind (p : Path)
  | read (p : Path)
  /-- A new empty file in a directory, open for writing, with a name made from another one. -/
  | createTemporary (directory : Path) (name : String)
  | act (a : FileAction)
  deriving DecidableEq, Repr

/-- The answers that a question has. -/
def Query.Answer : Query → Type
  | .variable _ => Option String
  | .workingDirectory => Path
  | .standardInput => String
  | .time => String
  | .fetch _ => Except Fault Response
  | .kind _ => Except FileFault (Option FileKind)
  | .read _ => Except FileFault (List UInt8)
  | .createTemporary _ _ => Except FileFault Path
  | .act _ => Except FileFault Unit

inductive Work (α : Type) : Type where
  | done (result : Except Fault α)
  | tell (n : Notice) (next : Work α)
  | ask (q : Query) (next : q.Answer → Work α)

namespace Work

variable {α β σ : Type}

def andThen : Work α → (α → Work β) → Work β
  | .done (.ok x), f => f x
  | .done (.error e), _ => .done (.error e)
  | .tell n next, f => .tell n (next.andThen f)
  | .ask q next, f => .ask q fun a => (next a).andThen f

instance : Monad Work where
  pure x := .done (.ok x)
  bind := andThen

def fail (f : Fault) : Work α := .done (.error f)

def ofExcept (r : Except Fault α) : Work α := .done r

def say (n : Notice) : Work Unit := .tell n (pure ())

/-- Work that asks nothing. -/
def ofRun (r : Run α) : Work α :=
  r.notices.foldr Work.tell (.done r.result)

def query (q : Query) : Work q.Answer := .ask q pure

/-- The answer of files, where a refusal is a fault. -/
def ofAnswer (r : Except FileFault α) : Work α :=
  .done (r.mapError Fault.file)

/-- The outcome of work, be it a failure, as a value. -/
def attempt : Work α → Work (Except Fault α)
  | .done r => .done (.ok r)
  | .tell n next => .tell n next.attempt
  | .ask q next => .ask q fun a => (next a).attempt

/-- Carries work out. -/
def carryOut (answer : (q : Query) → Act σ q.Answer) : Work α → Act σ α
  | .done r => Act.ofExcept r
  | .tell n next => do
    Act.tell n
    next.carryOut answer
  | .ask q next => do
    let a ← answer q
    (next a).carryOut answer

end Work

end SchemaDecl
