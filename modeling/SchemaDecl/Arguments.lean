import SchemaDecl.Report
import SchemaDecl.Settings.Sources

/-! The arguments of the command line. Options may be joined: short ones behind one dash, and a value
to its option. Two dashes end the options. Before the name of a command stand the options that hold for
every command; those of the command stand behind it, among its other arguments. -/

namespace SchemaDecl.Arguments

/-! ### Options -/

/-- The options that a command knows, with the names they go by. -/
structure Options where
  /-- Options without a value. -/
  flags : List (String × String)
  /-- Options with a value. -/
  settings : List (String × String) := []

/-- An option that was given, with its value if it has one. -/
structure Given where
  option : String
  value : String := ""
  deriving DecidableEq, Repr

/-- What an argument that begins with a dash stands for: some flags, and an option perhaps that needs a
value or has it joined on. -/
structure Joined where
  flags : List Given
  pending : Option (String × Option String) := none

/-- Reads short options behind one dash. -/
def readShort (o : Options) : List Char → Option Joined
  | [] => some ⟨[], none⟩
  | c :: rest =>
    let word := String.ofList ['-', c]
    match o.flags.lookup word, o.settings.lookup word with
    | some name, _ => (readShort o rest).map fun j => { j with flags := ⟨name, ""⟩ :: j.flags }
    | none, some name =>
      some ⟨[], some (name, if rest.isEmpty then none else some (String.ofList rest))⟩
    | none, none => none

/-- Reads an argument that begins with a dash, if the options know it. -/
def readOption (o : Options) (arg : String) : Option Joined :=
  let s := arg.toList
  let word := String.ofList (s.takeWhile (· != '='))
  let value := match s.dropWhile (· != '=') with
    | [] => none
    | _ :: v => some (String.ofList v)
  let isLong := word.startsWith "--"
  match o.flags.lookup word, o.settings.lookup word with
  | some name, _ =>
    if isLong then (if value.isSome then none else some ⟨[⟨name, ""⟩], none⟩)
    else readShort o (s.drop 1)
  | none, some name => if isLong then some ⟨[], some (name, value)⟩ else readShort o (s.drop 1)
  | none, none => if arg.startsWith "--" then none else readShort o (s.drop 1)

def isOption (arg : String) : Bool :=
  arg.startsWith "-" && arg != "-"

/-- Splits arguments into the options that were given and the others. Where options must come first,
the first other argument ends them. -/
def split (o : Options) (mixed : Bool) : List String → Option (List Given × List String)
  | [] => some ([], [])
  | arg :: rest =>
    if arg == "--" then some ([], rest)
    else if !isOption arg then
      if mixed then (split o mixed rest).map fun (gs, others) => (gs, arg :: others)
      else some ([], arg :: rest)
    else
      match readOption o arg with
      | none => none
      | some ⟨flags, none⟩ => (split o mixed rest).map fun (gs, others) => (flags ++ gs, others)
      | some ⟨flags, some (name, some v)⟩ =>
        (split o mixed rest).map fun (gs, others) => (flags ++ ⟨name, v⟩ :: gs, others)
      | some ⟨flags, some (name, none)⟩ =>
        match rest with
        | [] => none
        | v :: rest =>
          (split o mixed rest).map fun (gs, others) => (flags ++ ⟨name, v⟩ :: gs, others)

/-! ### Commands -/

inductive Command where
  | generate (source : String) (overrides : Settings.Overrides)
  | inspect (source : String)
  deriving DecidableEq, Repr

/-- What a command line asks for. -/
inductive Request where
  | version
  | help
  | run (report : Report) (command : Command)
  deriving DecidableEq, Repr

def generalOptions : Options where
  flags := [("--version", "version"), ("--help", "help"), ("--json", "json"), ("--plain", "plain"),
    ("--no-color", "no-color"), ("--quiet", "quiet"), ("-q", "quiet"), ("--verbose", "verbose"),
    ("-v", "verbose")]

def generateOptions : Options where
  flags := [("--help", "help"), ("--keep-going", "keep-going"), ("--fail-fast", "fail-fast")]
  settings := [("--output-dir", "output-dir"), ("-o", "output-dir"), ("--target", "target"),
    ("-t", "target")]

def inspectOptions : Options where
  flags := [("--help", "help")]

def has (gs : List Given) (option : String) : Bool :=
  gs.any fun g => g.option == option

/-- The value of the last option of this name. -/
def last? (gs : List Given) (option : String) : Option String :=
  ((gs.filter fun g => g.option == option).getLast?).map Given.value

/-- The last word on whether to keep going. -/
def keepGoing? (gs : List Given) : Option Bool :=
  ((gs.filter fun g => g.option == "keep-going" || g.option == "fail-fast").getLast?).map
    fun g => g.option == "keep-going"

/-- Output is never coloured; without the option that says so remarks are laid out for a screen. -/
def reportOf (gs : List Given) : Report where
  format := if has gs "json" then .json else .plain
  quiet := has gs "quiet"
  verbose := has gs "verbose"
  width := if has gs "no-color" then none else some Report.usualWidth

/-- The command with its arguments, of which there is one besides the options. -/
def readCommand (report : Report) (name : String) (args : List String) : Option Request :=
  let finish (gs : List Given) (others : List String) (command : String → Command) : Option Request :=
    if has gs "help" then some .help
    else
      match others with
      | [source] => some (.run report (command source))
      | _ => none
  if name == "generate" then do
    let (gs, others) ← split generateOptions true args
    finish gs others fun source => .generate source {
      target := last? gs "target"
      outputDir := last? gs "output-dir"
      keepGoing := keepGoing? gs }
  else if name == "inspect" then do
    let (gs, others) ← split inspectOptions true args
    finish gs others .inspect
  else none

/-- What the arguments ask for, if they can be understood. -/
def read (args : List String) : Option Request := do
  let (gs, others) ← split generalOptions false args
  match gs.find? fun g => g.option == "version" || g.option == "help" with
  | some g => some (if g.option == "version" then .version else .help)
  | none =>
    match others with
    | [] => none
    | name :: rest => readCommand (reportOf gs) name rest

end SchemaDecl.Arguments
