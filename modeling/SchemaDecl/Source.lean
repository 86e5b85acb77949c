import SchemaDecl.Loading
import SchemaDecl.Storage

/-! Sources of documents: the standard input, a service, a file. What is known of a source says which
format its text has: the type that a service declares, or the suffix of a file. -/

namespace SchemaDecl

inductive Source where
  | input
  | web (url : String)
  | file (path : String)
  deriving DecidableEq, Repr

namespace Source

def ofText (text : String) : Source :=
  if text == "-" then .input
  else if text.startsWith "http://" || text.startsWith "https://" then .web text
  else .file text

/-- The format that a content type declares. -/
def formatOfType (type : String) : Format :=
  let mentions (word : String) : Bool := Document.occursIn word.toList type.toList
  if mentions "json" then .json
  else if mentions "yaml" || mentions "yml" then .yaml
  else .unknown

/-- The format that the suffix of a file stands for. -/
def formatOfSuffix (suffix : String) : Format :=
  let suffix := suffix.toLower
  if suffix == ".json" then .json
  else if suffix == ".yaml" || suffix == ".yml" then .yaml
  else .unknown

def refuse {α : Type} (e : DocumentError) : Work α :=
  Work.fail (.failure (.document e))

/-- The document of a response. -/
def ofResponse (url : String) (r : Response) : Except Fault Value := do
  if !r.isSuccess then throw (.failure (.document (.refused r.status url)))
  (formatOfType ((r.headers.get? "content-type").getD "")).read (← r.text)

/-- What it comes to that a file cannot be read. -/
def unread (path : String) (f : Fault) : Fault :=
  match f with
  | .file e =>
    match e.report? (Path.ofText path).text with
    | some reason => .failure (.document (.unreadable path reason))
    | none => f
  | _ => f

/-- The document that a source holds. -/
def load : Source → Work Value
  | .input => do
    let text ← Work.query .standardInput
    if Text.isAllBlank text then refuse .noInput
    else Work.ofExcept (Format.unknown.read text)
  | .web url => do
    match ← Work.query (.fetch url) with
    | .error (.transport e) => refuse (.unreachable url e.message)
    | .error f => Work.fail f
    | .ok r => Work.ofExcept (ofResponse url r)
  | .file path => do
    let p := Path.ofText path
    if !(← Storage.isFile p) then refuse (.missing path)
    else do
      match ← Work.attempt (Storage.readText p) with
      | .error f => Work.fail (unread path f)
      | .ok text =>
        if Text.isAllBlank text then refuse (.empty path)
        else Work.ofExcept ((formatOfSuffix p.suffix).read text)

end Source

end SchemaDecl
