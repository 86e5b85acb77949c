import SchemaDecl.Name
import SchemaDecl.Definition.Decode
import SchemaDecl.Http.Host
import SchemaDecl.Json.Reader
import SchemaDecl.Json.Writer
import SchemaDecl.Text.Ascii
import SchemaDecl.Text.Charset
import SchemaDecl.Yaml.Cursor

/-! Why work fails. A failure is foreseen: it has a message for the user and an exit code by which
scripts tell a broken document from a broken network. Every other fault is a value used where its
kind has no meaning, or trouble with files and connections that nobody takes care of. -/

namespace SchemaDecl

/-! ### Definitions that cannot be used -/

inductive SchemaError where
  /-- A reference to a definition that the document lacks, with the definition that refers to it. -/
  | unresolved (name : String) (referrer : Option Name)
  /-- A type that has no counterpart, or none at all. -/
  | unsupported (type : Option String) (owner : Option Name)
  | emptyEnum (owner : Option Name)
  | emptyOneOf (owner : Option Name)
  | arrayWithoutItems (owner : Option Name)
  deriving Repr

/-- The name of a definition behind some words, if it has one. -/
def mention (before after : String) (owner : Option Name) : String :=
  match owner with
  | some n => if n.isTruthy then before ++ n.display ++ after else ""
  | none => ""

def SchemaError.message : SchemaError → String
  | .unresolved name referrer =>
    "Cannot resolve $ref: schema '" ++ name ++ "' not found" ++
      mention " (referenced from '" "')" referrer
  | .unsupported none owner =>
    "Schema node has no recognised type" ++ mention " in schema '" "'" owner
  | .unsupported (some t) owner =>
    "Unsupported schema type '" ++ t ++ "'" ++ mention " in schema '" "'" owner
  | .emptyEnum owner => "Empty enum" ++ mention " in schema '" "'" owner
  | .emptyOneOf owner => "Empty oneOf" ++ mention " in schema '" "'" owner
  | .arrayWithoutItems owner => "Array node without 'items'" ++ mention " in schema '" "'" owner

/-! ### Documents that cannot be read -/

/-- Stands in messages for a list of issues, which is reported apart from them. -/
def issuesMark : String := "<validation>"

inductive DocumentError where
  | noInput
  | missing (path : String)
  | empty (path : String)
  | unreadable (path reason : String)
  | refused (status : Nat) (url : String)
  | unreachable (url reason : String)
  | notJson (e : Json.Error)
  /-- Neither of the two formats; the first was not tried when the text was said to have the other. -/
  | undecodable (json : Option Json.Error)
  | notObject (v : Value)
  | sectionNotObject (v : Value)
  | invalidDefinition (name : Name) (issues : List Issue)
  deriving Repr

def DocumentError.message : DocumentError → String
  | .noInput => "No input received from stdin"
  | .missing path => "Schema document not found: " ++ path
  | .empty path => "Schema document is empty: " ++ path
  | .unreadable path reason => "Failed to read schema document " ++ path ++ ": " ++ reason
  | .refused status url =>
    "HTTP " ++ toString status ++ " fetching schema document from " ++ url
  | .unreachable url reason => "Failed to fetch schema document from " ++ url ++ ": " ++ reason
  | .notJson e => "Invalid JSON: " ++ e.message
  | .undecodable json =>
    "Failed to parse schema document as JSON or YAML" ++
      (match json with
      | some e => "\n  JSON error: " ++ e.message
      | none => "") ++ "\n  YAML error"
  | .notObject v =>
    "Schema document must be a JSON/YAML object (got " ++
      (if v.isNull then "empty document" else v.kindName) ++ ")"
  | .sectionNotObject v => "Schemas section must be an object (got " ++ v.kindName ++ ")"
  | .invalidDefinition name _ =>
    "Invalid definition for schema '" ++ name.display ++ "': " ++ issuesMark

/-! ### Settings and records of earlier runs -/

inductive ConfigError where
  | unreadableSettings (path reason : String)
  | settingsNotObject (path : String)
  | invalidSettings (issues : List Issue)
  | unreadableLock (path reason : String)
  | lockNotList
  | malformedEntry (entry : Value)
  | repeatedEntry (entry : Value)
  deriving Repr

def ConfigError.message : ConfigError → String
  | .unreadableSettings path reason => "Invalid project config at " ++ path ++ ": " ++ reason
  | .settingsNotObject path => "Invalid project config at " ++ path ++ ": expected a JSON object"
  | .invalidSettings _ => "Invalid configuration: " ++ issuesMark
  | .unreadableLock path reason => "Invalid registry lock at " ++ path ++ ": " ++ reason
  | .lockNotList => "Registry lock must be a JSON array"
  | .malformedEntry entry => "Malformed registry lock entry: " ++ entry.shown
  | .repeatedEntry entry => "Duplicate registry lock entry: " ++ entry.shown

/-! ### Services -/

inductive ServiceError where
  /-- An answer with a status that says no, and what it says about it. -/
  | rejected (status : Nat) (detail : String)
  | notJson (url reason : String)
  | unreachable (url reason : String)
  deriving Repr

def ServiceError.message : ServiceError → String
  | .rejected status detail =>
    "HTTP " ++ toString status ++ (if detail.isEmpty then "" else ": " ++ detail)
  | .notJson url reason => "Response from " ++ url ++ " is not JSON: " ++ reason
  | .unreachable url reason => "Request to " ++ url ++ " failed: " ++ reason

/-! ### Failures -/

/-- The families of failures. -/
inductive FailureKind where
  | general
  | usage
  | auth
  | notFound
  | server
  | connection
  | document
  | link
  | config
  deriving DecidableEq, Repr

def FailureKind.exitCode : FailureKind → Int
  | .general | .link | .config => 1
  | .usage => 2
  | .auth => 3
  | .notFound => 4
  | .server => 5
  | .connection => 6
  | .document => 7

inductive Failure where
  | schema (e : SchemaError)
  | document (e : DocumentError)
  | config (e : ConfigError)
  | service (e : ServiceError)
  | unknownTarget (given : String)
  /-- A link that nobody is there to follow. -/
  | unboundLink (url : String)
  /-- A failure that someone else has put into words, perhaps with an exit code of its own. -/
  | stated (kind : FailureKind) (message : String) (exitCode : Option Int)
  deriving Inhabited, Repr

namespace Failure

def kind : Failure → FailureKind
  | .schema _ | .document _ => .document
  | .config _ => .config
  | .service (.rejected status _) =>
    if status == 401 || status == 403 then .auth else if status == 404 then .notFound else .server
  | .service (.notJson _ _) => .server
  | .service (.unreachable _ _) => .connection
  | .unknownTarget _ => .usage
  | .unboundLink _ => .link
  | .stated kind _ _ => kind

def message : Failure → String
  | .schema e => e.message
  | .document e => e.message
  | .config e => e.message
  | .service e => e.message
  | .unknownTarget given =>
    "Unknown target '" ++ given ++ "' (expected one of: python, typescript)"
  | .unboundLink url => "No client available to resolve " ++ url
  | .stated _ m _ => m

def exitCode : Failure → Int
  | .stated kind _ code => code.getD kind.exitCode
  | f => f.kind.exitCode

/-- What stood against the data that caused a failure. -/
def issues : Failure → List Issue
  | .document (.invalidDefinition _ issues) => issues
  | .config (.invalidSettings issues) => issues
  | _ => []

end Failure

/-! ### Faults -/

/-- What an operation on files refuses. -/
inductive FileFault where
  | missing
  | isDirectory
  | notDirectory
  | exists
  | nameTooLong
  /-- A name with the null character, which ends names. -/
  | nullInName
  /-- Something that is in use and cannot give its place to a file. -/
  | busy
  /-- The device does not take or give the data. -/
  | device
  deriving DecidableEq, Repr

def FileFault.message : FileFault → String
  | .missing => "No such file or directory"
  | .isDirectory => "Is a directory"
  | .notDirectory => "Not a directory"
  | .exists => "File exists"
  | .nameTooLong => "File name too long"
  | .nullInName => "embedded null byte"
  | .busy => "Device or resource busy"
  | .device => "Input/output error"

/-- The number by which the system calls a refusal. What cannot be a name never comes before it. -/
def FileFault.number? : FileFault → Option Nat
  | .missing => some 2
  | .device => some 5
  | .busy => some 16
  | .exists => some 17
  | .notDirectory => some 20
  | .isDirectory => some 21
  | .nameTooLong => some 36
  | .nullInName => none

/-- How the system tells of a refusal to read a file. A device does not know the name of the file. -/
def FileFault.report? (path : String) (e : FileFault) : Option String :=
  e.number?.map fun n =>
    "[Errno " ++ toString n ++ "] " ++ e.message ++
      (if e = .device then "" else ": " ++ Text.shown path)

/-- Kinds of trouble between client and service. -/
inductive TransportKind where
  | connect
  | read
  | write
  | close
  | network
  | connectTimeout
  | readTimeout
  | writeTimeout
  | poolTimeout
  | timeout
  | localProtocol
  | remoteProtocol
  | protocol
  | unsupportedScheme
  | proxy
  | transport
  | decoding
  | tooManyRedirects
  | request
  deriving DecidableEq, Repr

/-- Whether no connection came about or the one there was broke off or stood still. -/
def TransportKind.isConnection : TransportKind → Bool
  | .connect | .read | .write | .close | .network => true
  | .connectTimeout | .readTimeout | .writeTimeout | .poolTimeout | .timeout => true
  | _ => false

structure TransportFault where
  kind : TransportKind
  message : String
  deriving DecidableEq, Repr

inductive Fault where
  | failure (f : Failure)
  /-- Data that does not describe what it should. -/
  | invalid (issues : List Issue)
  | badValue (message : String)
  | notUtf8 (e : Text.Utf8Error)
  | notAscii (e : Text.NotAscii)
  /-- Bytes that spell no text in the encoding they are said to have. -/
  | undecodable (e : Text.CharsetError)
  | wrongType
  | noMember
  | missingKey
  | outOfRange
  /-- Something used before it was opened. -/
  | notOpen
  /-- No directory is known to be that of the user. -/
  | noHome
  | overflow
  | cyclic
  | file (e : FileFault)
  | transport (e : TransportFault)
  /-- An address that cannot be read as one. -/
  | badUrl (e : UrlError)
  /-- A name of a host that cannot be read as one. -/
  | badDomain (e : DomainError)
  deriving Inhabited, Repr

namespace Fault

def ofFlaw : Yaml.Flaw → Fault
  | .malformed => .failure (.document (.undecodable none))
  | .badValue m => .badValue m
  | .overflow => .overflow
  | .unknownWord => .missingKey
  | .emptyNumber => .outOfRange
  | .noTime => .noMember
  | .timeNotText => .wrongType
  | .cyclic => .cyclic

def ofWriteError : Json.WriteError → Fault
  | .unsortable | .unwritable => .wrongType
  | .circular => .badValue "Circular reference detected"
  | .tooManyDigits => .badValue Numeral.tooManyDigitsToWrite
  | .endless => .badValue "Out of range float values are not JSON compliant"

/-- What a log says of a fault. -/
def message : Fault → String
  | .failure f => f.message
  | .invalid _ => "Data does not validate"
  | .badValue m => m
  | .notUtf8 e => e.message
  | .notAscii e => e.message
  | .undecodable e => e.message
  | .wrongType => "A value is of the wrong type"
  | .noMember => "A value has no such member"
  | .missingKey => "A mapping has no such key"
  | .outOfRange => "An index is out of range"
  | .notOpen => "Used before it was opened"
  | .noHome => "Could not determine home directory."
  | .overflow => "A number is out of range"
  | .cyclic => "Data contains itself"
  | .file e => e.message
  | .transport e => e.message
  | .badUrl e => e.message
  | .badDomain e => e.message

end Fault

end SchemaDecl
