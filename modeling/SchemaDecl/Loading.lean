import SchemaDecl.Document
import SchemaDecl.Yaml.Reader

/-! The formats of documents. A text is read as JSON first and as YAML when that fails, unless
something said beforehand which of the two it is. -/

namespace SchemaDecl

/-- What is known of the format of a text. -/
inductive Format where
  | unknown
  | json
  | yaml
  deriving DecidableEq, Repr

namespace Format

def requireObject (v : Value) : Except Fault Value :=
  match v with
  | .map _ => .ok v
  | v => .error (.failure (.document (.notObject v)))

/-- Reads YAML; `json` is the error of an attempt with JSON before. -/
def readYaml (text : String) (json : Option Json.Error) : Except Fault Value :=
  match Yaml.read text with
  | .ok v => requireObject v
  | .error .malformed => .error (.failure (.document (.undecodable json)))
  | .error f => .error (Fault.ofFlaw f)

/-- The object that a text describes. -/
def read (format : Format) (text : String) : Except Fault Value :=
  if format == .yaml then readYaml text none
  else
    match Json.read text with
    | .ok v => requireObject v
    | .error (.tooManyDigits n) => .error (.badValue (Json.Error.tooManyDigits n).message)
    | .error e =>
      if format == .json then .error (.failure (.document (.notJson e))) else readYaml text (some e)

end Format

end SchemaDecl
