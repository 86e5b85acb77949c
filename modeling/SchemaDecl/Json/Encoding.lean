import SchemaDecl.Json.Reader
import SchemaDecl.Text.Charset

/-! JSON as bytes. The encoding shows in the first bytes: by a mark, or by where the zeros are among
those of the first two characters, which are ASCII. -/

namespace SchemaDecl.Json

/-- The encodings that JSON may have. -/
inductive Encoding where
  | utf8
  | wide (form : Text.Wide.Form)
  deriving DecidableEq, Repr

/-- The encoding of bytes, and the bytes behind a mark. -/
def encodingOf (bytes : List UInt8) : Encoding × List UInt8 :=
  match Text.Charset.takeMark? true bytes, Text.Charset.takeMark? false bytes with
  | some (isBig, rest), _ => (.wide ⟨true, isBig⟩, rest)
  | none, some (isBig, rest) => (.wide ⟨false, isBig⟩, rest)
  | none, none =>
    match bytes with
    | 0xEF :: 0xBB :: 0xBF :: rest => (.utf8, rest)
    | 0 :: b :: _ :: _ :: _ => (.wide ⟨b == 0, true⟩, bytes)
    | _ :: 0 :: c :: d :: _ => (.wide ⟨c == 0 && d == 0, false⟩, bytes)
    | [0, _] => (.wide ⟨false, true⟩, bytes)
    | [_, 0] => (.wide ⟨false, false⟩, bytes)
    | _ => (.utf8, bytes)

/-- The characters that bytes spell, or why they spell none. -/
def charsOf (bytes : List UInt8) : Except String (List Char) :=
  match encodingOf bytes with
  | (.utf8, bytes) => ((Text.decode bytes).mapError Text.Utf8Error.message).map String.toList
  | (.wide form, bytes) => form.decode bytes

/-- Reads bytes as one value, or tells why they spell none. -/
def readBytes (bytes : List UInt8) : Except String Value := do
  let s ← charsOf bytes
  (readPlain s).mapError fun e => (e.locate s).message

end SchemaDecl.Json
