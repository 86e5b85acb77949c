import SchemaDecl.Deflate.Inflate
import SchemaDecl.Failure
import SchemaDecl.Http.ContentType
import SchemaDecl.Http.Url
import SchemaDecl.Json.Encoding
import SchemaDecl.Text.Ascii

/-! Requests to a service and its responses. Header fields are ASCII. A body is a sequence of bytes, from
which the encodings that the header tells are taken off when it arrives; read as text, it is in the
character set that the header declares. -/

namespace SchemaDecl

/-! ### Headers -/

/-- Header fields, their names in small letters. -/
abbrev Headers := List (String × String)

namespace Headers

def ofFields (fields : List (String × String)) : Headers :=
  fields.map fun f => (f.1.toLower, f.2)

/-- The fields, if there is nothing but ASCII in them. -/
def read (fields : List (String × String)) : Except Text.NotAscii Headers := do
  for (name, value) in fields do
    Text.requireAscii name
    Text.requireAscii value
  return ofFields fields

/-- The value of a field, joined from all of its lines. -/
def get? (hs : Headers) (name : String) : Option String :=
  match (hs.filter fun h => h.1 == name).map Prod.snd with
  | [] => none
  | vs => some (", ".intercalate vs)

def erase (hs : Headers) (name : String) : Headers :=
  hs.filter fun h => h.1 != name

/-- The fields with one that takes the place of all of its name. -/
def put (hs : Headers) (name value : String) : Headers :=
  hs.erase name ++ [(name, value)]

end Headers

structure Request where
  method : String
  url : Url
  headers : Headers
  body : Option String
  deriving DecidableEq, Repr

structure Response where
  status : Nat
  headers : Headers
  body : List UInt8
  deriving DecidableEq, Repr

namespace Response

/-! ### Bodies -/

/-- Takes one packing off. -/
def unpack (packing : String) (body : List UInt8) : Except String (List UInt8) :=
  if packing == "deflate" then Deflate.inflate body
  else if packing == "gzip" then Deflate.inflateFile body
  else .ok body

/-- The ways in which the header says that the body was packed, the first one first. -/
def packings (hs : Headers) : List String :=
  let names := (Host.split ',' ((hs.get? "content-encoding").getD "").toList).map fun name =>
    (String.ofList (Text.trimList name)).toLower
  names.filter fun n => n == "gzip" || n == "deflate"

def unpacked (hs : Headers) (body : List UInt8) : Except String (List UInt8) :=
  if body.isEmpty then .ok [] else (packings hs).reverse.foldlM (fun b packing => unpack packing b) body

/-- A response as it arrives. -/
def arrived (status : Nat) (fields : List (String × String)) (body : List UInt8) :
    Except Fault Response := do
  let headers ← (Headers.read fields).mapError .notAscii
  let body ← (unpacked headers body).mapError fun reason =>
    .transport ⟨.decoding, "Error -3 while decompressing data: " ++ reason⟩
  return { status, headers, body }

/-- The character set of the body. -/
def charset (r : Response) : Text.Charset :=
  ((r.headers.get? "content-type" >>= ContentType.charset?) >>= Text.Charset.ofName?).getD .utf8

def text (r : Response) : Except Fault String :=
  if r.body.isEmpty then .ok "" else (r.charset.decode r.body).mapError .undecodable

/-- The value that the body spells, or why it spells none. -/
def json (r : Response) : Except String Value :=
  Json.readBytes r.body

/-! ### Status -/

/-- Whether the response carries what was asked for. -/
def isSuccess (r : Response) : Bool :=
  200 ≤ r.status && r.status < 300

/-- Where the response sends its reader. -/
def redirection? (r : Response) : Option String :=
  if [301, 302, 303, 307, 308].contains r.status then r.headers.get? "location" else none

end Response

end SchemaDecl
