import SchemaDecl.Http.Host
import SchemaDecl.Text.Charset

/-! The parameters of a content type: names with values, parted by semicolons that stand between no
quotes. A value may be quoted. A long one may be given in numbered pieces, and one in which bytes are
written after percent signs begins with an encoding and a language. -/

namespace SchemaDecl.ContentType

/-! ### Parts -/

def trim (s : List Char) : List Char :=
  Text.trimList s

/-- Cuts at the semicolons before which the quotes without a backslash are even in number. `quotes`
counts them in the part so far, which is kept in reverse. -/
def parts (quotes : Int) (part : List Char) : List Char → List (List Char)
  | [] => [trim part.reverse]
  | ';' :: s =>
    if quotes % 2 == 0 || part.isEmpty then trim part.reverse :: parts 0 [] s
    else parts quotes (';' :: part) s
  | '"' :: s =>
    parts (if part.head? == some '\\' then quotes else quotes + 1) ('"' :: part) s
  | c :: s => parts quotes (c :: part) s

/-- The name, in small letters, and the value of a part. -/
def field (part : List Char) : List Char × List Char :=
  match Host.split '=' part with
  | name :: value :: more =>
    ((trim name).map Char.toLower, trim (['='].intercalate (value :: more)))
  | _ => (part, [])

/-- Takes off quotes, or angle brackets, around a value. -/
def unquote (s : List Char) : List Char :=
  let inner := (s.drop 1).dropLast
  if s.length < 2 then s
  else if s.head? == some '"' && s.getLast? == some '"' then plainQuotes (plainSlashes inner)
  else if s.head? == some '<' && s.getLast? == some '>' then inner
  else s
where
  plainSlashes : List Char → List Char
    | '\\' :: '\\' :: s => '\\' :: plainSlashes s
    | c :: s => c :: plainSlashes s
    | [] => []
  plainQuotes : List Char → List Char
    | '\\' :: '"' :: s => '"' :: plainQuotes s
    | c :: s => c :: plainQuotes s
    | [] => []

/-! ### Pieces -/

/-- A piece of a value: its number, and whether bytes are written after percent signs in it. -/
structure Piece where
  number : Option Nat
  text : List Char
  isCoded : Bool

/-- The name that a piece belongs to, and its number, if the name of the part says that it is one. -/
def pieceName? (name : List Char) : Option (List Char × Option Nat) :=
  let base := name.takeWhile fun c => c.isAlphanum || c == '_'
  match name.drop base.length with
  | '*' :: rest =>
    let digits := rest.takeWhile Char.isDigit
    let behind := rest.drop digits.length
    if base.isEmpty || !(behind.isEmpty || (!digits.isEmpty && behind == ['*'])) then none
    else some (base, if digits.isEmpty then none else some (Numeral.natOf 10 digits))
  | _ => none

/-- The bytes of a coded piece, each as the character of the same number. -/
def codedText (s : List Char) : List Char :=
  (Percent.bytes s).map fun b => Char.ofNat b.toNat

/-- The value that pieces make up in the order of their numbers. In one with a coded piece the text
stands behind the second apostrophe, and the encoding before the first. -/
def join (ps : List Piece) : List Char :=
  let ps := ps.mergeSort fun a b =>
    let m := a.number.getD 0
    let n := b.number.getD 0
    m < n || (m == n && !(b.text < a.text))
  let whole := ps.flatMap fun p => if p.isCoded then codedText p.text else p.text
  if ps.any Piece.isCoded then
    match Host.split '\'' whole with
    | charset :: _ :: text :: more =>
      let text := ['\''].intercalate (text :: more)
      (recoded? (String.ofList charset) text).getD text
    | _ => whole
  else whole
where
  recoded? (charset : String) (text : List Char) : Option (List Char) := do
    let c ← Text.Charset.ofName? (if charset == "" then "us-ascii" else charset)
    let t ← (c.decode (text.map fun c => c.toNat.toUInt8)).toOption
    if t.toList.contains '\ufffd' then none else some t.toList

/-- The value of a parameter. The part in front, which names the type, counts like the others. -/
def value? (name : String) (type : String) : Option (List Char) :=
  let fields := (parts 0 [] type.toList).map field
  let name := name.toList
  let plain (f : List Char × List Char) : Bool := f.1.map Char.toLower == name
  match fields with
  | [] => none
  | first :: rest =>
    let whole := rest.filter fun f => (pieceName? f.1).isNone
    let bases := rest.filterMap fun f => (pieceName? f.1).map Prod.fst
    let chosen := bases.find? fun b => b.map Char.toLower == name
    let pieces := rest.filterMap fun f => do
      let (base, number) ← pieceName? f.1
      if some base == chosen then some (Piece.mk number (unquote f.2) (f.1.getLast? == some '*'))
      else none
    if plain first then some (unquote first.2)
    else
      match whole.find? plain with
      | some f => some (unquote f.2)
      | none => if pieces.isEmpty then none else some (join pieces)

/-- The name of the encoding that a content type declares. -/
def charset? (type : String) : Option String := do
  let s ← value? "charset" type
  if s.all fun c => c.toNat < 128 then some (String.ofList (s.map Char.toLower)) else none

example : charset? "text/plain; Charset=\"Latin-1\"; x=y" = some "latin-1" := by decide +kernel

end SchemaDecl.ContentType
