import SchemaDecl.Text.Quoted

/-! Texts that must be ASCII. Of one that is not, the first characters that are out of range are told. -/

namespace SchemaDecl.Text

/-- Characters in a row that are not ASCII, and the place of the first of them. -/
structure NotAscii where
  place : Nat
  first : Char
  count : Nat
  deriving DecidableEq, Inhabited, Repr

def isAscii (c : Char) : Bool :=
  c.toNat < 128

/-- A character as its digits. -/
def codeEscape (c : Char) : String :=
  String.ofList
    (if c.toNat < 0x100 then '\\' :: 'x' :: hex 2 c.toNat
    else if c.toNat < 0x10000 then unitEscape c.toNat
    else '\\' :: 'U' :: hex 8 c.toNat)

def NotAscii.message (e : NotAscii) : String :=
  "'ascii' codec can't encode character" ++
    (if e.count == 1 then " '" ++ codeEscape e.first ++ "' in position " ++ toString e.place
    else "s in position " ++ toString e.place ++ "-" ++ toString (e.place + e.count - 1)) ++
    ": ordinal not in range(128)"

/-- Refuses a text that is not ASCII. -/
def requireAscii (s : String) : Except NotAscii Unit :=
  let plain := s.toList.takeWhile isAscii
  match s.toList.drop plain.length with
  | [] => .ok ()
  | c :: rest => .error ⟨plain.length, c, 1 + (rest.takeWhile (!isAscii ·)).length⟩

example : codeEscape 'é' = "\\xe9" := by decide +kernel

end SchemaDecl.Text
