import SchemaDecl.Text.Utf8

/-! Encodings with units of two or four bytes. A unit of two may be half of a character. Halves that
stand alone are damage, or may be passed, and then stand for an unknown character. -/

namespace SchemaDecl.Text.Wide

/-- How many bytes a unit has, and whether the greatest of them comes first. -/
structure Form where
  isDouble : Bool
  isBig : Bool
  deriving DecidableEq, Repr

def Form.name (f : Form) : String :=
  (if f.isDouble then "utf-32" else "utf-16") ++ (if f.isBig then "-be" else "-le")

inductive Piece where
  | char (c : Char)
  /-- A half without the other one. -/
  | half (isUpper : Bool)
  /-- Bytes that are no text: the first, how many come before and how many belong together. -/
  | damage (first : UInt8) (start length : Nat) (reason : String)
  deriving DecidableEq, Repr

def isUpperHalf (n : Nat) : Bool :=
  0xD800 ≤ n && n < 0xDC00

def isLowerHalf (n : Nat) : Bool :=
  0xDC00 ≤ n && n < 0xE000

def cutShort (first : UInt8) (start length : Nat) : Piece :=
  .damage first start length "truncated data"

/-- The pieces of units of two bytes, from byte number `i` on. An upper half at the end leaves no room for
a lower one. -/
def pieces16 (big : Bool) (i : Nat) : List UInt8 → List Piece
  | [] => []
  | [a] => [cutShort a i 1]
  | a :: b :: rest =>
    let unit (a b : UInt8) : Nat := if big then a.toNat * 256 + b.toNat else b.toNat * 256 + a.toNat
    let n := unit a b
    if isUpperHalf n then
      match rest with
      | c :: d :: rest =>
        let m := unit c d
        if isLowerHalf m then
          .char (Char.ofNat (0x10000 + (n - 0xD800) * 1024 + (m - 0xDC00))) :: pieces16 big (i + 4) rest
        else .half true :: pieces16 big (i + 2) (c :: d :: rest)
      | rest => .half true :: pieces16 big (i + 2) rest
    else if isLowerHalf n then .half false :: pieces16 big (i + 2) rest
    else .char (Char.ofNat n) :: pieces16 big (i + 2) rest

/-- The pieces of units of four bytes, from byte number `i` on. -/
def pieces32 (big : Bool) (i : Nat) : List UInt8 → List Piece
  | [] => []
  | a :: b :: c :: d :: rest =>
    let bytes := if big then [a, b, c, d] else [d, c, b, a]
    let n := bytes.foldl (fun n b => n * 256 + b.toNat) 0
    let piece :=
      if isUpperHalf n || isLowerHalf n then .half (isUpperHalf n)
      else if 0x110000 ≤ n then .damage a i 4 "code point not in range(0x110000)"
      else .char (Char.ofNat n)
    piece :: pieces32 big (i + 4) rest
  | a :: rest => [cutShort a i (rest.length + 1)]

def Form.pieces (f : Form) (bytes : List UInt8) : List Piece :=
  if f.isDouble then pieces32 f.isBig 0 bytes else pieces16 f.isBig 0 bytes

/-- The text of pieces without damage; halves are passed. -/
def Form.decode (f : Form) (bytes : List UInt8) : Except String (List Char) :=
  (f.pieces bytes).mapM fun p =>
    match p with
    | .char c => .ok c
    | .half _ => .ok '\ufffd'
    | .damage first start length reason => .error (damageMessage f.name first start length reason)

/-- The text of pieces, with a replacement character for every damage and every half. What is left of
a character at the end is one damage with the upper half before it. -/
def replaced : List Piece → List Char
  | [] => []
  | .char c :: rest => c :: replaced rest
  | [.half true, .damage _ _ 1 _] => ['\ufffd']
  | _ :: rest => '\ufffd' :: replaced rest

def Form.decodeLossy (f : Form) (bytes : List UInt8) : String :=
  String.ofList (replaced (f.pieces bytes))

end SchemaDecl.Text.Wide
