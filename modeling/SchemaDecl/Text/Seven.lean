import SchemaDecl.Text.Base64
import SchemaDecl.Text.Wide

/-! Texts in seven bits. Most characters of ASCII stand for themselves; between a plus sign and the first
character that is none of the base 64 stand the units of two bytes of all others. A hyphen behind them is
dropped, and a plus sign with a hyphen behind it is a plus sign. Damage becomes replacement characters. -/

namespace SchemaDecl.Text.Seven

/-- What is open between a plus sign and the next unit: how many bits are left over, their number, and
half of a character. -/
structure Shift where
  bits : Nat := 0
  number : Nat := 0
  half : Option Nat := none
  deriving Repr

def loneHalf (s : Shift) : List Char :=
  if s.half.isSome then ['\ufffd'] else []

/-- Takes six bits, and what they complete. -/
def Shift.push (s : Shift) (n : Nat) : Shift × List Char :=
  let bits := s.bits + 6
  let number := s.number * 64 + n
  if bits < 16 then ({ s with bits, number }, [])
  else
    let size := Nat.pow 2 (bits - 16)
    let unit := number / size
    let next : Shift := { bits := bits - 16, number := number % size }
    match s.half with
    | some high =>
      if Wide.isLowerHalf unit then
        (next, [Char.ofNat (0x10000 + (high - 0xD800) * 1024 + (unit - 0xDC00))])
      else if Wide.isUpperHalf unit then ({ next with half := some unit }, ['\ufffd'])
      else (next, ['\ufffd', Char.ofNat unit])
    | none =>
      if Wide.isUpperHalf unit then ({ next with half := some unit }, [])
      else if Wide.isLowerHalf unit then (next, ['\ufffd'])
      else (next, [Char.ofNat unit])

/-- Whether bits are left over that make no unit and are not just filling. -/
def Shift.isBroken (s : Shift) : Bool :=
  6 ≤ s.bits || s.number != 0

/-- Where the next character stands: among those that mean themselves, behind a plus sign, or among the
signs of units. -/
inductive Place where
  | plain
  | opened
  | inside (shift : Shift)
  deriving Repr

/-- A character that means itself. -/
def own (c : Char) : Char :=
  if c.toNat < 128 then c else '\ufffd'

/-- Takes a character, and what it completes. -/
def Place.next : Place → Char → Place × List Char
  | .plain, c => if c == '+' then (.opened, []) else (.plain, [own c])
  | .opened, c =>
    match Base64.sixBits? c with
    | some n => let (s, out) := Shift.push {} n; (.inside s, out)
    | none => (.plain, [if c == '-' then '+' else '\ufffd'])
  | .inside s, c =>
    match Base64.sixBits? c with
    | some n => let (s, out) := s.push n; (.inside s, out)
    | none =>
      if s.isBroken then (.plain, ['\ufffd'])
      else if c == '+' then (.opened, [])
      else if c == '-' then (.plain, loneHalf s)
      else (.plain, (if c.toNat < 128 then loneHalf s else []) ++ [own c])

/-- What the end of the text shows. -/
def Place.ending : Place → List Char
  | .inside s => if s.half.isSome || s.isBroken then ['\ufffd'] else []
  | _ => []

/-- Reads characters from a place on. -/
def read : Place → List Char → List Char
  | p, [] => p.ending
  | p, c :: rest =>
    let (p, out) := p.next c
    out ++ read p rest

def decode (bytes : List UInt8) : String :=
  String.ofList (read .plain (bytes.map fun b => Char.ofNat b.toNat))

end SchemaDecl.Text.Seven
