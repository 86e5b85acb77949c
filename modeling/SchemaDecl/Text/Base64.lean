/-! Bytes to the base 64. Three bytes make four characters of six bits each; equals signs fill up the
last group. -/

namespace SchemaDecl.Text.Base64

/-! ### Reading -/

/-- The bits of a character. -/
def sixBits? (c : Char) : Option Nat :=
  if 'A' ≤ c && c ≤ 'Z' then some (c.toNat - 65)
  else if 'a' ≤ c && c ≤ 'z' then some (c.toNat - 71)
  else if '0' ≤ c && c ≤ '9' then some (c.toNat + 4)
  else if c == '+' then some 62
  else if c == '/' then some 63
  else none

/-- Reads bytes, those so far in reverse. `bits` are the bits left over from the characters read of a
group of four, `read` their number and `pads` the equals signs since the last of them. Foreign
characters are passed over. -/
def decodeFrom (done : List UInt8) (read bits pads : Nat) : List Char → Option (List UInt8)
  | [] => if read == 0 then some done.reverse else none
  | c :: s =>
    if c == '=' then
      if 2 ≤ read && 4 ≤ read + pads + 1 then some done.reverse
      else decodeFrom done read bits (if 2 ≤ read then pads + 1 else pads) s
    else
      match sixBits? c with
      | none => decodeFrom done read bits pads s
      | some n =>
        match read with
        | 0 => decodeFrom done 1 n 0 s
        | 1 => decodeFrom ((bits * 4 + n / 16).toUInt8 :: done) 2 (n % 16) 0 s
        | 2 => decodeFrom ((bits * 16 + n / 4).toUInt8 :: done) 3 (n % 4) 0 s
        | _ => decodeFrom ((bits * 64 + n).toUInt8 :: done) 0 0 0 s

def decode? (s : List Char) : Option (List UInt8) :=
  decodeFrom [] 0 0 0 s

/-! ### Writing -/

/-- The character of six bits. -/
def digit (n : Nat) : Char :=
  if n < 26 then Char.ofNat (65 + n)
  else if n < 52 then Char.ofNat (71 + n)
  else if n < 62 then Char.ofNat (n - 4)
  else if n == 62 then '+'
  else '/'

def encode : List UInt8 → List Char
  | [] => []
  | [a] =>
    let a := a.toNat
    [digit (a / 4), digit (a % 4 * 16), '=', '=']
  | [a, b] =>
    let a := a.toNat
    let b := b.toNat
    [digit (a / 4), digit (a % 4 * 16 + b / 16), digit (b % 16 * 4), '=']
  | a :: b :: c :: rest =>
    let a := a.toNat
    let b := b.toNat
    let c := c.toNat
    digit (a / 4) :: digit (a % 4 * 16 + b / 16) :: digit (b % 16 * 4 + c / 64) :: digit (c % 64) ::
      encode rest

example : encode [117, 58] = ['d', 'T', 'o', '='] := by decide

example : decode? ['d', 'T', 'o', '='] = some [117, 58] := by decide

end SchemaDecl.Text.Base64
