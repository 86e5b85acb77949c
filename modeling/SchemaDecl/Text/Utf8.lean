/-! Texts as bytes, in UTF-8. Decoding refuses every sequence that encoding does not produce and
says where the first one begins and how far it was understood. -/

namespace SchemaDecl.Text

/-- What is wrong with a sequence of bytes. -/
inductive Utf8Fault where
  | badStart
  | badContinuation
  | cutShort
  deriving DecidableEq, Repr

/-- The first place at which bytes are no text: the byte there, the number of bytes before it and
the number of bytes that belong to the damage. -/
structure Utf8Error where
  first : UInt8
  start : Nat
  length : Nat
  fault : Utf8Fault
  deriving DecidableEq, Repr

def Utf8Fault.message : Utf8Fault → String
  | .badStart => "invalid start byte"
  | .badContinuation => "invalid continuation byte"
  | .cutShort => "unexpected end of data"

def hexDigit (n : Nat) : Char :=
  if n < 10 then Char.ofNat (48 + n) else Char.ofNat (87 + n)

/-- The last `width` digits of a number to the base sixteen, in small letters. -/
def hex (width n : Nat) : List Char :=
  (List.range width).map fun k => hexDigit (n / Nat.pow 16 (width - 1 - k) % 16)

/-- What is said of bytes that are no text: the encoding, the first of them, how many bytes come before,
how many are meant, and the reason. -/
def damageMessage (encoding : String) (first : UInt8) (start length : Nat) (reason : String) : String :=
  let place :=
    if length == 1 then
      "byte 0x" ++ String.ofList (hex 2 first.toNat) ++ " in position " ++ toString start
    else "bytes in position " ++ toString start ++ "-" ++ toString (start + length - 1)
  "'" ++ encoding ++ "' codec can't decode " ++ place ++ ": " ++ reason

def Utf8Error.message (e : Utf8Error) : String :=
  damageMessage "utf-8" e.first e.start e.length e.fault.message

/-- The bytes of one character. -/
def encodeChar (c : Char) : List UInt8 :=
  let n := c.toNat
  if n < 0x80 then [n.toUInt8]
  else if n < 0x800 then [(0xC0 + n / 64).toUInt8, (0x80 + n % 64).toUInt8]
  else if n < 0x10000 then
    [(0xE0 + n / 4096).toUInt8, (0x80 + n / 64 % 64).toUInt8, (0x80 + n % 64).toUInt8]
  else
    [(0xF0 + n / 262144).toUInt8, (0x80 + n / 4096 % 64).toUInt8, (0x80 + n / 64 % 64).toUInt8,
      (0x80 + n % 64).toUInt8]

def encode (s : String) : List UInt8 :=
  s.toList.flatMap encodeChar

/-- How many bytes must follow a first byte, and the least and greatest value of the next one. -/
def continuation (b : Nat) : Option (Nat × Nat × Nat) :=
  if b < 0x80 then some (0, 0x80, 0xBF)
  else if b < 0xC2 then none
  else if b < 0xE0 then some (1, 0x80, 0xBF)
  else if b == 0xE0 then some (2, 0xA0, 0xBF)
  else if b == 0xED then some (2, 0x80, 0x9F)
  else if b < 0xF0 then some (2, 0x80, 0xBF)
  else if b == 0xF0 then some (3, 0x90, 0xBF)
  else if b < 0xF4 then some (3, 0x80, 0xBF)
  else if b == 0xF4 then some (3, 0x80, 0x8F)
  else none

/-- Where decoding stands inside a character: its first byte, the bytes read of it, the bits read,
the bytes still due and the bounds on the next one. -/
structure Utf8State where
  first : UInt8
  read : Nat
  bits : Nat
  due : Nat
  low : Nat
  high : Nat

/-- The bits of a first byte that belong to the code point. -/
def leadBits (b due : Nat) : Nat :=
  if due == 1 then b - 0xC0 else if due == 2 then b - 0xE0 else b - 0xF0

/-- Decodes the bytes from number `at_` on; `done` holds the characters before in reverse. -/
def decodeFrom (at_ : Nat) (state : Option Utf8State) (done : List Char) :
    List UInt8 → Except Utf8Error (List Char)
  | [] =>
    match state with
    | none => .ok done.reverse
    | some p => .error ⟨p.first, at_ - p.read, p.read, .cutShort⟩
  | b :: rest =>
    match state with
    | none =>
      match continuation b.toNat with
      | none => .error ⟨b, at_, 1, .badStart⟩
      | some (0, _, _) => decodeFrom (at_ + 1) none (Char.ofNat b.toNat :: done) rest
      | some (due, low, high) =>
        decodeFrom (at_ + 1) (some ⟨b, 1, leadBits b.toNat due, due, low, high⟩) done rest
    | some p =>
      if p.low ≤ b.toNat && b.toNat ≤ p.high then
        let bits := p.bits * 64 + (b.toNat - 0x80)
        if p.due == 1 then decodeFrom (at_ + 1) none (Char.ofNat bits :: done) rest
        else
          decodeFrom (at_ + 1) (some ⟨p.first, p.read + 1, bits, p.due - 1, 0x80, 0xBF⟩) done rest
      else .error ⟨p.first, at_ - p.read, p.read, .badContinuation⟩

def decode (bytes : List UInt8) : Except Utf8Error String :=
  (decodeFrom 0 none [] bytes).map String.ofList

/-! ### Damaged texts -/

/-- Takes a byte at the start of a character; a byte that starts none is damage of its own. -/
def startLossy (done : List Char) (b : UInt8) : Option Utf8State × List Char :=
  match continuation b.toNat with
  | none => (none, '\ufffd' :: done)
  | some (0, _, _) => (none, Char.ofNat b.toNat :: done)
  | some (due, low, high) => (some ⟨b, 1, leadBits b.toNat due, due, low, high⟩, done)

/-- Takes one more byte. A byte that does not continue a character ends the damage before it. -/
def stepLossy (at_ : Option Utf8State × List Char) (b : UInt8) : Option Utf8State × List Char :=
  match at_ with
  | (none, done) => startLossy done b
  | (some p, done) =>
    if p.low ≤ b.toNat && b.toNat ≤ p.high then
      let bits := p.bits * 64 + (b.toNat - 0x80)
      if p.due == 1 then (none, Char.ofNat bits :: done)
      else (some ⟨p.first, p.read + 1, bits, p.due - 1, 0x80, 0xBF⟩, done)
    else startLossy ('\ufffd' :: done) b

/-- Decodes bytes, with a replacement character for every damage. -/
def decodeLossy (bytes : List UInt8) : String :=
  match bytes.foldl stepLossy (none, []) with
  | (none, done) => String.ofList done.reverse
  | (some _, done) => String.ofList ('\ufffd' :: done).reverse

end SchemaDecl.Text
