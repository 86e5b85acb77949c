import SchemaDecl.Deflate.Code

/-! Compressed data. It is cut into blocks: bytes as they are, or symbols of two codes for bytes and for
copies of earlier bytes. The codes are fixed, or written in front of the block in a code of their own.
Data that breaks off gives what it holds up to there. -/

namespace SchemaDecl.Deflate

/-- Why data ends. -/
inductive Halt where
  /-- The bits are used up. -/
  | short
  | malformed (reason : String)
  deriving DecidableEq, Repr

/-- The bits that are left and the bytes so far. -/
structure Stream where
  bits : List Bool
  out : Array UInt8

abbrev Inflate (α : Type) := ExceptT Halt (StateM Stream) α

namespace Inflate

def bad {α : Type} (reason : String) : Inflate α :=
  throw (.malformed reason)

/-- The number that so many bits make, the lowest one first. -/
def numberOf (bits : List Bool) : Nat :=
  bits.foldr (fun b n => 2 * n + b.toNat) 0

/-- Takes bits as a number. -/
def take (n : Nat) : Inflate Nat := do
  let s ← get
  let taken := s.bits.take n
  if taken.length < n then throw .short
  set { s with bits := s.bits.drop n }
  return numberOf taken

/-- Takes bytes as a number, the lowest one first. -/
def takeBytes (n : Nat) : Inflate Nat :=
  take (8 * n)

/-- Goes on only if there are so many bytes. -/
def require (bytes : Nat) : Inflate Unit := do
  if ((← get).bits.take (8 * bytes)).length < 8 * bytes then throw .short

def put (b : UInt8) : Inflate Unit :=
  modify fun s => { s with out := s.out.push b }

/-- Takes a symbol. -/
def symbol (c : Code) (reason : String) : Inflate Nat := do
  match c.find (← get).bits with
  | .symbol s rest =>
    modify fun st => { st with bits := rest }
    return s
  | .short => throw .short
  | .nothing => bad reason

/-- Copies one byte after another from so far back. -/
def copy (distance : Nat) : Nat → Inflate Unit
  | 0 => return
  | n + 1 => do
    let out := (← get).out
    put (out.getD (out.size - distance) 0)
    copy distance n

/-! ### Blocks -/

/-- Takes so many bytes as they are. -/
def stored : Nat → Inflate Unit
  | 0 => return
  | n + 1 => do
    put (← take 8).toUInt8
    stored n

/-- Moves on to the next whole byte. -/
def align : Inflate Unit :=
  modify fun s => { s with bits := s.bits.drop (s.bits.length % 8) }

def storedBlock : Inflate Unit := do
  align
  require 4
  let n ← takeBytes 2
  let check ← takeBytes 2
  if n + check != 65535 then bad "invalid stored block lengths"
  stored n

/-- The least length that a symbol for copies stands for, and how many bits tell the rest. -/
def lengths : List (Nat × Nat) :=
  [(3, 0), (4, 0), (5, 0), (6, 0), (7, 0), (8, 0), (9, 0), (10, 0), (11, 1), (13, 1), (15, 1), (17, 1),
    (19, 2), (23, 2), (27, 2), (31, 2), (35, 3), (43, 3), (51, 3), (59, 3), (67, 4), (83, 4), (99, 4),
    (115, 4), (131, 5), (163, 5), (195, 5), (227, 5), (258, 0)]

/-- The same for the distances of copies. -/
def distances : List (Nat × Nat) :=
  [(1, 0), (2, 0), (3, 0), (4, 0), (5, 1), (7, 1), (9, 2), (13, 2), (17, 3), (25, 3), (33, 4), (49, 4),
    (65, 5), (97, 5), (129, 6), (193, 6), (257, 7), (385, 7), (513, 8), (769, 8), (1025, 9), (1537, 9),
    (2049, 10), (3073, 10), (4097, 11), (6145, 11), (8193, 12), (12289, 12), (16385, 13), (24577, 13)]

/-- The length or distance of a symbol. -/
def measure (table : List (Nat × Nat)) (s : Nat) (reason : String) : Inflate Nat := do
  match table[s]? with
  | some (least, extra) => return least + (← take extra)
  | none => bad reason

/-- Takes symbols up to the end of a block. Each takes at least one bit. -/
def coded (literals distancesCode : Code) : Nat → Inflate Unit
  | 0 => throw .short
  | fuel + 1 => do
    let s ← symbol literals "invalid literal/length code"
    if s == 256 then return
    if s < 256 then put s.toUInt8
    else
      let length ← measure lengths (s - 257) "invalid literal/length code"
      let d ← symbol distancesCode "invalid distance code"
      let distance ← measure distances d "invalid distance code"
      if (← get).out.size < distance then bad "invalid distance too far back"
      copy distance length
    coded literals distancesCode fuel

def fixedLiterals : Code :=
  .ofLengths (List.replicate 144 8 ++ List.replicate 112 9 ++ List.replicate 24 7 ++ List.replicate 8 8)

def fixedDistances : Code :=
  .ofLengths (List.replicate 32 5)

/-! ### Codes in front of a block -/

/-- The order in which the lengths of the code for lengths are written. -/
def lengthOrder : List Nat :=
  [16, 17, 18, 0, 8, 7, 9, 6, 10, 5, 11, 4, 12, 3, 13, 2, 14, 1, 15]

/-- A length, or a mark for repeats. A code without words means zero by every bit. -/
def lengthSymbol (c : Code) : Inflate Nat := do
  if c.isEmpty then
    let _ ← take 1
    return 0
  symbol c "invalid code lengths set"

/-- Takes so many lengths; those so far are in reverse. -/
def codeLengths (c : Code) (total : Nat) (done : List Nat) : Nat → Inflate (List Nat)
  | 0 => throw .short
  | fuel + 1 => do
    if total ≤ done.length then return done.reverse
    let repeated (n : Nat) (times : Nat) : Inflate (List Nat) := do
      if total < done.length + times then bad "invalid bit length repeat"
      codeLengths c total (List.replicate times n ++ done) fuel
    let s ← lengthSymbol c
    if s < 16 then codeLengths c total (s :: done) fuel
    else if s == 16 then
      let times ← take 2
      match done with
      | [] => bad "invalid bit length repeat"
      | n :: _ => repeated n (3 + times)
    else if s == 17 then repeated 0 (3 + (← take 3))
    else repeated 0 (11 + (← take 7))

/-- The codes of a block, which are written in front of it. -/
def blockCodes : Inflate (Code × Code) := do
  if (← get).bits.length < 14 then throw .short
  let literals := (← take 5) + 257
  let distances := (← take 5) + 1
  let n := (← take 4) + 4
  if 286 < literals || 30 < distances then bad "too many length or distance symbols"
  let given ← (lengthOrder.take n).mapM fun s => return (s, ← take 3)
  let c := Code.ofLengths ((List.range 19).map fun s => (given.lookup s).getD 0)
  if !c.isUsable false then bad "invalid code lengths set"
  let ls ← codeLengths c (literals + distances) [] ((← get).bits.length + 2)
  if ls.getD 256 0 == 0 then bad "invalid code -- missing end-of-block"
  let literalCode := Code.ofLengths (ls.take literals)
  if !literalCode.isUsable true then bad "invalid literal/lengths set"
  let distanceCode := Code.ofLengths (ls.drop literals)
  if !distanceCode.isUsable true then bad "invalid distances set"
  return (literalCode, distanceCode)

/-! ### Streams -/

/-- Takes blocks up to the last one. -/
def blocks : Nat → Inflate Unit
  | 0 => throw .short
  | fuel + 1 => do
    if (← get).bits.length < 3 then throw .short
    let last ← take 1
    let left := (← get).bits.length
    match ← take 2 with
    | 0 => storedBlock
    | 1 => coded fixedLiterals fixedDistances (left + 1)
    | 2 => do
      let (literals, distances) ← blockCodes
      coded literals distances (left + 1)
    | _ => bad "invalid block type"
    if last == 0 then blocks fuel

/-- Two sums over bytes that tell most damage. -/
def sums (bytes : List UInt8) : Nat :=
  let (a, b) := bytes.foldl (fun (a, b) x =>
    let a := (a + x.toNat) % 65521
    (a, (b + a) % 65521)) (1, 0)
  b * 65536 + a

/-- Takes a stream with two bytes in front and sums behind. -/
def wrapped : Inflate Unit := do
  require 2
  let method ← take 8
  let flags ← take 8
  if (method * 256 + flags) % 31 != 0 then bad "incorrect header check"
  if method % 16 != 8 then bad "unknown compression method"
  if 7 < method / 16 then bad "invalid window size"
  if flags / 32 % 2 == 1 then bad "dictionary needed"
  blocks ((← get).bits.length + 1)
  align
  require 4
  let bytes ← [0, 1, 2, 3].mapM fun _ => take 8
  if bytes.foldl (fun n b => n * 256 + b) 0 != sums (← get).out.toList then
    bad "incorrect data check"

/-! ### Files -/

/-- The remainder of bytes, taken as a polynomial, that tells most damage. -/
def remainder (bytes : List UInt8) : UInt32 :=
  let step (r : UInt32) : UInt32 := if r % 2 == 1 then (r >>> 1) ^^^ 0xEDB88320 else r >>> 1
  (bytes.foldl (fun r b => (List.range 8).foldl (fun r _ => step r) (r ^^^ b.toUInt32))
    0xFFFFFFFF) ^^^ 0xFFFFFFFF

/-- The bytes that so many bits make. -/
def bytesOf (bits : List Bool) : Nat → List UInt8
  | 0 => []
  | n + 1 => (numberOf (bits.take 8)).toUInt8 :: bytesOf (bits.drop 8) n

/-- Takes a text up to the null byte that ends it. -/
def skipText : Nat → Inflate Unit
  | 0 => throw .short
  | fuel + 1 => do
    if (← take 8) != 0 then skipText fuel

/-- Takes the header of a file: marks, a time, and whatever it names. -/
def fileHeader : Inflate Unit := do
  let start := (← get).bits
  let fuel := start.length + 1
  require 2
  if (← takeBytes 2) != 0x8B1F then bad "incorrect header check"
  require 2
  if (← take 8) != 8 then bad "unknown compression method"
  let flags ← take 8
  if flags.testBit 5 || flags.testBit 6 || flags.testBit 7 then bad "unknown header flags set"
  let _ ← takeBytes 6
  if flags.testBit 2 then
    let n ← takeBytes 2
    let _ ← takeBytes n
  if flags.testBit 3 then skipText fuel
  if flags.testBit 4 then skipText fuel
  if flags.testBit 1 then
    let read := (start.length - (← get).bits.length) / 8
    if (← takeBytes 2) != (remainder (bytesOf start read)).toNat % 65536 then
      bad "header crc mismatch"

/-- Takes a file: a header, blocks, their remainder and their length. -/
def file : Inflate Unit := do
  fileHeader
  blocks ((← get).bits.length + 1)
  align
  let out := (← get).out.toList
  if (← takeBytes 4) != (remainder out).toNat then bad "incorrect data check"
  if (← takeBytes 4) != out.length % 4294967296 then bad "incorrect length check"

/-! ### Results -/

/-- The bits of bytes, the lowest one of each first. -/
def bitsOf (bytes : List UInt8) : List Bool :=
  bytes.flatMap fun b => (List.range 8).map b.toNat.testBit

/-- The bytes that a stream gives. -/
def run (i : Inflate Unit) (bytes : List UInt8) : Except String (List UInt8) :=
  match StateT.run (ExceptT.run i) ⟨bitsOf bytes, #[]⟩ with
  | (.error (.malformed reason), _) => .error reason
  | (_, s) => .ok s.out.toList

end Inflate

/-- The bytes that a compressed file holds. -/
def inflateFile (bytes : List UInt8) : Except String (List UInt8) :=
  Inflate.file.run bytes

/-- The bytes that data gives, with sums or without them. -/
def inflate (bytes : List UInt8) : Except String (List UInt8) :=
  match Inflate.wrapped.run bytes with
  | .ok out => .ok out
  | .error _ => (Inflate.blocks (8 * bytes.length + 1)).run bytes

end SchemaDecl.Deflate
