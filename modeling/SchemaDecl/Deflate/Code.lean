/-! Prefix codes that are given by the lengths of their words: words of one length are consecutive
numbers in the order of their symbols, and shorter words come before longer ones. -/

namespace SchemaDecl.Deflate

/-- A code: for every length from one on the number of its words, and the symbols in the order of their
words. -/
structure Code where
  counts : List Nat
  symbols : List Nat
  deriving DecidableEq, Repr

/-- The greatest length of a word. -/
def wordLimit : Nat := 15

namespace Code

def ofLengths (lengths : List Nat) : Code where
  counts := (List.range wordLimit).map fun i => lengths.count (i + 1)
  symbols := (List.range wordLimit).flatMap fun i =>
    ((lengths.zipIdx).filter fun e => e.1 == i + 1).map Prod.snd

/-- How many words of the next length are left over when words of each length are taken; none when too
many are taken. -/
def spare : Nat → List Nat → Option Nat
  | left, [] => some left
  | left, n :: rest => if 2 * left < n then none else spare (2 * left - n) rest

def isEmpty (c : Code) : Bool :=
  c.symbols.isEmpty

/-- Whether the words fill the code. -/
def isFull (c : Code) : Bool :=
  spare 1 c.counts == some 0

/-- Whether the code can be used: it is full, it is empty, or, where that is admitted, it has one word,
of one bit. -/
def isUsable (admitsOne : Bool) (c : Code) : Bool :=
  c.isFull || c.isEmpty || (admitsOne && c.counts.head? == some 1 && c.symbols.length == 1)

/-- What bits lead to. -/
inductive Found where
  | symbol (s : Nat) (rest : List Bool)
  /-- The bits are no word and begin none. -/
  | nothing
  /-- There are not enough bits. -/
  | short
  deriving DecidableEq, Repr

/-- Follows bits. `word` is the number that the bits so far make, `first` the first word of this length
and `index` the number of shorter words. -/
def follow (symbols : List Nat) (word first index : Nat) : List Nat → List Bool → Found
  | [], _ => .nothing
  | _, [] => .short
  | n :: counts, b :: bits =>
    let word := 2 * word + b.toNat
    if word < first + n then
      match symbols[index + (word - first)]? with
      | some s => .symbol s bits
      | none => .nothing
    else follow symbols word (2 * (first + n)) (index + n) counts bits

/-- The symbol whose word bits begin with. A code that is not full has nothing but words of one bit. -/
def find (c : Code) (bits : List Bool) : Found :=
  follow c.symbols 0 0 0 (if c.isFull then c.counts else c.counts.take 1) bits

example : (ofLengths [2, 1, 0, 2]).find [true, true, false] = .symbol 3 [false] := by decide

end Code

end SchemaDecl.Deflate
