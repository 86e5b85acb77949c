/-! Texts written with letters, digits and hyphens alone. The characters of ASCII come first; behind the
last hyphen the others are put in one after another in ascending order, each by the distance from the
place of the one before, which is counted over all characters between and written in digits of a base
that fits itself to the distances. -/

namespace SchemaDecl.Text.Punycode

def digitChar (n : Nat) : Char :=
  if n < 26 then Char.ofNat (97 + n) else Char.ofNat (22 + n)

def digitValue? (c : Char) : Option Nat :=
  if 'a' ≤ c && c ≤ 'z' then some (c.toNat - 97)
  else if 'A' ≤ c && c ≤ 'Z' then some (c.toNat - 65)
  else if '0' ≤ c && c ≤ '9' then some (c.toNat - 22)
  else none

/-- The least digit after which a number goes on, at the weight `k`. -/
def threshold (bias k : Nat) : Nat :=
  if k ≤ bias then 1 else min 26 (k - bias)

theorem threshold_pos (bias k : Nat) : 0 < threshold bias k := by
  unfold threshold
  split <;> omega

/-- Halves a distance to the size at which it is taken for small. -/
def settle (k : Nat) : Nat → Nat → Nat
  | 0, _ => k
  | fuel + 1, delta => if 455 < delta then settle (k + 36) fuel (delta / 35) else k + 36 * delta / (delta + 38)

/-- What the thresholds are counted from after a distance among so many characters. -/
def adapt (delta points : Nat) (first : Bool) : Nat :=
  let delta := if first then delta / 700 else delta / 2
  settle 0 (delta + 1) (delta + delta / points)

/-! ### Writing -/

/-- The digits of a distance. -/
def digits (bias k q : Nat) : List Char :=
  let t := threshold bias k
  if h : q < t then [digitChar q]
  else digitChar (t + (q - t) % (36 - t)) :: digits bias (k + 36) ((q - t) / (36 - t))
termination_by q
decreasing_by
  have ht := threshold_pos bias k
  have := Nat.div_le_self (q - threshold bias k) (36 - threshold bias k)
  omega

/-- The distance so far, what thresholds are counted from, the number of characters that are done, and
the text so far. -/
structure Writing where
  delta : Nat
  bias : Nat
  done : Nat
  first : Bool
  out : List Char

/-- Goes over all characters for those that are equal to `m`. -/
def place (m : Nat) (w : Writing) (c : Char) : Writing :=
  if c.toNat < m then { w with delta := w.delta + 1 }
  else if c.toNat == m then
    { delta := 0
      bias := adapt w.delta (w.done + 1) w.first
      done := w.done + 1
      first := false
      out := w.out ++ digits w.bias 36 w.delta }
  else w

/-- Writes the characters of these code points, which ascend from `n` on. -/
def placeAll (s : List Char) (n : Nat) (w : Writing) : List Nat → Writing
  | [] => w
  | m :: ms =>
    let w := s.foldl (place m) { w with delta := w.delta + (m - n) * (w.done + 1) }
    placeAll s (m + 1) { w with delta := w.delta + 1 } ms

def encode (s : List Char) : List Char :=
  let basic := s.filter fun c => c.toNat < 128
  let points := ((s.filter fun c => 128 ≤ c.toNat).map Char.toNat).mergeSort.eraseDups
  let w := placeAll s 128 ⟨0, 72, basic.length, true, []⟩ points
  (if basic.isEmpty then [] else basic ++ ['-']) ++ w.out

/-! ### Reading -/

/-- Reads a distance; `weight` is what the next digit counts. -/
def readNumber (bias k weight n : Nat) : List Char → Option (Nat × List Char)
  | [] => none
  | c :: s => do
    let d ← digitValue? c
    let t := threshold bias k
    let n := n + d * weight
    if d < t then some (n, s) else readNumber bias (k + 36) (weight * (36 - t)) n s

/-- Puts characters into a text, the next one at a distance from the place `i`. -/
def fillIn : Nat → (bias i n : Nat) → (first : Bool) → List Char → List Char → Option (List Char)
  | 0, _, _, _, _, _, _ => none
  | fuel + 1, bias, i, n, first, s, out =>
    if s.isEmpty then some out
    else do
      let (delta, s) ← readNumber bias 36 1 0 s
      let points := out.length + 1
      let i := i + delta
      let n := n + i / points
      let i := i % points
      if n.isValidChar then
        fillIn fuel (adapt delta points first) (i + 1) n false s (out.insertIdx i (Char.ofNat n))
      else none

def decode (s : List Char) : Option (List Char) :=
  let back := s.reverse.takeWhile (· != '-')
  let front := s.take (s.length - back.length - 1)
  fillIn (s.length + 1) 72 0 128 true back.reverse front

example : String.ofList (encode "bücher".toList) = "bcher-kva" := by decide +kernel

example : (decode "bcher-kva".toList).map String.ofList = some "bücher" := by decide +kernel

end SchemaDecl.Text.Punycode
