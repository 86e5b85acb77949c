/-! Binary floating-point numbers of 64 bits, held exactly: a finite number is a natural mantissa
times a power of two. Every operation computes the exact result as a ratio of naturals and rounds
it once, to the nearest number and on a tie to the even mantissa, so nothing here depends on the
arithmetic of the machine. -/

namespace SchemaDecl

/-- A 64-bit floating-point number. Finite numbers made by `Binary64.ofRatio` are normal: the
mantissa lies below 2^53, and from 2^52 on unless the exponent is the least one. -/
inductive Binary64 where
  | finite (negative : Bool) (mantissa : Nat) (exponent : Int)
  | infinite (negative : Bool)
  | nan
  deriving DecidableEq, Repr

namespace Binary64

/-- The quotient rounded to the nearest natural, a half to the even neighbour. -/
def roundHalfEven (num den : Nat) : Nat :=
  let q := num / den
  match compare (2 * (num % den)) den with
  | .lt => q
  | .gt => q + 1
  | .eq => if q % 2 == 0 then q else q + 1

def leastExponent : Int := -1074

def greatestExponent : Int := 971

def twoTo (n : Nat) : Nat :=
  Nat.pow 2 n

/-- Numerator and denominator of `num / den / 2^q`. -/
def scaleDown (num den : Nat) (q : Int) : Nat × Nat :=
  (num * twoTo (-q).toNat, den * twoTo q.toNat)

/-- The number nearest to `num / den`. -/
def ofRatio (negative : Bool) (num den : Nat) : Binary64 :=
  if num == 0 then .finite negative 0 leastExponent
  else
    -- the quotient of `num / den` by 2^q0 lies strictly between 2^52 and 2^54
    let q0 := max ((num.log2 : Int) - den.log2 - 53) leastExponent
    let s0 := scaleDown num den q0
    let q := if twoTo 53 ≤ s0.1 / s0.2 then q0 + 1 else q0
    let s := scaleDown num den q
    let m := roundHalfEven s.1 s.2
    let (m, q) := if m == twoTo 53 then (twoTo 52, q + 1) else (m, q)
    if greatestExponent < q then .infinite negative else .finite negative m q

/-- The number nearest to `digits * 10^exponent`. Numbers far outside the range are settled by
their number of digits alone, so that a large exponent costs nothing. -/
def ofDecimal (negative : Bool) (digits : Nat) (exponent : Int) : Binary64 :=
  if digits == 0 then .finite negative 0 leastExponent
  else
    let leading := exponent + (toString digits).length
    if 330 < leading then .infinite negative
    else if leading < -340 then .finite negative 0 leastExponent
    else ofRatio negative (digits * Nat.pow 10 exponent.toNat) (Nat.pow 10 (-exponent).toNat)

def ofInt (n : Int) : Binary64 :=
  ofRatio (decide (n < 0)) n.natAbs 1

def zero : Binary64 := .finite false 0 leastExponent

def neg : Binary64 → Binary64
  | .finite s m q => .finite (!s) m q
  | .infinite s => .infinite (!s)
  | .nan => .nan

/-- Whether the number is neither a zero of either sign; the value that is no number is not zero. -/
def isNonzero : Binary64 → Bool
  | .finite _ m _ => m != 0
  | _ => true

/-- The denominator that all finite numbers have in common, `2^1074`. -/
def commonDenominator : Nat :=
  twoTo 1074

/-- The exact value of a finite number over the common denominator. -/
def scaledInt (negative : Bool) (m : Nat) (q : Int) : Int :=
  let n : Int := (m * twoTo (q - leastExponent).toNat : Nat)
  if negative then -n else n

/-- The number nearest to `n` over the common denominator, with a positive zero. -/
def ofScaledInt (n : Int) : Binary64 :=
  ofRatio (decide (n < 0)) n.natAbs commonDenominator

def add : Binary64 → Binary64 → Binary64
  | .nan, _ | _, .nan => .nan
  | .infinite s, .infinite t => if s == t then .infinite s else .nan
  | .infinite s, _ | _, .infinite s => .infinite s
  | .finite s m q, .finite t n r =>
    if m == 0 && n == 0 then .finite (s && t) 0 leastExponent
    else ofScaledInt (scaledInt s m q + scaledInt t n r)

def mul : Binary64 → Binary64 → Binary64
  | .nan, _ | _, .nan => .nan
  | .infinite s, .infinite t => .infinite (s != t)
  | .infinite s, .finite t n _ | .finite t n _, .infinite s =>
    if n == 0 then .nan else .infinite (s != t)
  | .finite s m q, .finite t n r =>
    ofRatio (s != t) (m * n * twoTo (q + r).toNat) (twoTo (-(q + r)).toNat)

/-- Numeric comparison; `none` when an argument is no number. -/
def compare? : Binary64 → Binary64 → Option Ordering
  | .nan, _ | _, .nan => none
  | .infinite s, .infinite t => some (if s == t then .eq else if s then .lt else .gt)
  | .infinite s, _ => some (if s then .lt else .gt)
  | _, .infinite t => some (if t then .gt else .lt)
  | .finite s m q, .finite t n r => some (compare (scaledInt s m q) (scaledInt t n r))

/-- Exact numeric comparison with an integer. -/
def compareInt? : Binary64 → Int → Option Ordering
  | .nan, _ => none
  | .infinite s, _ => some (if s then .lt else .gt)
  | .finite s m q, n => some (compare (scaledInt s m q) (n * commonDenominator))

example : ofDecimal false 1 (-1) = .finite false 7205759403792794 (-56) := by decide +kernel

end Binary64

end SchemaDecl
