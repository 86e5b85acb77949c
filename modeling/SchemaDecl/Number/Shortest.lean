import SchemaDecl.Number.Binary64

/-! The shortest decimal text of a floating-point number. Of all decimals that round to the number,
those with the fewest digits are taken and of these the nearest, on a tie the one with an even last
digit. The search is exact: the reals that round to a number form an interval between the midpoints
to its neighbours, and a grid of decimals meets that interval just when one of the two grid points
around the number does. -/

namespace SchemaDecl.Binary64

/-- A positive decimal `0.d₁d₂… * 10^point`, by its digits read as a natural. -/
structure Decimal where
  digits : Nat
  point : Int
  deriving DecidableEq, Repr

/-- Twice the distance data of a number: its value and the two ends of its rounding interval as
numerators over one denominator, and whether the ends belong to the interval. -/
structure Interval where
  low : Nat
  value : Nat
  high : Nat
  den : Nat
  closed : Bool

/-- The rounding interval of `m * 2^q`. Below a power of two the neighbour is half as far away. -/
def interval (m : Nat) (q : Int) : Interval :=
  let up := twoTo (q - 2).toNat
  let below := if m == twoTo 52 && leastExponent < q then 1 else 2
  { low := (4 * m - below) * up, value := 4 * m * up, high := (4 * m + 2) * up,
    den := twoTo (2 - q).toNat, closed := m % 2 == 0 }

/-- The interval in units of `10^g`. -/
def Interval.rescale (i : Interval) (g : Int) : Interval :=
  let f := Nat.pow 10 (-g).toNat
  { i with low := i.low * f, value := i.value * f, high := i.high * f, den := i.den * Nat.pow 10 g.toNat }

/-- Whether the natural `d` lies in the interval. -/
def Interval.has (i : Interval) (d : Nat) : Bool :=
  if i.closed then i.low ≤ d * i.den && d * i.den ≤ i.high
  else i.low < d * i.den && d * i.den < i.high

/-- The natural in the interval that is nearest to the value, if there is one. -/
def Interval.nearest? (i : Interval) : Option Nat :=
  let d := i.value / i.den
  match i.has d, i.has (d + 1) with
  | false, false => none
  | true, false => some d
  | false, true => some (d + 1)
  | true, true => some (roundHalfEven i.value i.den)

/-- The least `k` with `value < 10^k`, for a positive value. -/
def Interval.magnitude (i : Interval) : Int :=
  if i.den ≤ i.value then ((toString (i.value / i.den)).length : Int)
  else 1 - ((toString (i.den / i.value)).length : Int)

/-- The shortest decimal of the positive number `m * 2^q`. -/
def shortest (m : Nat) (q : Int) : Decimal :=
  let i := interval m q
  let k := i.magnitude
  let found := (List.range 17).findSome? fun (n : Nat) =>
    (i.rescale (k - n - 1)).nearest?.map fun d => (d, k - n - 1)
  match found with
  | some (d, g) =>
    -- the upper neighbour of a run of nines has one digit more
    { digits := d, point := g + (toString d).length }
  | none =>
    let j := i.rescale (k - 17)
    let d := roundHalfEven j.value j.den
    { digits := d, point := k - 17 + (toString d).length }

/-- Digits without the zeros at their end. -/
def dropZeros (ds : List Char) : List Char :=
  (ds.reverse.dropWhile (· == '0')).reverse

/-- Lays out the digits of `0.d₁d₂… * 10^point`: in positional form, with at least one digit behind
the point, while the leading digit stands for a power of ten from -4 to 15, else with an exponent
that carries its sign and at least two digits. -/
def layout (ds : List Char) (point : Int) : List Char :=
  if -4 < point && point ≤ 16 then
    if point ≤ 0 then '0' :: '.' :: (List.replicate (-point).toNat '0' ++ ds)
    else if ds.length ≤ point.toNat then
      ds ++ List.replicate (point.toNat - ds.length) '0' ++ ['.', '0']
    else ds.take point.toNat ++ '.' :: ds.drop point.toNat
  else
    let e := point - 1
    let sign := if e < 0 then '-' else '+'
    let es := (toString e.natAbs).toList
    let es := if es.length < 2 then '0' :: es else es
    let fraction := ds.drop 1
    ds.take 1 ++ (if fraction.isEmpty then [] else '.' :: fraction) ++ 'e' :: sign :: es

/-- The shortest text that reads back as the number; `inf` and `nan` for what has no digits. -/
def toText : Binary64 → String
  | .nan => "nan"
  | .infinite s => if s then "-inf" else "inf"
  | .finite s m q =>
    let body :=
      if m == 0 then ['0', '.', '0']
      else
        let d := shortest m q
        layout (dropZeros (toString d.digits).toList) d.point
    String.ofList (if s then '-' :: body else body)

example : shortest 7205759403792794 (-56) = ⟨1, 0⟩ := by decide +kernel

end SchemaDecl.Binary64
