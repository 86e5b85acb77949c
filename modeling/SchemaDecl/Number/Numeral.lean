import SchemaDecl.Number.Binary64
import SchemaDecl.Text.Blank

/-! Numbers as people write them. Digits of every script count, white space may stand around a number
and single underscores between the digits of an integer. The number of decimal digits is limited in
both directions. -/

namespace SchemaDecl.Numeral

/-! ### Characters -/

/-- The zeros of the scripts; the other nine digits follow each of them. -/
def zeros : List Nat :=
  [48, 1632, 1776, 1984, 2406, 2534, 2662, 2790, 2918, 3046, 3174, 3302, 3430, 3558, 3664, 3792, 3872,
    4160, 4240, 6112, 6160, 6470, 6608, 6784, 6800, 6992, 7088, 7232, 7248, 42528, 43216, 43264,
    43472, 43504, 43600, 44016, 65296, 66720, 68912, 69734, 69872, 69942, 70096, 70384, 70736, 70864,
    71248, 71360, 71472, 71904, 72016, 72784, 73040, 73120, 92768, 92864, 93008, 120782, 120792,
    120802, 120812, 120822, 123200, 123632, 125264, 130032]

/-- The digit in ASCII that a digit of any script stands for, and a space for foreign white space; other
characters stand for themselves. -/
def plainChar (c : Char) : Char :=
  if c.toNat < 127 then c
  else if Text.isBlank c then ' '
  else
    match zeros.find? fun z => z ≤ c.toNat && c.toNat < z + 10 with
    | some z => Char.ofNat (48 + (c.toNat - z))
    | none => c

def isSpace (c : Char) : Bool :=
  c == ' ' || (9 ≤ c.toNat && c.toNat ≤ 13)

def trim (s : List Char) : List Char :=
  ((s.dropWhile isSpace).reverse.dropWhile isSpace).reverse

/-- A text in plain characters, without the white space around it. -/
def plain (s : List Char) : List Char :=
  trim (s.map plainChar)

/-- The text without a sign in front, and whether that was a minus. -/
def splitSign : List Char → Bool × List Char
  | '-' :: s => (true, s)
  | '+' :: s => (false, s)
  | s => (false, s)

def digit? (base : Nat) (c : Char) : Option Nat :=
  let d :=
    if '0' ≤ c && c ≤ '9' then c.toNat - 48
    else if 'a' ≤ c && c ≤ 'z' then c.toNat - 87
    else if 'A' ≤ c && c ≤ 'Z' then c.toNat - 55
    else base
  if d < base then some d else none

def natOf (base : Nat) (ds : List Char) : Nat :=
  ds.foldl (fun n c => n * base + (digit? base c).getD 0) 0

/-! ### Integers -/

inductive IntegerError where
  | malformed
  | tooManyDigits (n : Nat)
  deriving DecidableEq, Repr

/-- The greatest number of decimal digits. -/
def digitLimit : Nat := 4300

/-- The mark that may stand in front of digits to the base. -/
def baseMark : Nat → List Char
  | 2 => ['b', 'B']
  | 8 => ['o', 'O']
  | 16 => ['x', 'X']
  | _ => []

/-- The digits behind the mark of the base, if it is there. -/
def withoutMark (base : Nat) (s : List Char) : List Char :=
  match s with
  | '0' :: m :: r =>
    if (baseMark base).contains m then
      match r with
      | '_' :: r => r
      | r => r
    else s
  | _ => s

/-- The characters without underscores, each of which must stand between two digits. -/
def joinGroups (base : Nat) : List Char → Option (List Char)
  | [] => some []
  | [c] => if (digit? base c).isSome then some [c] else none
  | c :: '_' :: r =>
    if (digit? base c).isSome then
      match joinGroups base r with
      | some (d :: ds) => some (c :: d :: ds)
      | _ => none
    else none
  | c :: r => if (digit? base c).isSome then (joinGroups base r).map (c :: ·) else none

/-- Reads an integer to a base. -/
def readInteger (base : Nat) (s : List Char) : Except IntegerError Int :=
  let (negative, r) := splitSign (plain s)
  let r := withoutMark base r
  let front := r.takeWhile fun c => (digit? base c).isSome || c == '_'
  match joinGroups base front with
  | none => .error .malformed
  | some ds =>
    if base == 10 && digitLimit < ds.length then .error (.tooManyDigits ds.length)
    else if ds.isEmpty || front.length != r.length then .error .malformed
    else
      let n : Int := natOf base ds
      .ok (if negative then -n else n)

/-- The decimal digits of an integer, unless they are too many. -/
def integerText? (n : Int) : Option String :=
  let s := toString n.natAbs
  if digitLimit < s.length then none else some (if n < 0 then "-" ++ s else s)

/-! ### Floating-point numbers -/

/-- Reads a decimal number, or a word for what is none. -/
def readFloat? (s : List Char) : Option Binary64 :=
  let (negative, r) := splitSign (plain s)
  let word := String.ofList (r.map Char.toLower)
  if word == "inf" || word == "infinity" then some (.infinite negative)
  else if word == "nan" then some .nan
  else
    let isDigit (c : Char) : Bool := (digit? 10 c).isSome
    let whole := r.takeWhile isDigit
    let r := r.dropWhile isDigit
    let (fraction, r) :=
      match r with
      | '.' :: r => (r.takeWhile isDigit, r.dropWhile isDigit)
      | r => ([], r)
    let number (e : Int) : Binary64 :=
      Binary64.ofDecimal negative (natOf 10 (whole ++ fraction)) (e - fraction.length)
    if whole.isEmpty && fraction.isEmpty then none
    else
      match r with
      | [] => some (number 0)
      | e :: r =>
        let (negative, ds) := splitSign r
        if (e == 'e' || e == 'E') && !ds.isEmpty && ds.all isDigit then
          some (number (if negative then -(natOf 10 ds : Int) else natOf 10 ds))
        else none

/-! ### Messages -/

def tooManyDigitsToRead (n : Nat) : String :=
  "Exceeds the limit (4300 digits) for integer string conversion: value has " ++ toString n ++
    " digits; use sys.set_int_max_str_digits() to increase the limit"

def tooManyDigitsToWrite : String :=
  "Exceeds the limit (4300 digits) for integer string conversion; " ++
    "use sys.set_int_max_str_digits() to increase the limit"

example : (readInteger 10 "-1_000".toList).toOption = some (-1000) := by decide +kernel

example : (readInteger 16 "0x_1F".toList).toOption = some 31 := by decide +kernel

example : (readInteger 10 "1__0".toList).toOption = none := by decide +kernel

end SchemaDecl.Numeral
