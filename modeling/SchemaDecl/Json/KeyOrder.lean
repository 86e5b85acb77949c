import SchemaDecl.Value

/-! The order of keys in an object that is written with its keys sorted. Texts go by code points and
numbers by size. A number that is none is below nothing and above nothing, so where it comes to stand
depends on what it is compared with. -/

namespace SchemaDecl.Json

def isTextKey : Value → Bool
  | .text _ => true
  | _ => false

/-- Truth values are numbers here. -/
def isNumberKey : Value → Bool
  | .int _ | .bool _ | .float _ => true
  | _ => false

/-- Whether the keys have a common order. -/
def sortable (keys : List Value) : Bool :=
  keys.length ≤ 1 || keys.all isTextKey || keys.all isNumberKey

/-- Whether a number is below another one. -/
def numberLt : Value → Value → Bool
  | .float x, .float y => x.compare? y == some .lt
  | .float x, b => x.compareInt? (whole b) == some .lt
  | a, .float y => y.compareInt? (whole a) == some .gt
  | a, b => whole a < whole b
where
  whole : Value → Int
    | .int n => n
    | .bool b => Value.ofBool b
    | _ => 0

def keyLt : Value → Value → Bool
  | .text a, .text b => a < b
  | a, b => numberLt a b

def isNan : Value → Bool
  | .float .nan => true
  | _ => false

/-! ### Insertion -/

/-- The first items of a list, each not below the one before it or each below it as `falling` says. -/
def run {α : Type} (lt : α → α → Bool) (falling : Bool) (last : α) : List α → List α × List α
  | [] => ([], [])
  | x :: rest =>
    if lt x last == falling then
      let (front, back) := run lt falling x rest
      (x :: front, back)
    else ([], x :: rest)

/-- The place for an item between two places of a list, by halves. -/
def placeBetween {α : Type} (lt : α → α → Bool) (x : α) (items : List α) : Nat → Nat → Nat → Nat
  | 0, l, _ => l
  | fuel + 1, l, r =>
    if l < r then
      let p := l + (r - l) / 2
      match items[p]? with
      | some y => if lt x y then placeBetween lt x items fuel l p else placeBetween lt x items fuel (p + 1) r
      | none => l
    else l

/-- Puts an item where halving leads. -/
def insertByHalves {α : Type} (lt : α → α → Bool) (items : List α) (x : α) : List α :=
  items.insertIdx (placeBetween lt x items (items.length + 1) 0 items.length) x

/-- Sorts by putting one item after another behind the run that the list begins with, which is turned
round if it falls. -/
def insertionSort {α : Type} (lt : α → α → Bool) : List α → List α
  | [] => []
  | [x] => [x]
  | x :: y :: rest =>
    let falling := lt y x
    let (front, back) := run lt falling y rest
    let first := x :: y :: front
    back.foldl (insertByHalves lt) (if falling then first.reverse else first)

/-- The entries in the order of their keys. -/
def sortEntries {α : Type} (entries : List (Value × α)) : List (Value × α) :=
  if entries.any fun e => isNan e.1 then insertionSort (fun a b => keyLt a.1 b.1) entries
  else entries.mergeSort fun a b => !keyLt b.1 a.1

example : keyLt (.text "a") (.text "b") = true := by decide +kernel

end SchemaDecl.Json
