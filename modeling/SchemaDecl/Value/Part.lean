import SchemaDecl.Value

/-! Data that lies inside itself, as YAML can write it. A part of such data is known by the way to it,
so that going into a mark for something further out leads back to a part that was there before. -/

namespace SchemaDecl.Value

mutual

/-- Whether something in the data stands for a collection around it. -/
def isCircular : Value → Bool
  | .outer _ => true
  | .list items => anyCircular items
  | .map entries => anyEntryCircular entries
  | _ => false

def anyCircular : List Value → Bool
  | [] => false
  | v :: rest => isCircular v || anyCircular rest

def anyEntryCircular : List (Value × Value) → Bool
  | [] => false
  | (_, v) :: rest => isCircular v || anyEntryCircular rest

end

mutual

/-- The number of values in the data. -/
def size : Value → Nat
  | .list items => sizeItems items + 1
  | .map entries => sizeEntries entries + 1
  | _ => 1

def sizeItems : List Value → Nat
  | [] => 0
  | v :: rest => size v + sizeItems rest

def sizeEntries : List (Value × Value) → Nat
  | [] => 0
  | (_, v) :: rest => size v + sizeEntries rest

end

mutual

/-- The data with what stands around it, the innermost first, written out where it refers to that.
`depth` counts the collections that were entered. -/
def writeOut (around : List Value) (depth : Nat) : Value → Value
  | .outer n => if n < depth then .outer n else (around[n - depth]?).getD (.outer n)
  | .list items => .list (writeOutItems around (depth + 1) items)
  | .map entries => .map (writeOutEntries around (depth + 1) entries)
  | v => v

def writeOutItems (around : List Value) (depth : Nat) : List Value → List Value
  | [] => []
  | v :: rest => writeOut around depth v :: writeOutItems around depth rest

def writeOutEntries (around : List Value) (depth : Nat) : List (Value × Value) → List (Value × Value)
  | [] => []
  | (k, v) :: rest => (k, writeOut around depth v) :: writeOutEntries around depth rest

end

/-- A part of a value: what stands there, the numbers of the steps on the way to it, the last one
first, and the collections around it, the innermost first. -/
structure Part where
  value : Value
  steps : List Nat := []
  around : List Value := []

namespace Part

/-- What stands in a part at a number. -/
def inner (p : Part) (i : Nat) (v : Value) : Part :=
  match v with
  | .outer n =>
    match (p.value :: p.around)[n]? with
    | some w => ⟨w, p.steps.drop n, p.around.drop n⟩
    | none => ⟨v, i :: p.steps, p.value :: p.around⟩
  | v => ⟨v, i :: p.steps, p.value :: p.around⟩

/-- Collections around a part, each with those around it written out. -/
def closedAll : List Value → List Value
  | [] => []
  | v :: rest =>
    let around := closedAll rest
    v.writeOut around 0 :: around

/-- The part as a value that refers to nothing around it. -/
def closed (p : Part) : Value :=
  p.value.writeOut (closedAll p.around) 0

end Part

end SchemaDecl.Value
