/-! Sets of characters, given by the code points at which membership changes. A property of a
published character database is a long list of ranges; the two ends of every range, written one
after another in ascending order, are the whole description. -/

namespace SchemaDecl.Text

/-- A set of characters. A character belongs to it when an odd number of changes lie at or below
its code point. -/
structure CharSet where
  changes : List Nat

namespace CharSet

/-- Whether `c` belongs to the set. -/
def contains (s : CharSet) (c : Char) : Bool :=
  s.changes.countP (fun p => decide (p ≤ c.toNat)) % 2 == 1

/-- The number of code points in a set whose changes come in pairs of first and one past last. -/
def size (s : CharSet) : Nat :=
  go s.changes
where
  go : List Nat → Nat
    | a :: b :: rest => (b - a) + go rest
    | _ => 0

end CharSet

end SchemaDecl.Text
