/-! Identifiers of generated declarations. Every name is turned into a sequence of letters, digits and
underscores that begins with no digit and is no reserved word; a name of that form stays as it is. -/

namespace SchemaDecl

/-- Words that cannot name a declaration. -/
def reservedWords : List String :=
  ["False", "None", "True", "and", "as", "assert", "async", "await", "break", "class", "continue",
    "def", "del", "elif", "else", "except", "finally", "for", "from", "global", "if", "import",
    "in", "is", "lambda", "nonlocal", "not", "or", "pass", "raise", "return", "try", "while",
    "with", "yield"]

def isReserved (s : String) : Bool :=
  reservedWords.contains s

namespace Identifier

def isLetterOrDigit (c : Char) : Bool :=
  ('0' ≤ c && c ≤ '9') || ('A' ≤ c && c ≤ 'Z') || ('a' ≤ c && c ≤ 'z') || c == '_'

def isDigit (c : Char) : Bool :=
  '0' ≤ c && c ≤ '9'

/-- Puts an underscore for every other character. -/
def replaceForeign (s : List Char) : List Char :=
  s.map fun c => if isLetterOrDigit c then c else '_'

/-- Puts an underscore in front of nothing and of a digit. -/
def guardStart (s : List Char) : List Char :=
  match s with
  | [] => ['_']
  | c :: _ => if isDigit c then '_' :: s else s

/-- The identifier for a name. -/
def ofName (name : String) : String :=
  let s := String.ofList (guardStart (replaceForeign name.toList))
  if isReserved s then s ++ "_" else s

example : ofName "2nd-item" = "_2nd_item" := by decide +kernel

example : ofName "class" = "class_" := by decide +kernel

/-- The `k`-th variant of an identifier. -/
def numbered (base : String) (k : Nat) : String :=
  base ++ "_" ++ toString k

/-- The length of the longest of some texts. -/
def longest : List String → Nat
  | [] => 0
  | s :: rest => max s.length (longest rest)

theorem length_le_longest {s : String} {texts : List String} (h : s ∈ texts) :
    s.length ≤ longest texts := by
  induction h with
  | head rest => exact Nat.le_max_left _ _
  | tail t _ ih => exact Nat.le_trans ih (Nat.le_max_right _ _)

/-- A variant among some texts has a number with no more digits than the longest of them. -/
theorem lt_of_numbered_mem {taken : List String} {base : String} {k : Nat}
    (h : numbered base k ∈ taken) : k < Nat.pow 10 (longest taken) := by
  have hl := length_le_longest h
  simp only [numbered, String.length_append, Nat.toString_eq_repr] at hl
  have hpos := Nat.length_repr_pos (n := k)
  exact (Nat.length_repr_le_iff (by omega)).1 (by omega)

/-- The first variant with the number `k` or a greater one that is free. -/
def firstFree (taken : List String) (base : String) (k : Nat) : String :=
  if numbered base k ∈ taken then firstFree taken base (k + 1) else numbered base k
termination_by Nat.pow 10 (longest taken) - k
decreasing_by
  have := lt_of_numbered_mem ‹_›
  omega

/-- The identifier itself when it is free, else its variant with the least number from two on that
is. -/
def fresh (taken : List String) (base : String) : String :=
  if base ∈ taken then firstFree taken base 2 else base

end Identifier

end SchemaDecl
