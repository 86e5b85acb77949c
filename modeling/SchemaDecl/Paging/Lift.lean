import SchemaDecl.Definition
import SchemaDecl.Failure

/-! Lifts: what becomes of an object of a response before anyone sees it. A lift has a name, by which
it is told from others, since the transformations themselves cannot be compared. -/

namespace SchemaDecl

structure Lift where
  name : String
  run : Value → Except Fault Value

namespace Lift

/-- The lift that leaves everything as it is. -/
def identity : Lift :=
  ⟨"identity", .ok⟩

instance : Inhabited Lift := ⟨identity⟩

/-- The lift that a table has for the tag of an object. What has no tag, or one that the table lacks,
goes through the fallback. -/
def choose (table : List (String × Lift)) (fallback : Lift) (v : Value) : Lift :=
  match v.field? tagProperty with
  | some (.text tag) => (table.lookup tag).getD fallback
  | _ => fallback

/-- Lifts every object as its tag asks for. -/
def discriminate (name : String) (table : List (String × Lift)) (fallback : Lift := identity) : Lift :=
  ⟨name, fun v => (choose table fallback v).run v⟩

end Lift

end SchemaDecl
