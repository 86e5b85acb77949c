import SchemaDecl.Paging.Page

/-! Following links. A link is looked at once each time it is followed: nothing is asked again and
nothing is kept. The fetcher that is named on the way goes before the one that the link is bound to. -/

namespace SchemaDecl

/-- How fetchers get the data at an address. -/
abbrev Fetch (σ F : Type) : Type :=
  F → String → Act σ Value

/-- What a link led to. -/
inductive Found (F : Type) where
  | page (p : Page F)
  | value (v : Value)

namespace Link

variable {σ F : Type}

/-- The fetcher that follows a link. -/
def chosen (l : Link F) (given : Option F) : Except Fault F :=
  match given <|> l.fetcher with
  | some f => .ok f
  | none => .error (.failure (.unboundLink l.url))

/-- What a response to a link stands for. -/
def arrive (l : Link F) (f : F) (raw : Value) : Run (Found F) :=
  match l.destination with
  | .object => .value <$> Run.ofExcept (l.lift.run raw)
  | .page _ | .collection => .page <$> Page.ofValue raw l.lift (some f)

/-- Follows a link: one request, to its address. -/
def resolve (fetch : Fetch σ F) (l : Link F) (given : Option F) : Act σ (Found F) := do
  let f ← Act.ofExcept (l.chosen given)
  let raw ← fetch f l.url
  Act.ofRun (l.arrive f raw)

end Link

end SchemaDecl
