import SchemaDecl.Value.Part

/-! Definitions that lie inside themselves. Before they are decoded, lists and mappings that hold
definitions are written out where they return, and a definition that returns inside itself is cut
off. -/

namespace SchemaDecl.Definition

open Value (Part)

/-- The keys under which data of any kind stands. -/
def freeKeys : List String :=
  ["example", "default"]

/-- The data of a definition. `open_` holds the ways to the definitions around it, which are cut off
where they return; every call adds one of at most `fuel`. -/
def unrolled : Nat → List (List Nat) → Part → Value
  | 0, _, _ => .outer 0
  | fuel + 1, open_, p =>
    if open_.contains p.steps then .outer 0
    else
      match p.value with
      | .map entries =>
        let within := unrolled fuel (p.steps :: open_)
        .map (entries.mapIdx fun i (k, v) =>
          let q := p.inner i v
          match k with
          | .text "items" => (k, within q)
          | .text "properties" =>
            match q.value with
            | .map ps => (k, .map (ps.mapIdx fun j (name, w) => (name, within (q.inner j w))))
            | w => (k, w)
          | .text "oneOf" | .text "one_of" =>
            match q.value with
            | .list branches => (k, .list (branches.mapIdx fun j w => within (q.inner j w)))
            | w => (k, w)
          | .text name => (k, if freeKeys.contains name then q.closed else q.value)
          | _ => (k, q.value))
      | v => v

/-- The mapping of definitions in a part. -/
def unrolledSection (fuel : Nat) (p : Part) : Value :=
  match p.value with
  | .map entries => .map (entries.mapIdx fun i (k, v) => (k, unrolled fuel [] (p.inner i v)))
  | v => v

/-- A document whose definitions lie inside themselves, or inside the document that they are part
of. -/
def unrolledDocument (v : Value) : Value :=
  if !v.isCircular then v
  else
    match v with
    | .map entries =>
      let p : Part := ⟨v, [], []⟩
      .map (entries.mapIdx fun i (k, w) =>
        let q := p.inner i w
        match k, q.value with
        | .text "components", .map inner =>
          (k, .map (inner.mapIdx fun j (name, x) => (name, unrolledSection v.size (q.inner j x))))
        | _, _ => (k, unrolled v.size [] q))
    | v => v

end SchemaDecl.Definition
