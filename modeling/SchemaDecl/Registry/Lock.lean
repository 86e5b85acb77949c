import SchemaDecl.Registry

/-! The record that a run leaves of its registry for the next one: a list of objects, one for each
entry, with its identifier and its discriminant. -/

namespace SchemaDecl.Registry

/-- The record of a registry. -/
def toLock (r : Registry) : Value :=
  .list (r.entries.map fun e =>
    Value.object [("identifier", .text e.identifier), ("discriminant", .text e.discriminant)])

/-- The entry that an object of a record describes. -/
def entryOf? (item : Value) : Option Entry :=
  match item.field? "identifier", item.field? "discriminant" with
  | some (.text i), some (.text d) => some ⟨i, d⟩
  | _, _ => none

/-- The entries of the objects of a record, none of which repeats a column of `seen`. -/
def lockEntries (seen : List Entry) : List Value → Except ConfigError (List Entry)
  | [] => .ok []
  | item :: rest =>
    match entryOf? item with
    | none => .error (.malformedEntry item)
    | some e =>
      if (seen.map Entry.identifier).contains e.identifier ||
          (seen.map Entry.discriminant).contains e.discriminant then
        .error (.repeatedEntry item)
      else (lockEntries (e :: seen) rest).map fun es => e :: es

/-- The entries of a record. -/
def ofLock : Value → Except ConfigError (List Entry)
  | .list items => lockEntries [] items
  | _ => .error .lockNotList

/-- The text of the file that keeps the record. -/
def lockText (r : Registry) : Except Json.WriteError String :=
  (Json.write .record r.toLock).map fun s => s ++ "\n"

end SchemaDecl.Registry
