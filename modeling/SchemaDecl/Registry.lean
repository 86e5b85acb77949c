import SchemaDecl.Document
import SchemaDecl.Run

/-! The registry of a run: the identifiers of the discriminants that a document declares. Both columns
are free of repetitions, so each determines the other. The entries of an earlier run keep their places
and identifiers as long as their discriminants are declared; further ones follow in the order of the
document. -/

namespace SchemaDecl

structure Registry.Entry where
  identifier : String
  discriminant : String
  deriving DecidableEq, Repr

structure Registry where
  entries : List Registry.Entry
  identifiers_nodup : (entries.map Registry.Entry.identifier).Nodup
  discriminants_nodup : (entries.map Registry.Entry.discriminant).Nodup
  deriving DecidableEq, Repr

namespace Registry

/-- The name of the enumeration that holds the registry in generated code. -/
def symbol : String := "TypeRegistry"

inductive Repetition where
  | identifier (s : String)
  | discriminant (s : String)
  deriving DecidableEq, Repr

def Repetition.message : Repetition → String
  | .identifier s => "Duplicate registry identifier '" ++ s ++ "'"
  | .discriminant s => "Duplicate registry discriminant '" ++ s ++ "'"

def empty : Registry :=
  ⟨[], .nil, .nil⟩

/-- The first repetition in a list of entries, behind those of `seen`. -/
def repetition? (seen : List Entry) : List Entry → Option Repetition
  | [] => none
  | e :: rest =>
    if (seen.map Entry.identifier).contains e.identifier then some (.identifier e.identifier)
    else if (seen.map Entry.discriminant).contains e.discriminant then
      some (.discriminant e.discriminant)
    else repetition? (e :: seen) rest

/-- Without a repetition both columns stay free of them. -/
theorem nodup_of_repetition?_eq_none {seen es : List Entry} (h : repetition? seen es = none)
    (hi : (seen.map Entry.identifier).Nodup) (hd : (seen.map Entry.discriminant).Nodup) :
    ((seen.reverse ++ es).map Entry.identifier).Nodup ∧
      ((seen.reverse ++ es).map Entry.discriminant).Nodup := by
  induction es generalizing seen with
  | nil =>
    simp only [List.append_nil, List.map_reverse]
    exact ⟨(List.reverse_perm _).nodup_iff.2 hi, (List.reverse_perm _).nodup_iff.2 hd⟩
  | cons e rest ih =>
    rw [repetition?] at h
    split at h
    · cases h
    · split at h
      · cases h
      · rename_i h1 h2
        have := ih h (by simpa using ⟨by simpa using h1, hi⟩) (by simpa using ⟨by simpa using h2, hd⟩)
        simpa using this

/-- The registry with these entries. -/
def ofEntries (es : List Entry) : Except Repetition Registry :=
  match h : repetition? [] es with
  | some r => .error r
  | none =>
    have n := nodup_of_repetition?_eq_none h .nil .nil
    .ok ⟨es, n.1, n.2⟩

/-! ### Look-up -/

def identifierFor (r : Registry) (discriminant : String) : Option String :=
  (r.entries.find? fun e => e.discriminant == discriminant).map Entry.identifier

def discriminantFor (r : Registry) (identifier : String) : Option String :=
  (r.entries.find? fun e => e.identifier == identifier).map Entry.discriminant

def contains (r : Registry) (discriminant : String) : Bool :=
  (r.identifierFor discriminant).isSome

/-! ### Building -/

/-- The entry for a discriminant. -/
def claimOf (claims : List Entry) (tag : String) : Option Entry :=
  claims.find? fun e => e.discriminant == tag

/-- The claims of the definitions on their discriminants: the first definition that declares one
claims it under its own identifier, made different from those claimed before. -/
def claims (found : List Entry) : List (Name × Definition) → Run (List Entry)
  | [] => pure found
  | (name, d) :: rest =>
    match d.discriminant with
    | none => claims found rest
    | some tag =>
      match claimOf found tag with
      | some e => do
        Run.tell (.warning ("Discriminant '" ++ tag ++ "' of schema '" ++ name.display ++
          "' is already registered as '" ++ e.identifier ++ "'"))
        claims found rest
      | none =>
        match name.identifier? with
        | none => Run.fail .wrongType
        | some base =>
          claims (found ++ [⟨Identifier.fresh (found.map Entry.identifier) base, tag⟩]) rest

/-- The entries of an earlier run whose discriminants are still claimed. -/
def kept (claims previous : List Entry) : List Entry :=
  previous.filter fun e => (claimOf claims e.discriminant).isSome

def droppedNotices (claims previous : List Entry) : List Notice :=
  (previous.filter fun e => (claimOf claims e.discriminant).isNone).map fun e =>
    .debug ("Dropping stale registry member " ++ e.identifier ++ " (" ++ e.discriminant ++ ")")

/-- Adds the claims whose discriminants the kept entries lack. `taken` holds the identifiers given
out so far, `tags` the discriminants that were kept. -/
def additions (taken tags : List String) : List Entry → List Entry
  | [] => []
  | e :: rest =>
    if tags.contains e.discriminant then additions taken tags rest
    else
      let identifier := Identifier.fresh taken e.identifier
      ⟨identifier, e.discriminant⟩ :: additions (identifier :: taken) tags rest

/-- The entries of a run from the claims of its definitions and the entries of an earlier run. -/
def combine (claims previous : List Entry) : List Entry :=
  let old := kept claims previous
  old ++ additions (old.map Entry.identifier) (old.map Entry.discriminant) claims

/-- The registry of a document after an earlier run. -/
def build (d : Document) (previous : List Entry) : Run Registry := do
  let found ← claims [] d.entries
  (⟨droppedNotices found previous, .ok ()⟩ : Run Unit)
  match ofEntries (combine found previous) with
  | .ok r => return r
  | .error e => Run.fail (.badValue e.message)

end Registry

end SchemaDecl
