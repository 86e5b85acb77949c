import SchemaDecl.Yaml.Node

/-! The value of a YAML document. Scalars get their values where they are met first; collections are
filled after everything that was met before them, so of several faults in a document the one in the
collection that was met first counts. -/

namespace SchemaDecl.Yaml

/-- What a node stands for. A collection holds its parts by the numbers of their nodes. -/
inductive Content where
  | scalar (v : Value)
  | list (items : List Nat)
  /-- A list of lists of two. -/
  | pairs (items : List (Nat × Nat))
  | map (entries : List (Nat × Nat))
  | set (members : List Nat)
  deriving Repr

/-- The nodes, what is known of their contents, and the collections in the order in which they were
met. -/
structure Making where
  nodes : Array Node
  contents : Array (Option Content)
  met : Array Nat

abbrev Make (α : Type) := StateT Making (Except Flaw) α

namespace Make

def nodeOf (id : Nat) : Make Node := do
  return (← get).nodes[id]?.getD default

def setNode (id : Nat) (n : Node) : Make Unit :=
  modify fun m => { m with nodes := m.nodes.setIfInBounds id n }

def setContent (id : Nat) (c : Content) : Make Unit :=
  modify fun m => { m with contents := m.contents.setIfInBounds id (some c) }

/-- Notes a collection, which holds nothing yet. -/
def meet (id : Nat) (empty : Content) : Make Unit := do
  setContent id empty
  modify fun m => { m with met := m.met.push id }

/-! ### Merging -/

/-- The node with another tag. -/
def retag (tag : String) : Node → Node
  | .scalar _ s => .scalar tag s
  | .sequence _ items => .sequence tag items
  | .mapping _ entries => .mapping tag entries

/-- Moves over entries up to a merge mark: the number of entries before it and what it is to bring
in. A mark for a default value that is met as a key becomes a text. -/
def nextMerge? (i : Nat) : List (Nat × Nat) → Make (Option (Nat × Nat))
  | [] => return none
  | (k, v) :: rest => do
    let key ← nodeOf k
    if key.tag == tagOf "merge" then return some (i, v)
    if key.tag == tagOf "value" then setNode k (retag (tagOf "str") key)
    nextMerge? (i + 1) rest

def entriesOf (id : Nat) : Make (List (Nat × Nat)) := do
  match ← nodeOf id with
  | .mapping _ entries => return entries
  | _ => throw .malformed

/-- Replaces the merge marks of a mapping, from an entry on, by the entries that they bring in, which
come before its own; `merged` are those of marks before. Of several mappings in a list the first one
counts most. Every call takes a unit of `fuel`, and each but the first follows a mark taken out. -/
def mergeFrom : Nat → Nat → Nat → List (Nat × Nat) → Make Unit
  | 0, _, _, _ => throw .malformed
  | fuel + 1, id, i, merged => do
    let entries ← entriesOf id
    match ← nextMerge? i (entries.drop i) with
    | none =>
      if !merged.isEmpty then setNode id (.mapping (← nodeOf id).tag (merged ++ entries))
    | some (j, v) =>
      setNode id (.mapping (← nodeOf id).tag (entries.eraseIdx j))
      match ← nodeOf v with
      | .mapping _ _ =>
        mergeFrom fuel v 0 []
        mergeFrom fuel id j (merged ++ (← entriesOf v))
      | .sequence _ items =>
        let groups ← items.mapM fun n => do
          let _ ← entriesOf n
          mergeFrom fuel n 0 []
          entriesOf n
        mergeFrom fuel id j (merged ++ groups.reverse.flatten)
      | .scalar _ _ => throw .malformed

/-- Does away with the merge marks of a mapping. -/
def merge (id : Nat) : Make Unit := do
  let entries := (← get).nodes.toList.map fun n =>
    match n with
    | .mapping _ entries => entries.length
    | _ => 0
  mergeFrom (entries.foldl (· + ·) 2) id 0 []

/-! ### Contents -/

/-- The text that a node stands for: its own, or that of the value of a mapping under a mark for a
default value; with it, whether it was such a mapping. -/
def scalarText : Nat → Nat → Make (String × Bool)
  | 0, _ => throw .cyclic
  | fuel + 1, id => do
    match ← nodeOf id with
    | .scalar _ s => return (s, false)
    | .sequence _ _ => throw .malformed
    | .mapping _ entries =>
      match ← entries.findM? fun e => return (← nodeOf e.1).tag == tagOf "value" with
      | some (_, v) => return ((← scalarText fuel v).1, true)
      | none => throw .malformed

/-- Gives a node its content, unless it has one. -/
def make (id : Nat) : Make Unit := do
  if let some (some _) := (← get).contents[id]? then return
  let tag := (← nodeOf id).tag
  if tag == tagOf "seq" then meet id (.list [])
  else if tag == tagOf "map" then meet id (.map [])
  else if tag == tagOf "set" then meet id (.set [])
  else if tag == tagOf "omap" || tag == tagOf "pairs" then meet id (.pairs [])
  else if (scalarValue? tag "").isNone then throw .malformed
  else
    let (s, indirect) ← scalarText ((← get).nodes.size + 1) id
    if indirect && tag == tagOf "timestamp" then throw .timeNotText
    match (scalarValue? tag s).getD (.error .malformed) with
    | .ok v => setContent id (.scalar v)
    | .error e => throw e

/-- The value of a node, which may be used as a key. -/
def makeKey (id : Nat) : Make Value := do
  make id
  match (← get).contents[id]? with
  | some (some (.scalar v)) => return v
  | _ => throw .malformed

/-- Whether two keys are one. A number of no value that was written as a word is a key of its own. -/
def sameKey (a b : Nat × Value × Bool) : Bool :=
  a.1 == b.1 || (!(a.2.2 || b.2.2) && a.2.1.sameScalar b.2.1)

/-- Whether the value of a node was written as the word for no number. -/
def isLone (id : Nat) (v : Value) : Make Bool := do
  match v with
  | .float .nan =>
    let (s, _) ← scalarText ((← get).nodes.size + 1) id
    return isLoneNan s.toList
  | _ => return false

/-- Puts a value under a key. A key that is there keeps its place and its spelling. -/
def insertKey (key : Nat × Value × Bool) (value : Nat) :
    List ((Nat × Value × Bool) × Nat) → List ((Nat × Value × Bool) × Nat)
  | [] => [(key, value)]
  | (k, v) :: rest =>
    if sameKey k key then (k, value) :: rest else (k, v) :: insertKey key value rest

/-- The entries of a mapping under distinct keys. -/
def fillEntries (id : Nat) : Make (List (Nat × Nat)) := do
  let _ ← entriesOf id
  merge id
  let entries ← (← entriesOf id).mapM fun (k, v) => do
    let key ← makeKey k
    make v
    return ((k, key, ← isLone k key), v)
  return (entries.foldl (fun m e => insertKey e.1 e.2 m) []).map fun e => (e.1.1, e.2)

def itemsOf (id : Nat) : Make (List Nat) := do
  match ← nodeOf id with
  | .sequence _ items => return items
  | _ => throw .malformed

/-- Gives a collection its parts. -/
def fill (id : Nat) : Make Unit := do
  match ((← get).contents[id]?).join with
  | some (.list _) =>
    let items ← itemsOf id
    items.forM make
    setContent id (.list items)
  | some (.map _) => setContent id (.map (← fillEntries id))
  | some (.set _) => setContent id (.set ((← fillEntries id).map Prod.fst))
  | some (.pairs _) =>
    let items ← (← itemsOf id).mapM fun item => do
      match ← entriesOf item with
      | [(k, v)] =>
        make k
        make v
        return (k, v)
      | _ => throw .malformed
    setContent id (.pairs items)
  | _ => return

/-- Fills the collections from the `i`th one on, each of which is met once. -/
def fillFrom : Nat → Nat → Make Unit
  | 0, _ => return
  | fuel + 1, i => do
    match (← get).met[i]? with
    | some id =>
      fill id
      fillFrom fuel (i + 1)
    | none => return

end Make

/-- The contents of the nodes of a document. -/
def Graph.contents (g : Graph) : Except Flaw (Array (Option Content)) := do
  let work : Make Unit := do
    Make.make g.root
    Make.fillFrom g.nodes.size 0
  return (← work.run ⟨g.nodes, Array.replicate g.nodes.size none, #[]⟩).2.contents

/-! ### Values -/

/-- The value of a node. `path` names the collections around it, the innermost first; a list of two
among pairs has no number. -/
def valueAt (contents : Array (Option Content)) : Nat → List (Option Nat) → Nat → Value
  | 0, _, _ => .null
  | fuel + 1, path, id =>
    match path.idxOf? (some id) with
    | some n => .outer n
    | none =>
      let inside := valueAt contents fuel (some id :: path)
      let inPair := valueAt contents fuel (none :: some id :: path)
      match (contents[id]?).join with
      | none => .null
      | some (.scalar v) => v
      | some (.list items) => .list (items.map inside)
      | some (.pairs items) => .list (items.map fun (k, v) => .list [inPair k, inPair v])
      | some (.map entries) => .map (entries.map fun (k, v) => (inside k, inside v))
      | some (.set members) => .set (members.map inside)

/-- The value of a document. -/
def Graph.value (g : Graph) : Except Flaw Value := do
  return valueAt (← g.contents) (g.nodes.size + 1) [] g.root

/-- Reads a text; null when it holds no document. -/
def read (text : String) : Except Flaw Value := do
  match ← document? text.toList with
  | none => .ok .null
  | some g => g.value

end SchemaDecl.Yaml
