import SchemaDecl.Yaml.Layout
import SchemaDecl.Yaml.Scalar

/-! The structure of a YAML document: scalars, sequences and mappings, each with its tag. Nodes go by
numbers, so that an alias is the same node as the one its anchor names, and a node may lie inside
itself. -/

namespace SchemaDecl.Yaml

inductive Node where
  | scalar (tag text : String)
  | sequence (tag : String) (items : List Nat)
  | mapping (tag : String) (entries : List (Nat × Nat))
  deriving Inhabited, Repr

def Node.tag : Node → String
  | .scalar t _ => t
  | .sequence t _ => t
  | .mapping t _ => t

/-- The nodes of a document by their numbers, and the number of the one that holds the others. -/
structure Graph where
  nodes : Array Node
  root : Nat
  deriving Repr

/-- The tokens left, the handles of tags, the nodes so far, and those that anchors name. -/
structure Reading where
  tokens : List Token
  handles : List (String × String)
  nodes : Array Node
  anchors : List (String × Nat)

abbrev Read (α : Type) := StateT Reading (Except Flaw) α

namespace Read

/-- Fails for the reason why the tokens broke off, or else because the next one has no place here. -/
def fail {α : Type} : Read α := fun r =>
  match r.tokens with
  | .broken f :: _ => .error f
  | _ => .error .malformed

def peek : Read Token := fun r =>
  .ok (r.tokens.headD .streamEnd, r)

def next : Read Unit := fun r =>
  .ok ((), { r with tokens := r.tokens.tail })

/-- Takes the token if it is the next one. -/
def take (t : Token) : Read Bool := do
  if (← peek) == t then
    next
    return true
  else return false

/-- Whether one of the tokens is next. -/
def sees (ts : List Token) : Read Bool := do
  return ts.contains (← peek)

def anchor? : Read (Option String) := do
  match ← peek with
  | .anchor a =>
    next
    return some a
  | _ => return none

/-- A tag with its handle resolved. -/
def tag? : Read (Option (Option String × String)) := do
  match ← peek with
  | .tag handle suffix =>
    next
    return some (handle, suffix)
  | _ => return none

def resolveTag (t : Option String × String) : Read String := do
  match t.1 with
  | none => return t.2
  | some h =>
    match (← get).handles.lookup h with
    | some p => return p ++ t.2
    | none => fail

/-- A new node, with an anchor perhaps. No anchor is given twice. -/
def begin_ (a : Option String) (n : Node) : Read Nat := do
  let r ← get
  match a with
  | none => pure ()
  | some a =>
    if (r.anchors.lookup a).isSome then throw .malformed
    modify fun r => { r with anchors := (a, r.nodes.size) :: r.anchors }
  modify fun r => { r with nodes := r.nodes.push n }
  return r.nodes.size

/-- Says what a node is that was begun. -/
def complete (id : Nat) (n : Node) : Read Nat := do
  modify fun r => { r with nodes := r.nodes.setIfInBounds id n }
  return id

/-- The node of an empty place. -/
def emptyNode : Read Nat :=
  begin_ none (.scalar (tagOf "null") "")

def aliased (a : String) : Read Nat := do
  match (← get).anchors.lookup a with
  | some id => return id
  | none => throw .malformed

/-- Whether a tag leaves the choice of the kind of value open. -/
def isOpenTag (t : Option String) : Bool :=
  t == none || t == some "!"

/-- The tag of a scalar. One without a tag is resolved by its form if it is plain; behind a single
exclamation mark any scalar is. -/
def scalarTag (t : Option String) (text : String) (plain : Bool) : String :=
  match t with
  | none => if plain then formTag text else tagOf "str"
  | some "!" => formTag text
  | some t => t

def collectionTag (t : Option String) (word : String) : String :=
  if isOpenTag t then tagOf word else t.getD ""

mutual

/-- Reads a node. `block` says whether block collections may stand here, and `indentless` whether the
entries of a sequence may, at the indentation of the mapping around them. Every call takes a unit of
`fuel`, and between two calls at most a constant number apart a token is taken. -/
def node (block indentless : Bool) : Nat → Read Nat
  | 0 => throw .malformed
  | fuel + 1 => do
    if let .reference a ← peek then
      next
      return ← aliased a
    let a ← anchor?
    let t ← tag?
    let a ← if a.isNone then anchor? else pure a
    let t ←
      match t with
      | some t => some <$> resolveTag t
      | none => pure none
    let sequence (items : Read (List Nat)) : Read Nat := do
      let tag := collectionTag t "seq"
      let id ← begin_ a (.sequence tag [])
      complete id (.sequence tag (← items))
    let mapping (entries : Read (List (Nat × Nat))) : Read Nat := do
      let tag := collectionTag t "map"
      let id ← begin_ a (.mapping tag [])
      complete id (.mapping tag (← entries))
    match ← peek with
    | .blockEntry => if indentless then sequence (indentlessItems fuel) else emptyOr fuel a t
    | .scalar text plain =>
      next
      begin_ a (.scalar (scalarTag t text plain) text)
    | .flowSequence =>
      next
      sequence (flowItems true fuel)
    | .flowMapping =>
      next
      mapping (flowEntries true fuel)
    | .blockSequence =>
      if block then
        next
        sequence (blockItems fuel)
      else emptyOr fuel a t
    | .blockMapping =>
      if block then
        next
        mapping (blockEntries fuel)
      else emptyOr fuel a t
    | _ => emptyOr fuel a t

/-- A node of which only an anchor or a tag is written. -/
def emptyOr (fuel : Nat) (a t : Option String) : Read Nat :=
  match fuel with
  | _ =>
    if a.isSome || t.isSome then begin_ a (.scalar (scalarTag t "" true) "") else fail

/-- Reads a node unless one of the tokens shows that the place is empty. -/
def nodeUnless (stops : List Token) (block indentless : Bool) : Nat → Read Nat
  | 0 => throw .malformed
  | fuel + 1 => do
    if ← sees stops then return ← emptyNode
    node block indentless fuel

def blockItems : Nat → Read (List Nat)
  | 0 => throw .malformed
  | fuel + 1 => do
    if ← take .blockEntry then
      let n ← nodeUnless [.blockEntry, .blockEnd] true false fuel
      return n :: (← blockItems fuel)
    else if ← take .blockEnd then return []
    else fail

def indentlessItems : Nat → Read (List Nat)
  | 0 => throw .malformed
  | fuel + 1 => do
    if ← take .blockEntry then
      let n ← nodeUnless [.blockEntry, .key, .value, .blockEnd] true false fuel
      return n :: (← indentlessItems fuel)
    else return []

def blockEntries : Nat → Read (List (Nat × Nat))
  | 0 => throw .malformed
  | fuel + 1 => do
    if ← take .key then
      let k ← nodeUnless [.key, .value, .blockEnd] true true fuel
      let v ←
        if ← take .value then nodeUnless [.key, .value, .blockEnd] true true fuel
        else emptyNode
      return (k, v) :: (← blockEntries fuel)
    else if ← take .blockEnd then return []
    else fail

/-- A pair that stands among the items of a bracketed sequence. -/
def flowPair : Nat → Read Nat
  | 0 => throw .malformed
  | fuel + 1 => do
    let k ← nodeUnless [.value, .flowEntry, .flowSequenceEnd] false false fuel
    let v ←
      if ← take .value then nodeUnless [.flowEntry, .flowSequenceEnd] false false fuel
      else emptyNode
    begin_ none (.mapping (tagOf "map") [(k, v)])

def flowItems (first : Bool) : Nat → Read (List Nat)
  | 0 => throw .malformed
  | fuel + 1 => do
    if ← take .flowSequenceEnd then return []
    if !first then
      if !(← take .flowEntry) then fail
    if ← take .key then
      let n ← flowPair fuel
      return n :: (← flowItems false fuel)
    if ← take .flowSequenceEnd then return []
    let n ← node false false fuel
    return n :: (← flowItems false fuel)

def flowEntries (first : Bool) : Nat → Read (List (Nat × Nat))
  | 0 => throw .malformed
  | fuel + 1 => do
    if ← take .flowMappingEnd then return []
    if !first then
      if !(← take .flowEntry) then fail
    if ← take .key then
      let k ← nodeUnless [.value, .flowEntry, .flowMappingEnd] false false fuel
      let v ←
        if ← take .value then nodeUnless [.flowEntry, .flowMappingEnd] false false fuel
        else emptyNode
      return (k, v) :: (← flowEntries false fuel)
    if ← take .flowMappingEnd then return []
    let k ← node false false fuel
    let v ← emptyNode
    return (k, v) :: (← flowEntries false fuel)

end

/-! ### Documents -/

/-- The handles that need no directive. -/
def usualHandles : List (String × String) :=
  [("!", "!"), ("!!", tagOf "")]

/-- Reads the directives before a document. -/
def directives : Nat → Bool → List (String × String) → Read (List (String × String))
  | 0, _, _ => throw .malformed
  | fuel + 1, versioned, handles => do
    match ← peek with
    | .directive d =>
      next
      match d with
      | .version major _ =>
        if versioned || major != 1 then throw .malformed
        directives fuel true handles
      | .tag h text =>
        if (handles.lookup h).isSome then throw .malformed
        directives fuel versioned ((h, text) :: handles)
      | .other => directives fuel versioned handles
    | _ => return handles

/-- Whether the place of a document is left empty. -/
def atDocumentEnd : Read Bool := do
  match ← peek with
  | .directive _ | .documentStart | .documentEnd | .streamEnd => return true
  | _ => return false

/-- Moves over the marks that end documents. -/
def skipEnds : Nat → Read Unit
  | 0 => return
  | fuel + 1 => do
    if ← take .documentEnd then skipEnds fuel

/-- Reads a stream of at most one document. -/
def document (fuel : Nat) : Read (Option Nat) := do
  match ← peek with
  | .streamEnd => return none
  | .directive _ | .documentStart =>
    let handles ← directives fuel false []
    if !(← take .documentStart) then fail
    modify fun r => { r with handles := handles ++ usualHandles }
    let n ← if ← atDocumentEnd then emptyNode else node true false fuel
    finish n
  | _ =>
    let n ← node true false fuel
    finish n
where
  finish (n : Nat) : Read (Option Nat) := do
    skipEnds fuel
    if (← peek) == .streamEnd then return some n
    fail

end Read

/-- The document of a text; `none` when nothing is there. -/
def document? (s : List Char) : Except Flaw (Option Graph) := do
  let ts := tokens s
  let (root, r) ← (Read.document (4 * ts.length + 8)).run ⟨ts, Read.usualHandles, #[], []⟩
  return root.map fun id => ⟨r.nodes, id⟩

end SchemaDecl.Yaml
