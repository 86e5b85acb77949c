import SchemaDecl.Yaml.Token

/-! From text to tokens. Indentation is made explicit by tokens that open and close block
collections. A key needs no mark of its own: whatever may be one is remembered, and when a colon
follows it on the same line a key token is put in front of it. -/

namespace SchemaDecl.Yaml

/-- A place where a key may have begun: the number of tokens before it, whether it must be a key
because of its indentation, and the place. -/
structure PossibleKey where
  before : Nat
  required : Bool
  index : Nat
  line : Nat
  column : Nat

/-- The state of reading tokens. `tokens` holds them in reverse, `flow` counts the open brackets,
`indent` is the column of the block collection that is open, -1 when none is, with the outer ones in
`indents`, and `keys` holds at most one possible key for every depth of brackets. -/
structure Layout where
  cursor : Cursor
  tokens : List Token
  count : Nat
  flow : Nat
  indent : Int
  indents : List Int
  keyAllowed : Bool
  keys : List (Nat × PossibleKey)

namespace Layout

def start (s : List Char) : Layout :=
  ⟨Cursor.ofText s, [], 0, 0, -1, [], true, []⟩

def push (t : Token) (l : Layout) : Layout :=
  { l with tokens := t :: l.tokens, count := l.count + 1 }

/-- Puts a token in front of all but the first `n`. -/
def insertAt (n : Nat) (t : Token) (l : Layout) : Layout :=
  let behind := l.count - n
  { l with
    tokens := l.tokens.take behind ++ t :: l.tokens.drop behind
    count := l.count + 1 }

def move (c : Cursor) (l : Layout) : Layout :=
  { l with cursor := c }

/-! ### Possible keys -/

/-- Whether a colon can no longer make a key of what began on an earlier line or more than 1024
characters back. -/
def isStale (l : Layout) (k : PossibleKey) : Bool :=
  k.line != l.cursor.line || k.index + 1024 < l.cursor.index

/-- Forgets the stale keys. A required one must not be lost. -/
def dropStale (l : Layout) : Except Flaw Layout :=
  if l.keys.any fun k => l.isStale k.2 && k.2.required then .error .malformed
  else .ok { l with keys := l.keys.filter fun k => !l.isStale k.2 }

def dropKey (l : Layout) : Except Flaw Layout :=
  match l.keys.lookup l.flow with
  | some k =>
    if k.required then .error .malformed
    else .ok { l with keys := l.keys.filter fun k => k.1 != l.flow }
  | none => .ok l

/-- Remembers that a key may begin here. -/
def saveKey (l : Layout) : Except Flaw Layout :=
  if l.keyAllowed then do
    let required := l.flow == 0 && l.indent == l.cursor.column
    let l ← l.dropKey
    let k : PossibleKey := ⟨l.count, required, l.cursor.index, l.cursor.line, l.cursor.column⟩
    .ok { l with keys := (l.flow, k) :: l.keys }
  else .ok l

/-! ### Indentation -/

/-- Closes the block collections that are indented further than `column`. -/
def unwindFrom (column : Int) : List Int → Layout → Layout
  | [], l => { l with indents := [] }
  | outer :: rest, l =>
    if column < l.indent then unwindFrom column rest ({ l with indent := outer }.push .blockEnd)
    else { l with indents := outer :: rest }

def unwind (column : Int) (l : Layout) : Layout :=
  if l.flow == 0 then unwindFrom column l.indents l else l

/-- Opens a block collection at a column, unless one is open there. -/
def opensBlock (column : Nat) (l : Layout) : Bool :=
  l.indent < column

def openBlock (column : Nat) (l : Layout) : Layout :=
  { l with indents := l.indent :: l.indents, indent := column }

/-! ### One token -/

/-- Moves over blanks, comments and line breaks; outside brackets a key may begin on a new line. -/
def skipToToken : Nat → Layout → Layout
  | 0, l => l
  | fuel + 1, l =>
    let c := l.cursor.skipSpaces
    let c := if c.peek == '#' then c.skipLine else c
    match c.lineBreak with
    | (some _, c) =>
      skipToToken fuel { l with cursor := c, keyAllowed := l.keyAllowed || l.flow == 0 }
    | (none, c) => l.move c

/-- Ends whatever is open at the start of a document or a directive. -/
def closeAll (l : Layout) : Except Flaw Layout := do
  let l ← (l.unwind (-1)).dropKey
  .ok { l with keyAllowed := false }

def documentMark (t : Token) (l : Layout) : Except Flaw Layout := do
  let l ← l.closeAll
  .ok ((l.move (l.cursor.skip 3)).push t)

def directive (l : Layout) : Except Flaw Layout := do
  let l ← l.closeAll
  let (t, c) ← scanDirective l.cursor
  .ok ((l.move c).push t)

def openBracket (t : Token) (l : Layout) : Except Flaw Layout := do
  let l ← l.saveKey
  .ok ({ l with flow := l.flow + 1, keyAllowed := true, cursor := l.cursor.advance }.push t)

def closeBracket (t : Token) (l : Layout) : Except Flaw Layout := do
  let l ← l.dropKey
  .ok ({ l with flow := l.flow - 1, keyAllowed := false, cursor := l.cursor.advance }.push t)

def flowEntry (l : Layout) : Except Flaw Layout := do
  let l ← { l with keyAllowed := true }.dropKey
  .ok ((l.move l.cursor.advance).push .flowEntry)

/-- Opens a block collection for an indicator at this place, where one may stand. -/
def openFor (t : Token) (l : Layout) : Except Flaw Layout :=
  if l.flow != 0 then .ok l
  else if !l.keyAllowed then .error .malformed
  else if l.opensBlock l.cursor.column then .ok ((l.openBlock l.cursor.column).push t)
  else .ok l

def blockEntry (l : Layout) : Except Flaw Layout := do
  let l ← l.openFor .blockSequence
  let l ← { l with keyAllowed := true }.dropKey
  .ok ((l.move l.cursor.advance).push .blockEntry)

def keyMark (l : Layout) : Except Flaw Layout := do
  let l ← l.openFor .blockMapping
  let l ← { l with keyAllowed := l.flow == 0 }.dropKey
  .ok ((l.move l.cursor.advance).push .key)

/-- A colon makes a key of what may be one before it. -/
def valueMark (l : Layout) : Except Flaw Layout := do
  let l ←
    match l.keys.lookup l.flow with
    | some k =>
      let l := { l with keys := l.keys.filter fun e => e.1 != l.flow, keyAllowed := false }
      let l := l.insertAt k.before .key
      if l.flow == 0 && l.opensBlock k.column then
        Except.ok ((l.openBlock k.column).insertAt k.before .blockMapping)
      else .ok l
    | none => do
      let l ← l.openFor .blockMapping
      { l with keyAllowed := l.flow == 0 }.dropKey
  .ok ((l.move l.cursor.advance).push .value)

/-- A token that may begin a key and ends before one can. -/
def simple (scan : Cursor → Except Flaw (Token × Cursor)) (l : Layout) : Except Flaw Layout := do
  let l ← l.saveKey
  let (t, c) ← scan l.cursor
  .ok ({ l with keyAllowed := false, cursor := c }.push t)

def name (make : String → Token) (c : Cursor) : Except Flaw (Token × Cursor) := do
  let (s, c) ← scanName c
  .ok (make s, c)

def blockScalar (folded : Bool) (l : Layout) : Except Flaw Layout := do
  let l ← { l with keyAllowed := true }.dropKey
  let (t, c) ← scanBlockScalar folded l.indent l.cursor
  .ok ((l.move c).push t)

def plain (l : Layout) : Except Flaw Layout := do
  let l ← l.saveKey
  let ((t, broken), c) := scanPlain (l.flow != 0) l.indent l.cursor
  .ok ({ l with keyAllowed := broken, cursor := c }.push t)

/-- Whether a plain scalar may begin here. -/
def startsPlain (flow : Bool) (c : Cursor) : Bool :=
  let x := c.peek
  !(endsIndicator x || "-?:,[]\x7b\x7d#&*!|>'\"%@".toList.contains x || x == '\x60') ||
    (!endsIndicator (c.peekAt 1) && (x == '-' || (!flow && (x == '?' || x == ':'))))

/-- The token at a place where one begins. -/
def token (l : Layout) : Except Flaw Layout :=
  let c := l.cursor
  let x := c.peek
  let flow := l.flow != 0
  let alone := endsIndicator (c.peekAt 1)
  if x == '%' && c.column == 0 then l.directive
  else if x == '-' && c.column == 0 && c.atSeparator then l.documentMark .documentStart
  else if x == '.' && c.column == 0 && c.atSeparator then l.documentMark .documentEnd
  else if x == '[' then l.openBracket .flowSequence
  else if x == '\x7b' then l.openBracket .flowMapping
  else if x == ']' then l.closeBracket .flowSequenceEnd
  else if x == '\x7d' then l.closeBracket .flowMappingEnd
  else if x == ',' then l.flowEntry
  else if x == '-' && alone then l.blockEntry
  else if x == '?' && (flow || alone) then l.keyMark
  else if x == ':' && (flow || alone) then l.valueMark
  else if x == '*' then l.simple (name .reference)
  else if x == '&' then l.simple (name .anchor)
  else if x == '!' then l.simple scanTag
  else if x == '|' && !flow then l.blockScalar false
  else if x == '>' && !flow then l.blockScalar true
  else if x == '\'' then l.simple (scanQuoted false)
  else if x == '"' then l.simple (scanQuoted true)
  else if startsPlain flow c then l.plain
  else .error .malformed

/-- Moves to the next token and reads it; nothing is left when none follows. -/
def step (l : Layout) : Except Flaw (Option Layout × Layout) := do
  let l ← (skipToToken (l.cursor.rest.length + 1) l).dropStale
  let l := l.unwind l.cursor.column
  if l.cursor.rest.isEmpty then .ok (none, ← (l.unwind (-1)).dropKey)
  else .ok (some (← l.token), l)

/-- Ends the tokens where reading failed. Nothing is known of a token, and of those behind it, while it
may still turn out to begin a key. -/
def breakOff (f : Flaw) (l : Layout) : Layout :=
  let undecided := l.keys.filter fun k => !l.isStale k.2
  let known := undecided.foldl (fun n k => min n k.2.before) l.count
  { l with tokens := .broken f :: l.tokens.drop (l.count - known), count := known + 1 }

/-- Reads tokens until the text ends or breaks the grammar. -/
def run : Nat → Layout → Layout
  | 0, l => l.push (.broken .malformed)
  | fuel + 1, l =>
    match l.step with
    | .error f => l.breakOff f
    | .ok (none, l) => l.push .streamEnd
    | .ok (some l, _) => run fuel l

end Layout

/-- Whether a document may hold these characters. -/
def isAllowed (s : List Char) : Bool :=
  s.all allowedChars.contains

/-- The tokens of a text. The last one is the end of the stream or says where it broke off. -/
def tokens (s : List Char) : List Token :=
  if isAllowed s then
    -- a byte order mark at the very start is no part of the text
    let l := Layout.start s
    let l := if s.head? == some '\ufeff' then l.move l.cursor.advance else l
    (Layout.run (s.length + 1) l).tokens.reverse
  else [.broken .malformed]

end SchemaDecl.Yaml
