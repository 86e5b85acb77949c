import SchemaDecl.Number.Numeral
import SchemaDecl.Text.Utf8
import SchemaDecl.Yaml.Cursor

/-! The tokens of a YAML text and the reading of those that have a text of their own: directives,
anchors, tags and scalars. -/

namespace SchemaDecl.Yaml

inductive Directive where
  | version (major minor : Nat)
  | tag (handle text : String)
  | other
  deriving DecidableEq, Repr

inductive Token where
  | directive (d : Directive)
  | documentStart
  | documentEnd
  | blockSequence
  | blockMapping
  | blockEnd
  | flowSequence
  | flowSequenceEnd
  | flowMapping
  | flowMappingEnd
  | blockEntry
  | flowEntry
  | key
  | value
  | reference (name : String)
  | anchor (name : String)
  | tag (handle : Option String) (suffix : String)
  /-- A scalar; `plain` when it stands without quotes and not as a block. -/
  | scalar (text : String) (plain : Bool)
  | streamEnd
  /-- The place where reading tokens failed. -/
  | broken (flaw : Flaw)
  deriving DecidableEq, Repr

/-! ### Tags -/

/-- The bytes behind percent signs, two digits each. -/
def escapedBytes : Nat → List UInt8 → Cursor → Except Flaw (List UInt8 × Cursor)
  | 0, bytes, c => .ok (bytes, c)
  | fuel + 1, bytes, c =>
    if c.peek == '%' then
      match hexDigits? 2 0 (c.rest.drop 1) with
      | some n => escapedBytes fuel (bytes ++ [n.toUInt8]) (c.skip 3)
      | none => .error .malformed
    else .ok (bytes, c)

/-- The text of a tag, with its escapes resolved. -/
def tagText : Nat → List Char → Cursor → Except Flaw (List Char × Cursor)
  | 0, done, c => .ok (done, c)
  | fuel + 1, done, c =>
    let (taken, c) := c.span isTagChar
    let done := done ++ taken
    if c.peek == '%' then do
      let (bytes, c) ← escapedBytes c.rest.length [] c
      match Text.decode bytes with
      | .ok s => tagText fuel (done ++ s.toList) c
      | .error _ => .error .malformed
    else .ok (done, c)

/-- A tag text of at least one character or escape. -/
def scanTagText (c : Cursor) : Except Flaw (String × Cursor) :=
  if isTagChar c.peek || c.peek == '%' then do
    let (s, c) ← tagText (c.rest.length + 1) [] c
    .ok (String.ofList s, c)
  else .error .malformed

/-- The handle of a tag: an exclamation mark alone or a name between two. -/
def scanHandle (c : Cursor) : Except Flaw (String × Cursor) :=
  if c.peek != '!' then .error .malformed
  else if c.peekAt 1 == ' ' then .ok ("!", c.advance)
  else
    let (name, c) := c.advance.span isNameChar
    if c.peek == '!' then .ok (String.ofList ('!' :: name ++ ['!']), c.advance)
    else .error .malformed

/-- Whether an exclamation mark follows before the word ends. -/
def hasHandle : List Char → Bool
  | [] => false
  | c :: r => if endsWord c then false else c == '!' || hasHandle r

def scanTag (c : Cursor) : Except Flaw (Token × Cursor) := do
  let next := c.peekAt 1
  let (token, c) ←
    if next == '<' then do
      let (s, c) ← scanTagText (c.skip 2)
      if c.peek == '>' then Except.ok (Token.tag none s, c.advance) else .error .malformed
    else if endsIndicator next then .ok (.tag none "!", c.advance)
    else if hasHandle (c.rest.drop 1) then do
      let (h, c) ← scanHandle c
      let (s, c) ← scanTagText c
      .ok (.tag (some h) s, c)
    else do
      let (s, c) ← scanTagText c.advance
      .ok (.tag (some "!") s, c)
  if endsWord c.peek then .ok (token, c) else .error .malformed

/-! ### Directives, anchors and aliases -/

/-- Moves over blanks and a comment to the next line. -/
def scanRestOfLine (c : Cursor) : Except Flaw Cursor :=
  let c := c.skipSpaces
  let c := if c.peek == '#' then c.skipLine else c
  if endsLine c.peek then .ok c.lineBreak.2 else .error .malformed

def scanNumber (c : Cursor) : Except Flaw (Nat × Cursor) :=
  let (ds, c) := c.span isDigit
  if ds.isEmpty then .error .malformed
  else if Numeral.digitLimit < ds.length then
    .error (.badValue (Numeral.tooManyDigitsToRead ds.length))
  else .ok (ds.foldl (fun n d => n * 10 + (d.toNat - 48)) 0, c)

def scanDirective (c : Cursor) : Except Flaw (Token × Cursor) := do
  let (name, c) := c.advance.span isNameChar
  if name.isEmpty || !endsWord c.peek then .error .malformed
  else
    let (d, c) ←
      if name == "YAML".toList then do
        let (major, c) ← scanNumber c.skipSpaces
        if c.peek != '.' then .error .malformed
        else
          let (minor, c) ← scanNumber c.advance
          if endsWord c.peek then Except.ok (Directive.version major minor, c) else .error .malformed
      else if name == "TAG".toList then do
        let (handle, c) ← scanHandle c.skipSpaces
        if c.peek != ' ' then .error .malformed
        else
          let (text, c) ← scanTagText c.skipSpaces
          if endsWord c.peek then .ok (.tag handle text, c) else .error .malformed
      else .ok (.other, c.skipLine)
    .ok (.directive d, ← scanRestOfLine c)

/-- The name behind an ampersand or an asterisk. -/
def scanName (c : Cursor) : Except Flaw (String × Cursor) :=
  let (name, c) := c.advance.span isNameChar
  if name.isEmpty then .error .malformed
  else if endsIndicator c.peek || "?:,]\x7d%@".toList.contains c.peek || c.peek == '\x60' then
    .ok (String.ofList name, c)
  else .error .malformed

/-! ### Block scalars -/

/-- What happens to the line breaks at the end of a block scalar. -/
inductive Chomping where
  | strip
  | clip
  | keep
  deriving DecidableEq, Repr

def chompingOf? (c : Char) : Option Chomping :=
  if c == '+' then some .keep else if c == '-' then some .strip else none

/-- The marks behind the indicator of a block scalar: chomping and indentation, in either order. -/
def scanBlockMarks (c : Cursor) : Except Flaw ((Chomping × Option Nat) × Cursor) := do
  let indentation (c : Cursor) : Except Flaw (Option Nat × Cursor) :=
    if isDigit c.peek then
      if c.peek == '0' then .error .malformed else .ok (some (c.peek.toNat - 48), c.advance)
    else .ok (none, c)
  let (marks, c) ←
    match chompingOf? c.peek with
    | some chomping => do
      let (n, c) ← indentation c.advance
      Except.ok ((chomping, n), c)
    | none => do
      let (n, c) ← indentation c
      match n, chompingOf? c.peek with
      | some _, some chomping => .ok ((chomping, n), c.advance)
      | _, _ => .ok ((.clip, n), c)
  if endsWord c.peek then .ok (marks, c) else .error .malformed

/-- The empty lines before a block scalar whose indentation is not given, and the greatest column
reached on them. -/
def leadingLines : Nat → List Char → Nat → Cursor → List Char × Nat × Cursor
  | 0, breaks, most, c => (breaks.reverse, most, c)
  | fuel + 1, breaks, most, c =>
    if c.peek == ' ' then
      let c := c.advance
      leadingLines fuel breaks (max most c.column) c
    else
      match c.lineBreak with
      | (some b, c) => leadingLines fuel (b :: breaks) most c
      | (none, c) => (breaks.reverse, most, c)

/-- Moves over at most the given indentation. -/
def skipIndent : Nat → Nat → Cursor → Cursor
  | 0, _, c => c
  | fuel + 1, indent, c =>
    if c.column < indent && c.peek == ' ' then skipIndent fuel indent c.advance else c

/-- The empty lines inside a block scalar. -/
def innerBreaks (indent : Nat) : Nat → List Char → Cursor → List Char × Cursor
  | 0, breaks, c => (breaks.reverse, c)
  | fuel + 1, breaks, c =>
    let c := skipIndent c.rest.length indent c
    match c.lineBreak with
    | (some b, c) => innerBreaks indent fuel (b :: breaks) c
    | (none, c) => (breaks.reverse, c)

def blankStart (c : Char) : Bool :=
  c == ' ' || c == '\t'

/-- The lines of a block scalar. In a folded one a single break between two lines that begin with no
blank becomes a space. Returned are the text, the last break and the breaks behind it. -/
def blockLines (folded : Bool) (indent : Nat) :
    Nat → List Char → List Char → Option Char → Cursor → List Char × Option Char × List Char × Cursor
  | 0, done, breaks, last, c => (done, last, breaks, c)
  | fuel + 1, done, breaks, last, c =>
    if c.column == indent && c.peek != '\x00' then
      let solid := !blankStart c.peek
      let (line, c) := c.span fun x => !isBreak x
      let done := done ++ breaks ++ line
      let (b, c) := c.lineBreak
      let (breaks, c) := innerBreaks indent (c.rest.length + 1) [] c
      if c.column == indent && c.peek != '\x00' then
        let joint :=
          if folded && b == some '\n' && solid && !blankStart c.peek then
            if breaks.isEmpty then [' '] else []
          else b.toList
        blockLines folded indent fuel (done ++ joint) breaks b c
      else (done, b, breaks, c)
    else (done, last, breaks, c)

/-- A block scalar below an indentation of `outer`. -/
def scanBlockScalar (folded : Bool) (outer : Int) (c : Cursor) : Except Flaw (Token × Cursor) := do
  let ((chomping, increment), c) ← scanBlockMarks c.advance
  let c ← scanRestOfLine c
  let least := (max (outer + 1) 1).toNat
  let (breaks, indent, c) :=
    match increment with
    | none =>
      let (breaks, most, c) := leadingLines (c.rest.length + 1) [] 0 c
      (breaks, max least most, c)
    | some n =>
      let (breaks, c) := innerBreaks (least + n - 1) (c.rest.length + 1) [] c
      (breaks, least + n - 1, c)
  let (done, last, breaks, c) := blockLines folded indent (c.rest.length + 1) [] breaks none c
  let text :=
    match chomping with
    | .strip => done
    | .clip => done ++ last.toList
    | .keep => done ++ last.toList ++ breaks
  .ok (.scalar (String.ofList text) false, c)

/-! ### Quoted scalars -/

/-- The character that one letter stands for behind a backslash. -/
def letterEscape? : Char → Option Nat
  | '0' => some 0
  | 'a' => some 7
  | 'b' => some 8
  | 't' | '\t' => some 9
  | 'n' => some 10
  | 'v' => some 11
  | 'f' => some 12
  | 'r' => some 13
  | 'e' => some 27
  | ' ' => some 32
  | '"' => some 34
  | '\\' => some 92
  | '/' => some 47
  | 'N' => some 0x85
  | '_' => some 0xA0
  | 'L' => some 0x2028
  | 'P' => some 0x2029
  | _ => none

/-- The number of digits behind the letter of an escape by number. -/
def escapeWidth? : Char → Option Nat
  | 'x' => some 2
  | 'u' => some 4
  | 'U' => some 8
  | _ => none

/-- The text with these code points. Two halves of a pair that follow each other become one
character; a half that stands alone becomes the replacement character. -/
def ofCodes : List Nat → List Char
  | high :: low :: rest =>
    if 0xD800 ≤ high && high < 0xDC00 && 0xDC00 ≤ low && low < 0xE000 then
      Char.ofNat (0x10000 + (high - 0xD800) * 1024 + (low - 0xDC00)) :: ofCodes rest
    else ofCode high :: ofCodes (low :: rest)
  | [n] => [ofCode n]
  | [] => []
where
  ofCode (n : Nat) : Char := if 0xD800 ≤ n && n < 0xE000 then '\ufffd' else Char.ofNat n

/-- The line breaks and blanks at the start of a line inside quotes. -/
def quotedBreaks : Nat → List Char → Cursor → Except Flaw (List Char × Cursor)
  | 0, breaks, c => .ok (breaks.reverse, c)
  | fuel + 1, breaks, c =>
    if c.atSeparator then .error .malformed
    else
      let c := c.skipBlanks
      match c.lineBreak with
      | (some b, c) => quotedBreaks fuel (b :: breaks) c
      | (none, c) => .ok (breaks.reverse, c)

def codes (s : List Char) : List Nat :=
  s.map Char.toNat

/-- An escape, from behind its backslash. -/
def scanEscape (c : Cursor) : Except Flaw (List Nat × Cursor) :=
  match letterEscape? c.peek, escapeWidth? c.peek with
  | some n, _ => .ok ([n], c.advance)
  | none, some width =>
    match hexDigits? width 0 (c.rest.drop 1) with
    | none => .error .malformed
    | some n =>
      if 0x7fffffff < n then .error .overflow
      else if 0x10ffff < n then .error (.badValue "chr() arg not in range(0x110000)")
      else .ok ([n], c.skip (width + 1))
  | none, none =>
    match c.lineBreak with
    | (some _, c) => do
      let (breaks, c) ← quotedBreaks (c.rest.length + 1) [] c
      .ok (codes breaks, c)
    | (none, _) => .error .malformed

/-- Blanks inside quotes; when a line ends among them, they fold to one space or to the empty lines
that follow. -/
def scanQuotedBlanks (c : Cursor) : Except Flaw (List Nat × Cursor) :=
  let (blanks, c) := c.span fun x => x == ' ' || x == '\t'
  if c.peek == '\x00' then .error .malformed
  else
    match c.lineBreak with
    | (none, c) => .ok (codes blanks, c)
    | (some b, c) => do
      let (breaks, c) ← quotedBreaks (c.rest.length + 1) [] c
      if b != '\n' then .ok (codes (b :: breaks), c)
      else if breaks.isEmpty then .ok ([32], c)
      else .ok (codes breaks, c)

def isQuotedText (c : Char) : Bool :=
  !(c == '\'' || c == '"' || c == '\\' || c == '\t' || endsWord c)

/-- The code points up to the closing quote; `done` holds those before in reverse. -/
def quotedCodes (double : Bool) : Nat → List Nat → Cursor → Except Flaw (List Nat × Cursor)
  | 0, _, _ => .error .malformed
  | fuel + 1, done, c =>
    let (taken, c) := c.span isQuotedText
    let done := (codes taken).reverse ++ done
    let x := c.peek
    if !double && x == '\'' && c.peekAt 1 == '\'' then quotedCodes double fuel (39 :: done) (c.skip 2)
    else if x == (if double then '"' else '\'') then .ok (done.reverse, c.advance)
    else if x == '\'' || x == '"' || (!double && x == '\\') then
      quotedCodes double fuel (x.toNat :: done) c.advance
    else if x == '\\' then do
      let (ns, c) ← scanEscape c.advance
      quotedCodes double fuel (ns.reverse ++ done) c
    else do
      let (ns, c) ← scanQuotedBlanks c
      quotedCodes double fuel (ns.reverse ++ done) c

def scanQuoted (double : Bool) (c : Cursor) : Except Flaw (Token × Cursor) := do
  let (ns, c) ← quotedCodes double (c.rest.length + 1) [] c.advance
  .ok (.scalar (String.ofList (ofCodes ns)) false, c)

/-! ### Plain scalars -/

/-- Whether a plain scalar ends at `c`, which `next` follows. Inside brackets the indicators of
collections end it too. -/
def endsPlain (flow : Bool) (c next : Char) : Bool :=
  endsIndicator c ||
    (c == ':' && (endsIndicator next || (flow && ",[]\x7b\x7d".toList.contains next))) ||
    (flow && ",?[]\x7b\x7d".toList.contains c)

def plainLength (flow : Bool) : List Char → Nat
  | [] => 0
  | c :: r => if endsPlain flow c (r.headD '\x00') then 0 else plainLength flow r + 1

/-- Spaces and empty lines between the lines of a plain scalar. -/
def plainBreaks : Nat → List Char → Cursor → Option (List Char) × Cursor
  | 0, breaks, c => (some breaks.reverse, c)
  | fuel + 1, breaks, c =>
    if c.peek == ' ' then plainBreaks fuel breaks c.advance
    else
      match c.lineBreak with
      | (some b, c) => if c.atSeparator then (none, c) else plainBreaks fuel (b :: breaks) c
      | (none, c) => (some breaks.reverse, c)

/-- What stands between two parts of a plain scalar, empty when nothing does or documents are
separated there, and whether a line ended. -/
def plainSpaces (c : Cursor) : List Char × Bool × Cursor :=
  let (spaces, c) := c.span (· == ' ')
  match c.lineBreak with
  | (none, c) => (spaces, false, c)
  | (some b, c) =>
    if c.atSeparator then ([], true, c)
    else
      match plainBreaks (c.rest.length + 1) [] c with
      | (none, c) => ([], true, c)
      | (some breaks, c) =>
        (if b != '\n' then b :: breaks else if breaks.isEmpty then [' '] else breaks, true, c)

/-- The text of a plain scalar, whether a line ended behind its last part, and the place behind it.
`broken` says so for what was read before. -/
def plainText (flow : Bool) (indent : Int) :
    Nat → List Char → List Char → Bool → Cursor → List Char × Bool × Cursor
  | 0, done, _, broken, c => (done, broken, c)
  | fuel + 1, done, spaces, broken, c =>
    if c.peek == '#' then (done, broken, c)
    else
      let n := plainLength flow c.rest
      if n == 0 then (done, broken, c)
      else
        let done := done ++ spaces ++ c.rest.take n
        let (spaces, broken, c) := plainSpaces (c.skip n)
        if spaces.isEmpty || c.peek == '#' || (!flow && (c.column : Int) < indent) then
          (done, broken, c)
        else plainText flow indent fuel done spaces broken c

/-- A plain scalar, and whether it ended with a line. -/
def scanPlain (flow : Bool) (outer : Int) (c : Cursor) : (Token × Bool) × Cursor :=
  let (text, broken, c) := plainText flow (outer + 1) (c.rest.length + 1) [] [] false c
  ((.scalar (String.ofList text) true, broken), c)

end SchemaDecl.Yaml
