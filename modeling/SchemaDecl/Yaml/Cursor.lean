import SchemaDecl.Text.CharSet

/-! A place in a YAML text, and the classes of characters by which its grammar is written. Behind the
last character stands, as it were, the null character, which occurs nowhere else. -/

namespace SchemaDecl.Yaml

/-- Why a text is no document. The values that a well-formed document spells wrongly fail in the way
that their kind fails. -/
inductive Flaw where
  /-- The text breaks the grammar, or uses a tag that has no meaning here. -/
  | malformed
  /-- A number, date or character out of range, or no number at all. -/
  | badValue (message : String)
  /-- A number too large to be examined. -/
  | overflow
  /-- A truth value that is none of the words for one. -/
  | unknownWord
  /-- A number without any character. -/
  | emptyNumber
  /-- A time that does not have the form of one. -/
  | noTime
  /-- A time that is not written as a scalar. -/
  | timeNotText
  /-- A scalar that refers to itself. -/
  | cyclic
  deriving DecidableEq, Repr

structure Cursor where
  rest : List Char
  index : Nat
  line : Nat
  column : Nat

/-! ### Characters -/

def isBreak (c : Char) : Bool :=
  c == '\n' || c == '\r' || c == '\u0085' || c == '\u2028' || c == '\u2029'

/-- A line break or the end of the text. -/
def endsLine (c : Char) : Bool :=
  isBreak c || c == '\x00'

/-- A space, a line break or the end. -/
def endsWord (c : Char) : Bool :=
  c == ' ' || endsLine c

/-- A space, a tab, a line break or the end. -/
def endsIndicator (c : Char) : Bool :=
  c == '\t' || endsWord c

def isDigit (c : Char) : Bool :=
  '0' ≤ c && c ≤ '9'

/-- A character of names of anchors and directives. -/
def isNameChar (c : Char) : Bool :=
  isDigit c || ('A' ≤ c && c ≤ 'Z') || ('a' ≤ c && c ≤ 'z') || c == '-' || c == '_'

/-- A character of tags other than a percent sign. -/
def isTagChar (c : Char) : Bool :=
  isNameChar c || ";/?:@&=+$,.!~*'()[]".toList.contains c

def hexValue? (c : Char) : Option Nat :=
  if isDigit c then some (c.toNat - 48)
  else if 'a' ≤ c && c ≤ 'f' then some (c.toNat - 87)
  else if 'A' ≤ c && c ≤ 'F' then some (c.toNat - 55)
  else none

/-- Reads exactly `n` hexadecimal digits. -/
def hexDigits? : Nat → Nat → List Char → Option Nat
  | 0, acc, _ => some acc
  | _ + 1, _, [] => none
  | n + 1, acc, c :: s =>
    match hexValue? c with
    | some d => hexDigits? n (acc * 16 + d) s
    | none => none

/-- The characters that a document may hold. -/
def allowedChars : Text.CharSet where
  changes := [9, 11, 13, 14, 32, 127, 133, 134, 160, 55296, 57344, 65534, 65536, 1114112]

/-! ### Moving -/

namespace Cursor

def ofText (s : List Char) : Cursor :=
  ⟨s, 0, 0, 0⟩

def peekAt (n : Nat) (c : Cursor) : Char :=
  c.rest.getD n '\x00'

def peek (c : Cursor) : Char :=
  c.peekAt 0

/-- Moves over one character. A carriage return and a line feed count as one break, and a byte order
mark takes no column. -/
def advance (c : Cursor) : Cursor :=
  match c.rest with
  | [] => c
  | x :: r =>
    if x == '\n' || x == '\u0085' || x == '\u2028' || x == '\u2029' ||
        (x == '\r' && r.head? != some '\n') then
      ⟨r, c.index + 1, c.line + 1, 0⟩
    else ⟨r, c.index + 1, c.line, if x == '\ufeff' then c.column else c.column + 1⟩

def skip : Nat → Cursor → Cursor
  | 0, c => c
  | n + 1, c => skip n c.advance

/-- The characters ahead that satisfy `p`, and the place behind them. -/
def span (p : Char → Bool) (c : Cursor) : List Char × Cursor :=
  let taken := c.rest.takeWhile p
  (taken, c.skip taken.length)

def skipSpaces (c : Cursor) : Cursor :=
  (c.span (· == ' ')).2

def skipBlanks (c : Cursor) : Cursor :=
  (c.span fun x => x == ' ' || x == '\t').2

/-- Moves to the end of the line. -/
def skipLine (c : Cursor) : Cursor :=
  (c.span fun x => !isBreak x).2

/-- Moves over a line break, if there is one; ordinary breaks are all read as a line feed. -/
def lineBreak (c : Cursor) : Option Char × Cursor :=
  match c.rest with
  | '\r' :: '\n' :: _ => (some '\n', c.skip 2)
  | x :: _ =>
    if x == '\n' || x == '\r' || x == '\u0085' then (some '\n', c.advance)
    else if x == '\u2028' || x == '\u2029' then (some x, c.advance)
    else (none, c)
  | [] => (none, c)

/-- Whether three dashes or three points stand here that separate documents. -/
def atSeparator (c : Cursor) : Bool :=
  (c.rest.take 3 == ['-', '-', '-'] || c.rest.take 3 == ['.', '.', '.']) && endsIndicator (c.peekAt 3)

end Cursor

end SchemaDecl.Yaml
