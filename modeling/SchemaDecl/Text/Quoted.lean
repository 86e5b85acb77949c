import SchemaDecl.Text.Utf8
import SchemaDecl.Text.Printable

/-! Texts between quotes. Between double quotes a text stands as in JSON, either with all characters
but the quote, the backslash and the control characters as they are, or in ASCII with an escape for
every other character, one beyond the first plane as a pair. Between single quotes it stands as it
is shown in messages, with escapes for whatever has no visible form. -/

namespace SchemaDecl.Text

/-! ### Double quotes -/

/-- An escape by four digits. -/
def unitEscape (n : Nat) : List Char :=
  '\\' :: 'u' :: hex 4 n

/-- The escape of a character that must not stand for itself. -/
def shortEscape? (c : Char) : Option (List Char) :=
  if c == '"' then some ['\\', '"']
  else if c == '\\' then some ['\\', '\\']
  else if c == '\n' then some ['\\', 'n']
  else if c == '\r' then some ['\\', 'r']
  else if c == '\t' then some ['\\', 't']
  else if c == '\x08' then some ['\\', 'b']
  else if c == '\x0c' then some ['\\', 'f']
  else none

/-- A character as it stands between double quotes. -/
def quoteChar (c : Char) : List Char :=
  match shortEscape? c with
  | some e => e
  | none => if c.toNat < 32 then unitEscape c.toNat else [c]

/-- A character as it stands between double quotes, in ASCII alone. -/
def quoteAsciiChar (c : Char) : List Char :=
  match shortEscape? c with
  | some e => e
  | none =>
    if 32 ≤ c.toNat && c.toNat < 127 then [c]
    else if c.toNat < 0x10000 then unitEscape c.toNat
    else
      let n := c.toNat - 0x10000
      unitEscape (0xD800 + n / 1024) ++ unitEscape (0xDC00 + n % 1024)

/-- The text between double quotes. -/
def quote (s : String) : String :=
  String.ofList ('"' :: s.toList.flatMap quoteChar ++ ['"'])

/-- The text between double quotes, in ASCII alone. -/
def quoteAscii (s : String) : String :=
  String.ofList ('"' :: s.toList.flatMap quoteAsciiChar ++ ['"'])

/-! ### Single quotes -/

/-- A character as it is shown between quotes of the given kind. -/
def showChar (mark c : Char) : List Char :=
  if c == mark || c == '\\' then ['\\', c]
  else if c == '\n' then ['\\', 'n']
  else if c == '\r' then ['\\', 'r']
  else if c == '\t' then ['\\', 't']
  else if isPrintable c then [c]
  else if c.toNat < 0x100 then '\\' :: 'x' :: hex 2 c.toNat
  else if c.toNat < 0x10000 then unitEscape c.toNat
  else '\\' :: 'U' :: hex 8 c.toNat

/-- Single quotes, unless the text holds one and no double quote. -/
def quoteMark (s : List Char) : Char :=
  if s.contains '\'' && !s.contains '"' then '"' else '\''

/-- The text as it is shown in messages. -/
def shown (s : String) : String :=
  let mark := quoteMark s.toList
  String.ofList (mark :: s.toList.flatMap (showChar mark) ++ [mark])

/-- A sequence of bytes as it is shown in messages: each byte as the character with its number, and
those beyond ASCII by their digits. -/
def shownBytes (bs : List UInt8) : String :=
  let s := bs.map fun b => Char.ofNat b.toNat
  let mark := quoteMark s
  let body := s.flatMap fun c =>
    if c.toNat < 127 then showChar mark c else '\\' :: 'x' :: hex 2 c.toNat
  String.ofList ('b' :: mark :: body ++ [mark])

example : shown "it's" = "\"it's\"" := by decide +kernel

example : quoteAscii "é😀" = "\"\\u00e9\\ud83d\\ude00\"" := by decide +kernel

end SchemaDecl.Text
