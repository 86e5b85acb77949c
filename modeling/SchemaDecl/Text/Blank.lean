import SchemaDecl.Text.CharSet

/-! White space and line ends. Blank characters are the white space of the character database and
the four information separators; a text is cut into lines at every character that ends a line in
the database, a carriage return and the line feed after it counting as one end. -/

namespace SchemaDecl.Text

/-- White space of the character database and the separators U+001C to U+001F. -/
def blankChars : CharSet where
  changes := [9, 14, 28, 33, 133, 134, 160, 161, 5760, 5761, 8192, 8203, 8232, 8234, 8239, 8240,
    8287, 8288, 12288, 12289]

def isBlank (c : Char) : Bool :=
  blankChars.contains c

example : blankChars.size = 29 := by decide

/-- Drops the blank characters at both ends. -/
def trimList (s : List Char) : List Char :=
  ((s.dropWhile isBlank).reverse.dropWhile isBlank).reverse

/-- Drops the blank characters at both ends. -/
def trim (s : String) : String :=
  String.ofList (trimList s.toList)

/-- Whether nothing but blank characters occurs. -/
def isAllBlank (s : String) : Bool :=
  s.toList.all isBlank

/-- Characters that end a line. -/
def isLineEnd (c : Char) : Bool :=
  c == '\n' || c == '\r' || c == '\x0b' || c == '\x0c' || c == '\x1c' || c == '\x1d' ||
    c == '\x1e' || c == '\u0085' || c == '\u2028' || c == '\u2029'

/-- The lines of a text, without their ends. `line` holds the current line in reverse. -/
def linesFrom (line : List Char) : List Char → List (List Char)
  | [] => if line.isEmpty then [] else [line.reverse]
  | '\r' :: '\n' :: rest => line.reverse :: linesFrom [] rest
  | c :: rest => if isLineEnd c then line.reverse :: linesFrom [] rest else linesFrom (c :: line) rest

/-- The lines of a text, without their ends; a last end starts no further line. -/
def lines (s : String) : List String :=
  (linesFrom [] s.toList).map String.ofList

/-- Reads every line end of a file, in any of the three usual forms, as a line feed. -/
def unifyNewlinesList : List Char → List Char
  | [] => []
  | '\r' :: '\n' :: rest => '\n' :: unifyNewlinesList rest
  | '\r' :: rest => '\n' :: unifyNewlinesList rest
  | c :: rest => c :: unifyNewlinesList rest

def unifyNewlines (s : String) : String :=
  String.ofList (unifyNewlinesList s.toList)

end SchemaDecl.Text
