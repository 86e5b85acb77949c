import SchemaDecl.Text.Blank
import SchemaDecl.Text.Cells

/-! Folding a text to a width. Lines are broken behind the blanks that follow a word where the next
word would not fit; a word that fits on no line is cut. Blanks at the end of a line may stand beyond
the width only in the mind: they are dropped. Tabs are filled up with spaces, and characters that
would move the cursor are left out. -/

namespace SchemaDecl.Text

/-- Bell, backspace, vertical tab, form feed and carriage return. -/
def isCursorControl (c : Char) : Bool :=
  c == '\x07' || c == '\x08' || c == '\x0b' || c == '\x0c' || c == '\r'

/-- The parts of a text between line feeds. -/
def splitLines : List Char → List (List Char)
  | [] => [[]]
  | '\n' :: s => [] :: splitLines s
  | c :: s =>
    match splitLines s with
    | l :: ls => (c :: l) :: ls
    | [] => [[c]]

/-- Replaces every tab by the spaces up to the next of the columns that eight divides, and by one at
least; `column` is where the text begins. -/
def expandTabs (column : Nat) : List Char → List Char
  | [] => []
  | '\t' :: s =>
    let spaces := 8 - column % 8
    List.replicate spaces ' ' ++ expandTabs (column + spaces) s
  | c :: s => c :: expandTabs (column + charCells c) s

/-- A word with the blanks behind it, and before it if nothing else is there, and the rest. -/
def nextWord (s : List Char) : List Char × List Char :=
  let front := s.takeWhile isBlank
  let r := s.dropWhile isBlank
  let word := r.takeWhile fun c => !isBlank c
  let r := r.dropWhile fun c => !isBlank c
  (front ++ word ++ r.takeWhile isBlank, r.dropWhile isBlank)

/-- The words of a text, each with the blanks around it; blanks alone are none. -/
def wordsOf : Nat → List Char → List (List Char)
  | 0, _ => []
  | fuel + 1, s =>
    if s.all isBlank then []
    else
      let (w, r) := nextWord s
      w :: wordsOf fuel r

/-- Cuts a text into pieces of at most `width` columns; `used` columns of the first one, `piece` in
reverse, are taken. -/
def chop (width used : Nat) (piece : List Char) : List Char → List (List Char)
  | [] => [piece.reverse]
  | c :: s =>
    if width < used + charCells c then piece.reverse :: chop width (charCells c) [c] s
    else chop width (used + charCells c) (c :: piece) s

/-- The places at which pieces begin, from the first one on. -/
def starts (i : Nat) : List (List Char) → List Nat
  | [] => []
  | p :: ps => i :: starts (i + p.length) ps

def trimEnd (s : List Char) : List Char :=
  (s.reverse.dropWhile isBlank).reverse

/-- The places at which a line is broken. `i` is the place of the next word and `used` the number of
columns before it. -/
def breaks (width i used : Nat) : List (List Char) → List Nat
  | [] => []
  | w :: ws =>
    let n := cells (trimEnd w)
    if used + n ≤ width then breaks width (i + w.length) (used + cells w) ws
    else if width < n then
      let pieces := chop width 0 [] w
      (starts i pieces).filter (· != 0) ++
        breaks width (i + w.length) (cells (pieces.getLast?.getD [])) ws
    else if used != 0 && i != 0 then i :: breaks width (i + w.length) (cells w) ws
    else breaks width (i + w.length) used ws

/-- The parts of a text between places, of which `i` characters are gone. -/
def divideAt (i : Nat) (s : List Char) : List Nat → List (List Char)
  | [] => [s]
  | p :: ps => s.take (p - i) :: divideAt p (s.drop (p - i)) ps

/-- Drops blanks at the end of a line as long as it has more than `width` characters. -/
def dropExcess (width : Nat) (s : List Char) : List Char :=
  s.take (s.length - min (s.length - (trimEnd s).length) (s.length - width))

/-- A beginning of a text that fills exactly `width` columns, sought by halves between two places; a
space takes the place of the first half of a wide character. -/
def fill (width : Nat) (s : List Char) : Nat → Nat → Nat → List Char
  | 0, _, _ => s.take width
  | fuel + 1, l, r =>
    let p := (l + r) / 2
    let front := s.take (p + 1)
    let n := cells front
    if n == width + 1 && cells (front.drop p) == 2 then front.take p ++ [' ']
    else if n == width then front
    else if width < n then fill width s fuel l p
    else fill width s fuel p r

/-- Cuts off what stands beyond the width. -/
def clip (width : Nat) (s : List Char) : List Char :=
  if width < cells s then fill width s (s.length + 1) 0 s.length else s

/-- The lines that a line is broken into. -/
def foldLine (width : Nat) (s : List Char) : List (List Char) :=
  let s := expandTabs 0 s
  (divideAt 0 s (breaks width 0 0 (wordsOf (s.length + 1) s))).map fun l =>
    clip width (dropExcess width l)

/-- A text as lines of at most `width` columns, each with a line feed at its end. Where there is no
room at all nothing is shown. -/
def fold (width : Nat) (s : String) : String :=
  if width == 0 then ""
  else
    let ls := (splitLines (s.toList.filter fun c => !isCursorControl c)).flatMap (foldLine width)
    String.ofList (ls.flatMap fun l => l ++ ['\n'])

end SchemaDecl.Text
