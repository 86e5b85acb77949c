import SchemaDecl.Http.DomainChars
import SchemaDecl.Text.Case
import SchemaDecl.Text.Combining
import SchemaDecl.Text.Punycode
import SchemaDecl.Text.Quoted

/-! Names of hosts in all scripts. Such a name travels in ASCII: a label with other characters is
written with letters, digits and hyphens behind a mark of its own. Labels of either form are checked for
characters that are not permitted, or not where they stand, and for directions that do not go together. -/

namespace SchemaDecl

/-- Why directions in a label do not go together. -/
inductive DirectionError where
  /-- The label begins with a character of neither direction. -/
  | start (label : String)
  /-- A character of the other direction, or of none that counts, with its place. -/
  | misplaced (leftward : Bool) (place : Nat)
  | mixedDigits
  | finish
  deriving DecidableEq, Inhabited, Repr

def DirectionError.message : DirectionError → String
  | .start l => "First codepoint in label " ++ Text.shown l ++ " must be directionality L, R or AL"
  | .misplaced leftward i =>
    "Invalid direction for codepoint at position " ++ toString (i + 1) ++ " in a " ++
      (if leftward then "right-to-left" else "left-to-right") ++ " label"
  | .mixedDigits => "Can not mix numeral types in a right-to-left label"
  | .finish => "Label ends with illegal codepoint directionality"

/-- What is wrong with a name of a host. -/
inductive DomainError where
  | emptyDomain
  | emptyLabel
  | longLabel
  | longDomain
  | emptyCode
  | hyphenCode
  | malformedCode
  | uncomposed
  | hyphens
  | hyphenAtEnd
  | markInFront
  /-- A character that is not permitted at all, with its place. -/
  | character (label : String) (place : Nat) (c : Char)
  /-- A character that is not permitted where it stands. -/
  | context (joiner : Bool) (label : String) (place : Nat) (c : Char)
  | direction (e : DirectionError)
  deriving DecidableEq, Inhabited, Repr

namespace DomainError

def codeText (c : Char) : String :=
  let digits := (Nat.toDigits 16 c.toNat).map Char.toUpper
  "U+" ++ String.ofList (List.replicate (4 - digits.length) '0' ++ digits)

def message : DomainError → String
  | .emptyDomain => "Empty domain"
  | .emptyLabel => "Empty Label"
  | .longLabel => "Label too long"
  | .longDomain => "Domain too long"
  | .emptyCode => "Malformed A-label, no Punycode eligible content found"
  | .hyphenCode => "A-label must not end with a hyphen"
  | .malformedCode => "Invalid A-label"
  | .uncomposed => "Label must be in Normalization Form C"
  | .hyphens => "Label has disallowed hyphens in 3rd and 4th position"
  | .hyphenAtEnd => "Label must not start or end with a hyphen"
  | .markInFront => "Label begins with an illegal combining character"
  | .character l i c =>
    "Codepoint " ++ codeText c ++ " at position " ++ toString (i + 1) ++ " of " ++ Text.shown l ++
      " not allowed"
  | .context joiner l i c =>
    (if joiner then "Joiner " else "Codepoint ") ++ codeText c ++ " not allowed at position " ++
      toString (i + 1) ++ " in " ++ Text.shown l
  | .direction e => e.message

end DomainError

namespace Domain

/-! ### Characters that need the right company -/

/-- The next of some characters that takes a place of its own. -/
def nextLetter (s : List Char) : Option Char :=
  s.find? fun c => !Text.isNonspacing c

/-- Whether a joiner may stand between the characters before it, in reverse, and those after it. The
one that keeps letters apart may also stand where letters would join. -/
def joinerFits (keepsApart : Bool) (before after : List Char) : Bool :=
  (match before with
    | c :: _ => Text.markOrder c == Text.viramaOrder
    | [] => false) ||
    (keepsApart && ((nextLetter before).map joiningNext.contains).getD false &&
      ((nextLetter after).map joiningLast.contains).getD false)

def isEasternDigit (c : Char) : Bool :=
  '\u06f0' ≤ c && c ≤ '\u06f9'

def isArabicDigit (c : Char) : Bool :=
  '\u0660' ≤ c && c ≤ '\u0669'

/-- Whether a character is permitted between others; `none` when it has nothing to do with them. -/
def fits? (before : List Char) (c : Char) (after : List Char) : Option Bool :=
  if c == '\u00b7' then some (before.head? == some 'l' && after.head? == some 'l')
  else if c == '\u0375' then some ((after.head?.map greekChars.contains).getD false)
  else if c == '\u05f3' || c == '\u05f4' then some ((before.head?.map hebrewChars.contains).getD false)
  else if c == '\u30fb' then
    some ((before ++ after).any fun d => d != '\u30fb' && japaneseChars.contains d)
  else if isArabicDigit c then some (!((before ++ after).any isEasternDigit))
  else if isEasternDigit c then some (!((before ++ after).any isArabicDigit))
  else none

/-- Checks the characters of a label one after another; `before` holds those that are done, in
reverse. -/
def checkChars (label : String) (before : List Char) : List Char → Except DomainError Unit
  | [] => .ok ()
  | c :: s =>
    let place := before.length
    if permittedChars.contains c then checkChars label (c :: before) s
    else if c == '\u200c' || c == '\u200d' then
      if joinerFits (c == '\u200c') before s then checkChars label (c :: before) s
      else .error (.context true label place c)
    else
      match fits? before c s with
      | some true => checkChars label (c :: before) s
      | some false => .error (.context false label place c)
      | none => .error (.character label place c)

/-! ### Directions -/

inductive Direction where
  | right
  | left
  | arabicDigit
  | europeanDigit
  | mark
  | neutral
  deriving DecidableEq, Repr

def directionOf (c : Char) : Direction :=
  if leftwardChars.contains c then .left
  else if arabicDigits.contains c then .arabicDigit
  else if europeanDigits.contains c then .europeanDigit
  else if Text.isNonspacing c then .mark
  else if neutralChars.contains c then .neutral
  else .right

/-- Checks the directions of the characters from a place on. Digits of two kinds do not mix in a label of
a left-going script; `digits` is the kind of those before. Marks aside, the last character must be a
letter or a digit, as `ends` tells of those before. -/
def checkDirections (leftward : Bool) (place : Nat) (digits : Option Direction) (ends : Bool) :
    List Direction → Except DirectionError Unit
  | [] => if ends then .ok () else .error .finish
  | d :: ds =>
    if d == (if leftward then .right else .left) || (!leftward && d == .arabicDigit) then
      .error (.misplaced leftward place)
    else if leftward && (d == .arabicDigit || d == .europeanDigit) then
      if digits.isSome && digits != some d then .error .mixedDigits
      else checkDirections leftward (place + 1) (some d) true ds
    else
      checkDirections leftward (place + 1) digits
        (if d == .mark then ends else d != .neutral) ds

/-- Checks the directions in a label that holds letters or digits of the left-going scripts. -/
def checkDirection (s : List Char) : Except DirectionError Unit :=
  let ds := s.map directionOf
  if !ds.any fun d => d == .left || d == .arabicDigit then .ok ()
  else
    match ds.head? with
    | some .left => checkDirections true 0 none false ds
    | some .right => checkDirections false 0 none false ds
    | _ => .error (.start (String.ofList s))

/-! ### Labels -/

/-- Checks a label that is written in its own characters. -/
def checkLabel (s : List Char) : Except DomainError Unit := do
  if s.isEmpty then throw .emptyLabel
  if !Text.isComposed s then throw .uncomposed
  if (s.drop 2).take 2 == ['-', '-'] then throw .hyphens
  if s.head? == some '-' || s.getLast? == some '-' then throw .hyphenAtEnd
  if (s.head?.map Text.isMark).getD false then throw .markInFront
  checkChars (String.ofList s) [] s
  (checkDirection s).mapError .direction

/-- The mark of a label that is written in ASCII for other characters. -/
def codeMark : List Char :=
  ['x', 'n', '-', '-']

/-- A label of ASCII in its own characters. -/
def readLabel (s : List Char) : Except DomainError (List Char) := do
  let s := s.map Char.toLower
  if codeMark.isPrefixOf s then
    let code := s.drop 4
    if code.isEmpty then throw .emptyCode
    if code.getLast? == some '-' then throw .hyphenCode
    match Text.Punycode.decode code with
    | none => throw .malformedCode
    | some t =>
      checkLabel t
      return t
  else
    checkLabel s
    return s

/-- A label in ASCII. -/
def writeLabel (s : List Char) : Except DomainError (List Char) := do
  let t ←
    if s.all fun c => c.toNat < 128 then do
      let _ ← readLabel s
      pure s
    else do
      checkLabel s
      pure (codeMark ++ Text.Punycode.encode s)
  if 63 < t.length then throw .longLabel
  return t

/-! ### Names -/

/-- The labels of a name, between points of any writing, and whether a point ends it. -/
def labels (s : List Char) : List (List Char) × Bool :=
  let parts := split s
  if parts.getLast? == some [] then (parts.dropLast, true) else (parts, false)
where
  split : List Char → List (List Char)
    | [] => [[]]
    | c :: s =>
      if ['.', '\u3002', '\uff0e', '\uff61'].contains c then [] :: split s
      else
        match split s with
        | p :: ps => (c :: p) :: ps
        | [] => [[c]]

/-- A name whose labels are treated one by one. -/
def mapLabels (f : List Char → Except DomainError (List Char)) (name : String) :
    Except DomainError (List Char) := do
  if name.isEmpty then throw .emptyDomain
  let (ls, ended) := labels name.toList
  let ls ← ls.mapM fun l => do
    let t ← f l
    if t.isEmpty then throw .emptyLabel
    return t
  return ['.'].intercalate (if ended then ls ++ [[]] else ls)

/-- The name in ASCII. -/
def toAscii (name : String) : Except DomainError String := do
  let s ← mapLabels writeLabel name
  let limit := if s.getLast? == some '.' then 254 else 253
  if limit < s.length then throw .longDomain
  return String.ofList s

/-- The name in its own characters. -/
def ofAscii (name : String) : Except DomainError String := do
  return String.ofList (← mapLabels readLabel name)

example : (toAscii "bücher").toOption = some "xn--bcher-kva" := by decide +kernel

end Domain

end SchemaDecl
