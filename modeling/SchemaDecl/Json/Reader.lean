import SchemaDecl.Value
import SchemaDecl.Number.Numeral

/-! Reading JSON. Besides the grammar of the format the words `NaN`, `Infinity` and `-Infinity` are
numbers. A numeral without fraction and exponent is an integer of any size up to a limit on its
digits; a repeated key keeps its first place and takes the last value. An error says what was
expected and at which character. -/

namespace SchemaDecl.Json

inductive Problem where
  | expectedValue
  | expectedKey
  | expectedColon
  | expectedComma
  | extraData
  | unterminatedText
  | controlCharacter
  | badEscape
  | badUnitEscape
  | byteOrderMark
  deriving DecidableEq, Repr

/-- Why a text is no JSON. A place is given by the number of characters from it to the end. -/
inductive Stop where
  | at (problem : Problem) (left : Nat)
  | tooManyDigits (count : Nat)
  deriving DecidableEq, Repr

def isBlank (c : Char) : Bool :=
  c == ' ' || c == '\t' || c == '\n' || c == '\r'

def skipBlanks : List Char → List Char
  | [] => []
  | c :: s => if isBlank c then skipBlanks s else c :: s

/-! ### Texts -/

def hexValue? (c : Char) : Option Nat :=
  if '0' ≤ c ∧ c ≤ '9' then some (c.toNat - 48)
  else if 'a' ≤ c ∧ c ≤ 'f' then some (c.toNat - 87)
  else if 'A' ≤ c ∧ c ≤ 'F' then some (c.toNat - 55)
  else none

/-- Reads four hexadecimal digits. -/
def unit? : List Char → Option (Nat × List Char)
  | a :: b :: c :: d :: s => do
    some (((← hexValue? a) * 16 + (← hexValue? b)) * 256 + (← hexValue? c) * 16 + (← hexValue? d), s)
  | _ => none

/-- The character that a single letter stands for behind a backslash. -/
def letterEscape? : Char → Option Char
  | '"' => some '"'
  | '\\' => some '\\'
  | '/' => some '/'
  | 'b' => some '\x08'
  | 'f' => some '\x0c'
  | 'n' => some '\n'
  | 'r' => some '\r'
  | 't' => some '\t'
  | _ => none

/-- The character of a code unit; half of a pair that stands alone becomes the replacement
character. -/
def unitChar (n : Nat) : Char :=
  if 0xD800 ≤ n && n < 0xE000 then '\ufffd' else Char.ofNat n

/-- Reads an escape by digits from behind the `u`, with a second one when both form a pair. The
digits must not be the last of the input. -/
def readUnit (s : List Char) : Except Stop (Char × List Char) :=
  match unit? s with
  | none | some (_, []) => .error (.at .badUnitEscape (s.length + 1))
  | some (n, r) =>
    match r with
    | '\\' :: 'u' :: r2 =>
      if 0xD800 ≤ n && n < 0xDC00 && 4 < r2.length then
        match unit? r2 with
        | none => .error (.at .badUnitEscape (r2.length + 1))
        | some (low, r3) =>
          if 0xDC00 ≤ low && low < 0xE000 then
            .ok (Char.ofNat (0x10000 + (n - 0xD800) * 1024 + (low - 0xDC00)), r3)
          else .ok (unitChar n, r)
      else .ok (unitChar n, r)
    | _ => .ok (unitChar n, r)

/-- Reads a text up to its closing quote. `opening` counts the characters from the opening quote to
the end of the input, `done` holds the characters before in reverse, and `fuel` is at least the
number of characters left. -/
def readText (opening : Nat) : Nat → List Char → List Char → Except Stop (String × List Char)
  | 0, _, _ => .error (.at .unterminatedText opening)
  | fuel + 1, done, s =>
    match s with
    | [] => .error (.at .unterminatedText opening)
    | '"' :: r => .ok (String.ofList done.reverse, r)
    | '\\' :: r =>
      match r with
      | [] => .error (.at .unterminatedText opening)
      | 'u' :: r =>
        match readUnit r with
        | .error e => .error e
        | .ok (c, r) => readText opening fuel (c :: done) r
      | e :: r =>
        match letterEscape? e with
        | some c => readText opening fuel (c :: done) r
        | none => .error (.at .badEscape (r.length + 2))
    | c :: r =>
      if c.toNat < 32 then .error (.at .controlCharacter (r.length + 1))
      else readText opening fuel (c :: done) r

/-! ### Numbers -/

def isDigit (c : Char) : Bool :=
  '0' ≤ c && c ≤ '9'

def digitsValue (ds : List Char) : Nat :=
  ds.foldl (fun n c => n * 10 + (c.toNat - 48)) 0

/-- The digits at the front and what follows them. -/
def splitDigits (s : List Char) : List Char × List Char :=
  (s.takeWhile isDigit, s.dropWhile isDigit)

/-- A fraction, which is a point with digits behind it. -/
def readFraction : List Char → List Char × List Char
  | '.' :: s => if (splitDigits s).1.isEmpty then ([], '.' :: s) else splitDigits s
  | s => ([], s)

/-- An exponent, which is a letter, perhaps a sign, and digits. -/
def readExponent (s : List Char) : Option Int × List Char :=
  match s with
  | c :: r =>
    if c == 'e' || c == 'E' then
      let (negative, r) :=
        match r with
        | '-' :: r => (true, r)
        | '+' :: r => (false, r)
        | r => (false, r)
      let (ds, rest) := splitDigits r
      if ds.isEmpty then (none, s)
      else (some (if negative then -(digitsValue ds : Int) else digitsValue ds), rest)
    else (none, s)
  | [] => (none, s)

/-- The integer part of a number: a zero or digits that begin with none. -/
def readWhole (s : List Char) : List Char × List Char :=
  match s with
  | '0' :: r => (['0'], r)
  | s => splitDigits s

/-- Reads a number from behind its sign; `none` when no digit is there. -/
def readNumber (negative : Bool) (s : List Char) : Option (Except Stop (Value × List Char)) :=
  let (whole, r) := readWhole s
  if whole.isEmpty then none
  else
    let (fraction, r) := readFraction r
    let (exponent, r) := readExponent r
    if fraction.isEmpty && exponent.isNone then
      if Numeral.digitLimit < whole.length then some (.error (.tooManyDigits whole.length))
      else
        let n : Int := digitsValue whole
        some (.ok (.int (if negative then -n else n), r))
    else
      let point := (exponent.getD 0) - fraction.length
      some (.ok (.float (Binary64.ofDecimal negative (digitsValue (whole ++ fraction)) point), r))

/-! ### Values -/

/-- Takes a word off the front. -/
def word? : List Char → List Char → Option (List Char)
  | [], s => some s
  | _, [] => none
  | c :: w, d :: s => if c == d then word? w s else none

/-- The words that stand for values. -/
def constants : List (List Char × Value) :=
  [("null".toList, .null), ("true".toList, .bool true), ("false".toList, .bool false),
    ("NaN".toList, .float .nan), ("Infinity".toList, .float (.infinite false)),
    ("-Infinity".toList, .float (.infinite true))]

/-- Reads a value that is neither a text nor a list nor an object. -/
def readScalar (s : List Char) : Except Stop (Value × List Char) :=
  match constants.findSome? fun (w, v) => (word? w s).map fun r => (v, r) with
  | some found => .ok found
  | none =>
    let number :=
      match s with
      | '-' :: r => readNumber true r
      | s => readNumber false s
    number.getD (.error (.at .expectedValue s.length))

mutual

/-- Reads a value from the front of the input. Every step below takes a character and one unit of
`fuel`, so as much fuel as the input is long, and one more, is enough. -/
def readValue : Nat → List Char → Except Stop (Value × List Char)
  | 0, s => .error (.at .expectedValue s.length)
  | fuel + 1, s =>
    match s with
    | '"' :: r => do
      let (t, r) ← readText (r.length + 1) (r.length + 1) [] r
      .ok (.text t, r)
    | '[' :: r =>
      match skipBlanks r with
      | ']' :: r => .ok (.list [], r)
      | r => do
        let (items, r) ← readItems fuel [] r
        .ok (.list items, r)
    | '{' :: r =>
      match skipBlanks r with
      | '}' :: r => .ok (.map [], r)
      | r => do
        let (entries, r) ← readEntries fuel [] r
        .ok (Value.ofEntries entries, r)
    | s => readScalar s

/-- Reads the items of a list from the first one to the closing bracket. -/
def readItems : Nat → List Value → List Char → Except Stop (List Value × List Char)
  | 0, _, s => .error (.at .expectedValue s.length)
  | fuel + 1, done, s => do
    let (v, r) ← readValue fuel s
    match skipBlanks r with
    | ']' :: r => .ok ((v :: done).reverse, r)
    | ',' :: r => readItems fuel (v :: done) (skipBlanks r)
    | r => .error (.at .expectedComma r.length)

/-- Reads the entries of an object from the first key to the closing brace. -/
def readEntries : Nat → List (Value × Value) → List Char →
    Except Stop (List (Value × Value) × List Char)
  | 0, _, s => .error (.at .expectedKey s.length)
  | fuel + 1, done, s =>
    match s with
    | '"' :: r => do
      let (k, r) ← readText (r.length + 1) (r.length + 1) [] r
      match skipBlanks r with
      | ':' :: r =>
        let (v, r) ← readValue fuel (skipBlanks r)
        match skipBlanks r with
        | '}' :: r => .ok (((.text k, v) :: done).reverse, r)
        | ',' :: r => readEntries fuel ((.text k, v) :: done) (skipBlanks r)
        | r => .error (.at .expectedComma r.length)
      | r => .error (.at .expectedColon r.length)
    | s => .error (.at .expectedKey s.length)

end

/-- Reads a whole text as one value. -/
def readPlain (s : List Char) : Except Stop Value := do
  let (v, r) ← readValue (2 * s.length + 2) (skipBlanks s)
  match skipBlanks r with
  | [] => .ok v
  | r => .error (.at .extraData r.length)

/-- Reads a whole text as one value, where a byte order mark in front is told from other faults. -/
def readChars (s : List Char) : Except Stop Value :=
  match s with
  | '\ufeff' :: _ => .error (.at .byteOrderMark s.length)
  | s => readPlain s

/-! ### Errors -/

/-- The error of reading a text: a problem with its line, column and character, or a numeral that is
too long. -/
inductive Error where
  | syntaxAt (problem : Problem) (line column char : Nat)
  | tooManyDigits (count : Nat)
  deriving DecidableEq, Repr

def Problem.message : Problem → String
  | .expectedValue => "Expecting value"
  | .expectedKey => "Expecting property name enclosed in double quotes"
  | .expectedColon => "Expecting ':' delimiter"
  | .expectedComma => "Expecting ',' delimiter"
  | .extraData => "Extra data"
  | .unterminatedText => "Unterminated string starting at"
  | .controlCharacter => "Invalid control character at"
  | .badEscape => "Invalid \\escape"
  | .badUnitEscape => "Invalid \\uXXXX escape"
  | .byteOrderMark => "Unexpected UTF-8 BOM (decode using utf-8-sig)"

def Error.message : Error → String
  | .syntaxAt problem line column char =>
    problem.message ++ ": line " ++ toString line ++ " column " ++ toString column ++
      " (char " ++ toString char ++ ")"
  | .tooManyDigits count =>
    Numeral.tooManyDigitsToRead count

/-- Lines and columns count from one, characters from zero. -/
def Stop.locate (s : List Char) : Stop → Error
  | .tooManyDigits count => .tooManyDigits count
  | .at problem left =>
    let char := s.length - left
    let before := s.take char
    let inLine := (before.reverse.takeWhile (· != '\n')).length
    .syntaxAt problem (before.count '\n' + 1) (inLine + 1) char

/-- Reads a whole text as one value. -/
def read (s : String) : Except Error Value :=
  match readChars s.toList with
  | .ok v => .ok v
  | .error e => .error (e.locate s.toList)

end SchemaDecl.Json
