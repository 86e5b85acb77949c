import SchemaDecl.Number.Numeral
import SchemaDecl.Text.Base64
import SchemaDecl.Text.Case
import SchemaDecl.Value.Display
import SchemaDecl.Yaml.Cursor

/-! Scalars of YAML. A plain scalar gets its tag from its form: words for truth and for nothing,
integers to the bases 2, 8, 10, 16 and 60, decimal numbers and numbers to the base 60 with a
fraction, dates and times, and the marks for merging and for the default value; everything else is
text. A scalar with a tag is read by the rules of that tag, which are wider than the forms. -/

namespace SchemaDecl.Yaml

def tagOf (word : String) : String :=
  "tag:yaml.org,2002:" ++ word

/-! ### Forms -/

def isBase (base : Nat) (c : Char) : Bool :=
  match hexValue? c with
  | some d => d < base
  | none => false

/-- Whether all characters are digits of the base or underscores, and there is one. -/
def isGrouped (base : Nat) (s : List Char) : Bool :=
  !s.isEmpty && s.all fun c => isBase base c || c == '_'

/-- Whether a digit begins the text and only digits and underscores follow. -/
def isGroupedNumber (s : List Char) : Bool :=
  match s with
  | c :: r => isDigit c && r.all fun c => isDigit c || c == '_'
  | [] => false

/-- The parts of a text between the marks. -/
def splitAt (mark : Char) : List Char → List (List Char)
  | [] => [[]]
  | c :: s =>
    if c == mark then [] :: splitAt mark s
    else
      match splitAt mark s with
      | p :: ps => (c :: p) :: ps
      | [] => [[c]]

/-- A part of a number to the base 60: one or two digits below 60. -/
def isSixtieth : List Char → Bool
  | [a] => isDigit a
  | [a, b] => '0' ≤ a && a ≤ '5' && isDigit b
  | _ => false

/-- The text before and behind the first mark. -/
def cutAt? (mark : Char) (s : List Char) : Option (List Char × List Char) :=
  match s.dropWhile (· != mark) with
  | _ :: behind => some (s.takeWhile (· != mark), behind)
  | [] => none

def isInteger (s : List Char) : Bool :=
  match (Numeral.splitSign s).2 with
  | ['0'] => true
  | '0' :: 'b' :: r => isGrouped 2 r
  | '0' :: 'x' :: r => isGrouped 16 r
  | '0' :: r => isGrouped 8 r
  | r =>
    match splitAt ':' r with
    | whole :: parts => isGroupedNumber whole && parts.all isSixtieth
    | [] => false

/-- Nothing, or a letter, a sign and digits. -/
def isExponent : List Char → Bool
  | [] => true
  | e :: sign :: ds =>
    (e == 'e' || e == 'E') && (sign == '+' || sign == '-') && !ds.isEmpty && ds.all isDigit
  | _ => false

/-- Digits and underscores, then perhaps an exponent. -/
def isFraction (s : List Char) : Bool :=
  isExponent (s.dropWhile fun c => isDigit c || c == '_')

def isFloat (s : List Char) : Bool :=
  let (_, r) := Numeral.splitSign s
  match s with
  | '.' :: c :: t =>
    (isDigit c && isFraction t) || ["nan", "NaN", "NAN"].contains (String.ofList (c :: t)) ||
      ["inf", "Inf", "INF"].contains (String.ofList (c :: t))
  | _ =>
    match r with
    | '.' :: t => ["inf", "Inf", "INF"].contains (String.ofList t)
    | _ =>
      match cutAt? '.' r with
      | none => false
      | some (whole, fraction) =>
        match splitAt ':' whole with
        | [w] => isGroupedNumber w && isFraction fraction
        | w :: parts =>
          isGroupedNumber w && parts.all isSixtieth && fraction.all fun c => isDigit c || c == '_'
        | [] => false

/-- The parts of a date with a time of day, if there is one, as they are written. -/
structure TimeParts where
  year : Nat
  month : Nat
  day : Nat
  clock : Option (Nat × Nat × Nat × List Char)
  /-- The offset in minutes; `none` when no zone is named. -/
  zone : Option Int
  deriving Repr

/-- Reads between `least` and `most` digits. -/
def readDigits (least most : Nat) (s : List Char) : Option (Nat × List Char) :=
  let ds := (s.take most).takeWhile isDigit
  if ds.length < least then none
  else some (ds.foldl (fun n d => n * 10 + (d.toNat - 48)) 0, s.drop ds.length)

/-- Takes a character off the front. -/
def expect (c : Char) : List Char → Option (List Char)
  | d :: s => if c == d then some s else none
  | [] => none

/-- The zone at the end of a time, perhaps behind blanks. -/
def readZone (s : List Char) : Option (Option Int) :=
  if s.isEmpty then some none
  else
    match s.dropWhile fun c => c == ' ' || c == '\t' with
    | ['Z'] => some (some 0)
    | sign :: r =>
      if sign == '+' || sign == '-' then do
        let (h, r) ← readDigits 1 2 r
        let (m, r) ←
          match r with
          | ':' :: r => readDigits 2 2 r
          | r => some (0, r)
        if r.isEmpty then
          let minutes : Int := (h * 60 + m : Nat)
          some (some (if sign == '-' then -minutes else minutes))
        else none
      else none
    | [] => none

/-- Reads a date or a date with a time. -/
def timeParts? (s : List Char) : Option TimeParts := do
  let (y, r) ← readDigits 4 4 s
  let (mo, r) ← readDigits 1 2 (← expect '-' r)
  let (d, r) ← readDigits 1 2 (← expect '-' r)
  if r.isEmpty then some ⟨y, mo, d, none, none⟩
  else
    let r ←
      match r with
      | 'T' :: r | 't' :: r => some r
      | c :: r => if c == ' ' || c == '\t' then some (r.dropWhile fun c => c == ' ' || c == '\t') else none
      | [] => none
    let (h, r) ← readDigits 1 2 r
    let (mi, r) ← readDigits 2 2 (← expect ':' r)
    let (sec, r) ← readDigits 2 2 (← expect ':' r)
    let (fraction, r) :=
      match r with
      | '.' :: r => (r.takeWhile isDigit, r.dropWhile isDigit)
      | r => ([], r)
    let zone ← readZone r
    some ⟨y, mo, d, some (h, mi, sec, fraction), zone⟩

/-- A date alone needs two digits for month and day. -/
def isTime (s : List Char) : Bool :=
  match timeParts? s with
  | some p => p.clock.isSome || s.length == 10
  | none => false

/-- The words for truth values, in small letters. -/
def truthWords : List (String × Bool) :=
  [("yes", true), ("no", false), ("true", true), ("false", false), ("on", true), ("off", false)]

/-- Whether a word is written in small letters, in capitals or with a capital in front. -/
def isCased (word s : String) : Bool :=
  s == word || s == word.toUpper || s == word.capitalize

/-- The characters before a line feed at the end. -/
def beforeLastBreak (s : List Char) : List Char :=
  if s.length != 1 && s.getLast? == some '\n' then s.dropLast else s

/-- The tag that the form of a scalar gives it. A line feed at the end does not count. -/
def formTag (text : String) : String :=
  let cs := beforeLastBreak text.toList
  let s := String.ofList cs
  if truthWords.any fun w => isCased w.1 s then tagOf "bool"
  else if isFloat cs then tagOf "float"
  else if isInteger cs then tagOf "int"
  else if s == "<<" then tagOf "merge"
  else if s == "" || s == "~" || isCased "null" s then tagOf "null"
  else if isTime cs then tagOf "timestamp"
  else if s == "=" then tagOf "value"
  else if s == "!" || s == "&" || s == "*" then tagOf "yaml"
  else tagOf "str"

/-! ### Values -/

/-- An integer to a base, or why there is none. -/
def readInteger (base : Nat) (s : List Char) : Except Flaw Int :=
  match Numeral.readInteger base s with
  | .ok n => .ok n
  | .error (.tooManyDigits n) => .error (.badValue (Numeral.tooManyDigitsToRead n))
  | .error .malformed =>
    .error (.badValue ("invalid literal for int() with base " ++ toString base ++ ": " ++
      String.ofList ((Text.shown (String.ofList s)).toList.take 200)))

/-- A decimal number, or why there is none. -/
def readFloat (s : List Char) : Except Flaw Binary64 :=
  match Numeral.readFloat? s with
  | some x => .ok x
  | none => .error (.badValue ("could not convert string to float: " ++ Text.shown (String.ofList s)))

/-- An integer as a tagged scalar gives it. -/
def integerValue (text : List Char) : Except Flaw Int := do
  let s := text.filter (· != '_')
  if s.isEmpty then .error .emptyNumber
  else
    let (negative, s) := Numeral.splitSign s
    let n ←
      match s with
      | [] => .error .emptyNumber
      | ['0'] => .ok 0
      | '0' :: 'b' :: r => readInteger 2 r
      | '0' :: 'x' :: r => readInteger 16 r
      | '0' :: _ => readInteger 8 s
      | _ =>
        if s.contains ':' then do
          let parts ← (splitAt ':' s).mapM (readInteger 10)
          .ok (parts.foldl (fun n d => n * 60 + d) 0)
        else readInteger 10 s
    .ok (if negative then -n else n)

/-- The sum of parts of which the last one counts for itself, and every other one for sixty times the
next one. -/
def sixties : Nat → Binary64 → List Binary64 → Except Flaw Binary64
  | _, sum, [] => .ok sum
  | base, sum, d :: rest =>
    match Binary64.ofInt base with
    | .infinite _ => .error .overflow
    | b => sixties (base * 60) (sum.add (d.mul b)) rest

/-- The text of a number without underscores, in small letters. -/
def numberText (text : List Char) : List Char :=
  Text.toSmall (text.filter (· != '_'))

/-- A decimal number as a tagged scalar gives it. -/
def floatValue (text : List Char) : Except Flaw Binary64 := do
  let s := numberText text
  if s.isEmpty then .error .emptyNumber
  else
    let (negative, s) := Numeral.splitSign s
    let sign (x : Binary64) := if negative then x.neg else x
    if s == ".inf".toList then .ok (sign (.infinite false))
    else if s == ".nan".toList then .ok .nan
    else if s.contains ':' then do
      let parts ← (splitAt ':' s).mapM readFloat
      .ok (sign (← sixties 1 Binary64.zero parts.reverse))
    else .ok (sign (← readFloat s))

/-- Whether a value that is no number was written by the word for it alone, which makes a value of its
own every time. -/
def isLoneNan (text : List Char) : Bool :=
  (Numeral.splitSign (numberText text)).2 != ".nan".toList

def CalendarError.message : CalendarError → String
  | .year y => "year " ++ toString y ++ " is out of range"
  | .month => "month must be in 1..12"
  | .day => "day is out of range for month"
  | .hour => "hour must be in 0..23"
  | .minute => "minute must be in 0..59"
  | .second => "second must be in 0..59"
  | .microsecond => "microsecond must be in 0..999999"
  | .offset o =>
    "offset must be a timedelta strictly between -timedelta(hours=24) and timedelta(hours=24), not " ++
      durationText o ++ "."

/-- The microseconds of a fraction: its first six digits. -/
def microseconds (fraction : List Char) : Nat :=
  let ds := fraction.take 6
  ds.foldl (fun n d => n * 10 + (d.toNat - 48)) 0 * Nat.pow 10 (6 - ds.length)

/-- A date or time as a tagged scalar gives it. -/
def timeValue (text : List Char) : Except Flaw Value := do
  let lift {α : Type} (r : Except CalendarError α) : Except Flaw α :=
    r.mapError fun e => .badValue (CalendarError.message e)
  match timeParts? (beforeLastBreak text) with
  | none => .error .noTime
  | some p =>
    match p.clock with
    | none => .ok (.date (← lift (Date.ofParts p.year p.month p.day)))
    | some (h, m, s, fraction) =>
      let offset := p.zone.map fun z => z * 60000000
      -- a zone out of range is noticed first
      match offset with
      | some o => if 86400000000 ≤ o.natAbs then lift (.error (.offset o)) else pure ()
      | none => pure ()
      let d ← lift (Date.ofParts p.year p.month p.day)
      .ok (.time (← lift (DateTime.ofParts d h m s (microseconds fraction) offset)))

/-- The value of a scalar with this tag; `none` when the tag is not one of a scalar. -/
def scalarValue? (tag text : String) : Option (Except Flaw Value) :=
  let cs := text.toList
  if tag == tagOf "str" then some (.ok (.text text))
  else if tag == tagOf "null" then some (.ok .null)
  else if tag == tagOf "bool" then
    some (match truthWords.lookup text.toLower with
      | some b => .ok (.bool b)
      | none => .error .unknownWord)
  else if tag == tagOf "int" then some ((integerValue cs).map .int)
  else if tag == tagOf "float" then some ((floatValue cs).map .float)
  else if tag == tagOf "timestamp" then some (timeValue cs)
  else if tag == tagOf "binary" then
    some (if cs.all fun c => c.toNat < 128 then
        match Text.Base64.decode? cs with
        | some bs => .ok (.bytes bs)
        | none => .error .malformed
      else .error .malformed)
  else none

end SchemaDecl.Yaml
