import SchemaDecl.Calendar.Date

/-! Dates and times as text. Written are the forms `YYYY-MM-DD` and
`YYYY-MM-DDTHH:MM:SS[.ffffff][+HH:MM[:SS[.ffffff]]]`; read are these and their variants: dates
without hyphens, dates by week, any character between date and time, times without colons, with
fewer parts or with a longer or shorter fraction, and `Z` for a zero offset. -/

namespace SchemaDecl.Iso

/-! ### Writing -/

/-- A decimal numeral with zeros in front up to the given width. -/
def pad (width n : Nat) : List Char :=
  let ds := (toString n).toList
  List.replicate (width - ds.length) '0' ++ ds

def dateText (d : Date) : List Char :=
  pad 4 d.year ++ '-' :: pad 2 d.month ++ '-' :: pad 2 d.day

/-- Hours and minutes, with seconds and a fraction as far as they are asked for or not zero. -/
def clockText (seconds : Bool) (h m s us : Nat) : List Char :=
  pad 2 h ++ ':' :: pad 2 m ++
    (if seconds || s != 0 || us != 0 then ':' :: pad 2 s else []) ++
    (if us != 0 then '.' :: pad 6 us else [])

def offsetText (o : Int) : List Char :=
  let n := o.natAbs
  let s := n / 1000000
  (if o < 0 then '-' else '+') ::
    clockText false (s / 3600) (s / 60 % 60) (s % 60) (n % 1000000)

/-- The text of a time, with `separator` between date and time of day. -/
def dateTimeText (separator : Char) (t : DateTime) : List Char :=
  dateText t.date ++ separator :: clockText true t.hour t.minute t.second t.microsecond ++
    (match t.offset with
    | none => []
    | some o => offsetText o)

def showDate (d : Date) : String :=
  String.ofList (dateText d)

def showDateTime (t : DateTime) : String :=
  String.ofList (dateTimeText 'T' t)

/-! ### Reading -/

def digit? (c : Char) : Option Nat :=
  if '0' ≤ c ∧ c ≤ '9' then some (c.toNat - 48) else none

/-- Reads exactly `n` digits. -/
def digits? : Nat → Nat → List Char → Option (Nat × List Char)
  | 0, acc, s => some (acc, s)
  | _ + 1, _, [] => none
  | n + 1, acc, c :: s =>
    match digit? c with
    | some d => digits? n (acc * 10 + d) s
    | none => none

/-- The number of bytes that the text takes in UTF-8. -/
def byteLength (s : List Char) : Nat :=
  s.foldl (fun n c => n + c.utf8Size) 0

/-- Reads a date from the front of `s`. A week date that ends with the week, after `length` bytes,
names its Monday. -/
def readDate (length : Nat) (s : List Char) : Option Date := do
  let (y, r) ← digits? 4 0 s
  let (hyphen, r) := match r with
    | '-' :: r => (true, r)
    | r => (false, r)
  match r with
  | 'W' :: r =>
    let (week, r) ← digits? 2 0 r
    if 4 + (if hyphen then 1 else 0) + 3 < length then
      let r ← if hyphen then
          match r with
          | '-' :: r => some r
          | _ => none
        else some r
      let (day, _) ← digits? 1 0 r
      Date.ofWeek? y week day
    else Date.ofWeek? y week 1
  | r =>
    let (m, r) ← digits? 2 0 r
    let r ← if hyphen then
        match r with
        | '-' :: r => some r
        | _ => none
      else some r
    let (d, _) ← digits? 2 0 r
    Date.ofParts? y m d

/-- How reading a time of day ended: at the end of the text or before it. -/
structure ClockReading where
  hour : Nat
  minute : Nat
  second : Nat
  microsecond : Nat
  rest : Bool

/-- The first character, or the null character at the end. -/
def headOr0 : List Char → Char
  | [] => '\x00'
  | c :: _ => c

/-- Reads the fraction of a second: up to six digits count, further ones are dropped. -/
def readFraction (parts : List Nat) (s : List Char) (left : Nat) : Option ClockReading := do
  let n := min left 6
  let (us, r) ← digits? n 0 s
  let r := r.dropWhile fun c => (digit? c).isSome
  some { hour := parts.getD 0 0, minute := parts.getD 1 0, second := parts.getD 2 0,
         microsecond := us * Nat.pow 10 (6 - n), rest := headOr0 r != '\x00' }

/-- Reads `HH[MM[SS[fraction]]]`, with a colon between all parts or between none, from the `left`
characters at the front of `s`. What stands at the end decides whether anything is left over, so
one odd character there is noticed only by the caller. -/
def readParts (colons : Bool) (parts : List Nat) : Nat → List Char → Nat → Option ClockReading
  | 0, s, left => readFraction parts s left
  | n + 1, s, left =>
    match digits? 2 0 s with
    | none => none
    | some (v, r) =>
      let parts := parts ++ [v]
      let c := headOr0 r
      let colons := if parts.length == 1 then c == ':' else colons
      if left ≤ 3 then
        some { hour := parts.getD 0 0, minute := parts.getD 1 0, second := parts.getD 2 0,
               microsecond := 0, rest := c != '\x00' }
      else if colons && c == ':' then
        readParts colons parts n (r.drop 1) (left - 3)
      else if c == '.' || c == ',' then readFraction parts (r.drop 1) (left - 3)
      else if !colons then readParts colons parts n r (left - 2)
      else none

def readClock (s : List Char) (left : Nat) : Option ClockReading :=
  readParts true [] 3 s left

/-- Whether the character starts the offset of a time. -/
def startsOffset (c : Char) : Bool :=
  c == '+' || c == '-' || c == 'Z'

/-- Reads a time of day with its offset, in microseconds. -/
def readTime (s : List Char) : Option (ClockReading × Option Int) := do
  -- the offset is looked for from the first character on, which itself may start it
  let clock := s.takeWhile fun c => !startsOffset c
  let zone := s.dropWhile fun c => !startsOffset c
  let t ← readClock s (byteLength clock)
  match zone with
  | [] => if t.rest then none else some (t, none)
  | 'Z' :: r => if headOr0 r == '\x00' then some (t, some 0) else none
  | sign :: r =>
    let o ← readClock r (byteLength r)
    if o.rest then none
    else
      let seconds := o.hour * 3600 + o.minute * 60 + o.second
      let us : Int := (seconds * 1000000 + o.microsecond : Nat)
      -- a whole part of zero counts as no offset, whatever the fraction
      let us := if seconds == 0 then 0 else us
      some (t, some (if sign == '-' then -us else us))

/-- Where the date ends and the separator stands, in bytes. A week date may or may not name its
day; a hyphen after the week followed by two digits is taken for a separator. -/
def separatorAt (bytes : Nat) (s : List Char) : Option Nat :=
  if bytes == 7 then some 7
  else
    let at? (i : Nat) := s.getD i '\x00'
    let isDigit (i : Nat) := (digit? (at? i)).isSome
    if at? 4 == '-' then
      if at? 5 == 'W' then
        if 8 < bytes && at? 8 == '-' then
          if bytes == 9 then none else if 10 < bytes && isDigit 10 then some 8 else some 10
        else some 8
      else some 10
    else if at? 4 == 'W' then
      let pos := 7 + ((s.drop 7).takeWhile fun c => (digit? c).isSome).length
      if pos < 9 then some pos else if pos % 2 == 0 then some 7 else some 8
    else some 8

/-- Reads a date alone: seven, eight or ten characters, all ASCII. -/
def readDateOnly (s : List Char) : Option Date :=
  let n := byteLength s
  if n == 7 || n == 8 || n == 10 then readDate n s else none

/-- Reads a date with a time of day; a date alone stands for its midnight. -/
def readDateTime (s : List Char) : Option DateTime := do
  let bytes := byteLength s
  if bytes < 7 then none
  else
    let pos ← separatorAt bytes s
    let date ← readDate pos s
    if bytes ≤ pos then (DateTime.ofParts date 0 0 0 0 none).toOption
    else
      let (t, offset) ← readTime (s.drop (pos + 1))
      (DateTime.ofParts date t.hour t.minute t.second t.microsecond offset).toOption

end SchemaDecl.Iso
