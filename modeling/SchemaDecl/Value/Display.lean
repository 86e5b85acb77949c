import SchemaDecl.Value
import SchemaDecl.Number.Shortest
import SchemaDecl.Calendar.Iso
import SchemaDecl.Text.Quoted

/-! Values as messages show them: a text alone as it is, inside another value between quotes. -/

namespace SchemaDecl

/-- An offset in microseconds as a count of days, seconds and microseconds, the latter two not
negative. -/
def durationText (o : Int) : String :=
  let days := o.fdiv 86400000000
  let left := o.fmod 86400000000
  let seconds := left / 1000000
  let us := left % 1000000
  let part (name : String) (n : Int) := if n == 0 then [] else [name ++ "=" ++ toString n]
  let parts := part "days" days ++ part "seconds" seconds ++ part "microseconds" us
  "datetime.timedelta(" ++ (if parts.isEmpty then "0" else ", ".intercalate parts) ++ ")"

def Date.shown (d : Date) : String :=
  "datetime.date(" ++ ", ".intercalate [toString d.year, toString d.month, toString d.day] ++ ")"

/-- A time as a call with its parts, without seconds and microseconds where they are zero. -/
def DateTime.shown (t : DateTime) : String :=
  let parts := [t.date.year, t.date.month, t.date.day, t.hour, t.minute] ++
    (if t.microsecond != 0 then [t.second, t.microsecond]
     else if t.second != 0 then [t.second] else [])
  let zone :=
    match t.offset with
    | none => []
    | some 0 => ["tzinfo=datetime.timezone.utc"]
    | some o => ["tzinfo=datetime.timezone(" ++ durationText o ++ ")"]
  "datetime.datetime(" ++ ", ".intercalate (parts.map toString ++ zone) ++ ")"

namespace Value

mutual

/-- The text of a value inside another one. -/
def shown : Value → String
  | .null => "None"
  | .bool b => if b then "True" else "False"
  | .int n => toString n
  | .float x => x.toText
  | .text s => Text.shown s
  | .date d => d.shown
  | .time t => t.shown
  | .bytes bs => Text.shownBytes bs
  | .list items => "[" ++ ", ".intercalate (shownItems items) ++ "]"
  | .map entries => "\x7b" ++ ", ".intercalate (shownEntries entries) ++ "\x7d"
  | .set members =>
    if members.isEmpty then "set()" else "\x7b" ++ ", ".intercalate (shownItems members) ++ "\x7d"
  | .outer _ => "..."

def shownItems : List Value → List String
  | [] => []
  | v :: rest => shown v :: shownItems rest

def shownEntries : List (Value × Value) → List String
  | [] => []
  | (k, v) :: rest => (shown k ++ ": " ++ shown v) :: shownEntries rest

end

/-- The text of a value on its own. -/
def display : Value → String
  | .text s => s
  | .date d => Iso.showDate d
  | .time t => String.ofList (Iso.dateTimeText ' ' t)
  | v => v.shown

end Value

end SchemaDecl
