import SchemaDecl.Calendar.Iso
import SchemaDecl.Value
import SchemaDecl.Text.Blank

/-! Dates and times as services write them: a text of the length of a plain date is a date, any other
one a time, and whatever cannot be read as such is neither. -/

namespace SchemaDecl

inductive Moment where
  | date (d : Date)
  | time (t : DateTime)
  deriving DecidableEq, Repr

namespace Moment

/-- The number of characters of `YYYY-MM-DD`. -/
def dateLength : Nat := 10

/-- Reads a text without the blanks around it. -/
def ofList? (s : List Char) : Option Moment :=
  let s := Text.trimList s
  if s.length == dateLength then (Iso.readDateOnly s).map .date
  else (Iso.readDateTime s).map .time

def ofValue? : Value → Option Moment
  | .text s => ofList? s.toList
  | _ => none

def toValue : Moment → Value
  | .date d => .date d
  | .time t => .time t

end Moment

end SchemaDecl
