/-! Dates of the proleptic Gregorian calendar in the years 1 to 9999, and instants of a day with an
optional offset from universal time. -/

namespace SchemaDecl

def isLeapYear (y : Nat) : Bool :=
  y % 4 == 0 && (y % 100 != 0 || y % 400 == 0)

def daysInMonth (y m : Nat) : Nat :=
  if m == 2 then if isLeapYear y then 29 else 28
  else if m == 4 || m == 6 || m == 9 || m == 11 then 30 else 31

/-- A calendar date. -/
structure Date where
  year : Nat
  month : Nat
  day : Nat
  year_range : 1 ≤ year ∧ year ≤ 9999
  month_range : 1 ≤ month ∧ month ≤ 12
  day_range : 1 ≤ day ∧ day ≤ daysInMonth year month
  deriving DecidableEq, Repr

/-- The part of a date or time that lies outside its range. -/
inductive CalendarError where
  | year (given : Nat)
  | month
  | day
  | hour
  | minute
  | second
  | microsecond
  | offset (given : Int)
  deriving DecidableEq, Repr

namespace Date

/-- The date with these parts, or the first part out of range. -/
def ofParts (y m d : Nat) : Except CalendarError Date :=
  if hy : 1 ≤ y ∧ y ≤ 9999 then
    if hm : 1 ≤ m ∧ m ≤ 12 then
      if hd : 1 ≤ d ∧ d ≤ daysInMonth y m then .ok ⟨y, m, d, hy, hm, hd⟩ else .error .day
    else .error .month
  else .error (.year y)

def ofParts? (y m d : Nat) : Option Date :=
  (ofParts y m d).toOption

theorem ofParts_self (d : Date) : ofParts d.year d.month d.day = .ok d := by
  simp [ofParts, d.year_range, d.month_range, d.day_range]

/-- The number of days before the first of January of the year. -/
def daysBeforeYear (y : Nat) : Nat :=
  let p := y - 1
  p * 365 + p / 4 - p / 100 + p / 400

/-- The number of days of the year before the first of the month. -/
def daysBeforeMonth (y m : Nat) : Nat :=
  (List.range (m - 1)).foldl (fun n k => n + daysInMonth y (k + 1)) 0

/-- The number of the day, counting the first of January of the year 1 as day 1. -/
def ordinal (d : Date) : Nat :=
  daysBeforeYear d.year + daysBeforeMonth d.year d.month + d.day

/-- Finds month and day from the days left in a year, going through the months from `m` on. -/
def monthDay (y m left : Nat) : Nat → Nat × Nat
  | 0 => (m, left)
  | months + 1 =>
    if left ≤ daysInMonth y m then (m, left)
    else monthDay y (m + 1) (left - daysInMonth y m) months

/-- The date with this day number. -/
def ofOrdinal? (n : Nat) : Option Date :=
  -- an estimate from the mean length of a year is at most one year off
  let guess := n * 400 / 146097
  let year? := [guess + 2, guess + 1, guess].find? fun y => 1 ≤ y && decide (daysBeforeYear y < n)
  match year? with
  | none => none
  | some y =>
    let (m, d) := monthDay y 1 (n - daysBeforeYear y) 11
    ofParts? y m d

/-- The day number of the Monday of the first week, the week that holds the first Thursday. -/
def firstMonday (y : Nat) : Nat :=
  let first := daysBeforeYear y + 1
  let weekday := (first + 6) % 7
  if 3 < weekday then first + 7 - weekday else first - weekday

/-- The number of weeks of a year that is counted by weeks. -/
def weeksInYear (y : Nat) : Nat :=
  let weekday := (daysBeforeYear y + 7) % 7
  if weekday == 3 || (weekday == 2 && isLeapYear y) then 53 else 52

/-- The date of a day, Monday first, of a week of a year. -/
def ofWeek? (y week day : Nat) : Option Date :=
  if 1 ≤ y ∧ y ≤ 9999 ∧ 1 ≤ week ∧ week ≤ weeksInYear y ∧ 1 ≤ day ∧ day ≤ 7 then
    ofOrdinal? (firstMonday y + (week - 1) * 7 + (day - 1))
  else none

end Date

/-- A date with a time of day and an offset from universal time, in microseconds, if it is known. -/
structure DateTime where
  date : Date
  hour : Nat
  minute : Nat
  second : Nat
  microsecond : Nat
  offset : Option Int
  hour_lt : hour < 24
  minute_lt : minute < 60
  second_lt : second < 60
  microsecond_lt : microsecond < 1000000
  offset_lt : ∀ o ∈ offset, o.natAbs < 86400000000
  deriving DecidableEq, Repr

namespace DateTime

def dayLength : Nat := 86400000000

/-- The time on a date with these parts, or the first part out of range. -/
def ofParts (date : Date) (h mi s us : Nat) (offset : Option Int) : Except CalendarError DateTime :=
  if ho : ∀ o ∈ offset, o.natAbs < 86400000000 then
    if hh : h < 24 then
      if hm : mi < 60 then
        if hs : s < 60 then
          if hu : us < 1000000 then .ok ⟨date, h, mi, s, us, offset, hh, hm, hs, hu, ho⟩
          else .error .microsecond
        else .error .second
      else .error .minute
    else .error .hour
  else .error (.offset (offset.getD 0))

theorem ofParts_self (t : DateTime) :
    ofParts t.date t.hour t.minute t.second t.microsecond t.offset = .ok t := by
  rw [ofParts, dif_pos t.offset_lt, dif_pos t.hour_lt, dif_pos t.minute_lt, dif_pos t.second_lt,
    dif_pos t.microsecond_lt]

/-- Microseconds since the start of the year 1, by the clock that the time was read from. -/
def clock (t : DateTime) : Int :=
  ((t.date.ordinal * 86400 + t.hour * 3600 + t.minute * 60 + t.second) * 1000000 + t.microsecond : Nat)

/-- Times with an offset are equal when they name the same instant; those without one when their
parts agree; a time with an offset never equals one without. -/
def same (a b : DateTime) : Bool :=
  match a.offset, b.offset with
  | some o, some p => a.clock - o == b.clock - p
  | none, none => a.clock == b.clock
  | _, _ => false

end DateTime

end SchemaDecl
