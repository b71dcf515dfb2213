/-!
Calendar dates and timestamps. A timestamp either carries its offset from universal time or none at all; two
timestamps with an offset denote the same moment when their universal times agree. Texts follow ISO 8601, a zero
fraction of a second left out.
-/

set_option autoImplicit false

namespace ImageOperator

/-- A decimal number padded with zeros on the left to a width. -/
def padded (width n : Nat) : String :=
  let digits := toString n
  String.ofList (List.replicate (width - digits.length) '0') ++ digits

structure Date where
  year : Nat
  month : Nat
  day : Nat
deriving DecidableEq, Inhabited

namespace Date

def isLeap (year : Nat) : Bool :=
  year % 4 = 0 && (year % 100 ≠ 0 || year % 400 = 0)

def daysInMonth (year month : Nat) : Nat :=
  if month = 2 then if isLeap year then 29 else 28
  else if month = 4 || month = 6 || month = 9 || month = 11 then 30
  else 31

/-- Years run from 1 to 9999. -/
def isValid (d : Date) : Bool :=
  1 ≤ d.year && d.year ≤ 9999 && 1 ≤ d.month && d.month ≤ 12 && 1 ≤ d.day && d.day ≤ daysInMonth d.year d.month

/-- Days since the first of January of year 1. -/
def dayNumber (d : Date) : Nat :=
  let past := d.year - 1
  let before := (List.range (d.month - 1)).foldl (fun days month => days + daysInMonth d.year (month + 1)) 0
  past * 365 + past / 4 - past / 100 + past / 400 + before + d.day - 1

def iso (d : Date) : String :=
  padded 4 d.year ++ "-" ++ padded 2 d.month ++ "-" ++ padded 2 d.day

/-- The text of the constructor call, as literals show a date. -/
def literal (d : Date) : String :=
  s!"datetime.date({d.year}, {d.month}, {d.day})"

end Date

structure Timestamp where
  date : Date
  hour : Nat
  minute : Nat
  second : Nat
  microsecond : Nat
  /-- Minutes east of universal time. -/
  offset : Option Int
deriving DecidableEq, Inhabited

namespace Timestamp

/-- An offset is less than a day either way. -/
def isValid (t : Timestamp) : Bool :=
  t.date.isValid && t.hour < 24 && t.minute < 60 && t.second < 60 && t.microsecond < 1000000 &&
    t.offset.all fun minutes => minutes.natAbs < 1440

/-- Microseconds since the start of year 1 by the timestamp's own clock. -/
def localTime (t : Timestamp) : Int :=
  (((t.date.dayNumber * 24 + t.hour) * 60 + t.minute) * 60 + t.second) * 1000000 + t.microsecond

/-- Microseconds since the start of year 1 in universal time; a timestamp without offset keeps its own clock. -/
def moment (t : Timestamp) : Int :=
  t.localTime - t.offset.getD 0 * 60000000

def offsetText (minutes : Int) : String :=
  (if minutes < 0 then "-" else "+") ++ padded 2 (minutes.natAbs / 60) ++ ":" ++ padded 2 (minutes.natAbs % 60)

/-- ISO 8601 with a separator of choice between date and time. -/
def isoWith (separator : String) (t : Timestamp) : String :=
  let fraction := if t.microsecond = 0 then "" else "." ++ padded 6 t.microsecond
  t.date.iso ++ separator ++ padded 2 t.hour ++ ":" ++ padded 2 t.minute ++ ":" ++ padded 2 t.second ++ fraction ++
    (t.offset.map offsetText).getD ""

def iso (t : Timestamp) : String :=
  t.isoWith "T"

/-- A span of time in days and seconds, the seconds never negative. -/
def offsetLiteral (minutes : Int) : String :=
  if minutes = 0 then "datetime.timezone.utc"
  else if minutes < 0 then
    s!"datetime.timezone(datetime.timedelta(days=-1, seconds={(1440 + minutes) * 60}))"
  else s!"datetime.timezone(datetime.timedelta(seconds={minutes * 60}))"

/-- The text of the constructor call; seconds and microseconds that are zero are left out from the right. -/
def literal (t : Timestamp) : String :=
  let parts := [t.date.year, t.date.month, t.date.day, t.hour, t.minute] ++
    (if t.microsecond ≠ 0 then [t.second, t.microsecond] else if t.second ≠ 0 then [t.second] else [])
  let zone := (t.offset.map fun minutes => ", tzinfo=" ++ offsetLiteral minutes).getD ""
  "datetime.datetime(" ++ String.intercalate ", " (parts.map toString) ++ zone ++ ")"

end Timestamp

end ImageOperator
