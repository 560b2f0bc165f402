import LineJoin.Number.Decimal
import LineJoin.Text.Quoted

/-!
# Calendar days and moments

A `Day` of the Gregorian calendar from the year 1 to 9999, and a `Moment` on a day with an optional
offset from universal time in minutes. `Day.invalid?` and `Moment.invalid?` name the first field
that is out of range.
-/

namespace LineJoin

structure Day where
  year : Nat
  month : Nat
  day : Nat
deriving DecidableEq, Repr, Inhabited

structure Moment where
  day : Day
  hour : Nat
  minute : Nat
  second : Nat
  micro : Nat
  /-- Minutes ahead of universal time; none where the moment is local. -/
  offset : Option Int
deriving DecidableEq, Repr, Inhabited

/-- A number with leading zeros up to a width. -/
def padded (width n : Nat) : String :=
  let digits := decimalDigits n
  String.ofList (List.replicate (width - digits.length) '0' ++ digits)

namespace Day

def isLeap (year : Nat) : Bool := year % 4 == 0 && (year % 100 != 0 || year % 400 == 0)

def daysIn (year month : Nat) : Nat :=
  if month = 2 then (if isLeap year then 29 else 28)
  else if [4, 6, 9, 11].contains month then 30 else 31

/-- What is wrong with a day, if anything. -/
def invalid? (d : Day) : Option String :=
  if d.year < 1 || 9999 < d.year then some ("year " ++ natText d.year ++ " is out of range")
  else if d.month < 1 || 12 < d.month then some "month must be in 1..12"
  else if d.day < 1 || daysIn d.year d.month < d.day then some "day is out of range for month"
  else none

def text (d : Day) : String := padded 4 d.year ++ "-" ++ padded 2 d.month ++ "-" ++ padded 2 d.day

def commaText (d : Day) : String :=
  natText d.year ++ ", " ++ natText d.month ++ ", " ++ natText d.day

/-- Days since the first of January of the year 1, counted from 1. -/
def ordinal (d : Day) : Nat :=
  let before := d.year - 1
  let monthDays := (List.range (d.month - 1)).map fun i => daysIn d.year (i + 1)
  before * 365 + before / 4 - before / 100 + before / 400 + monthDays.foldl (· + ·) 0 + d.day

end Day

namespace Moment

def invalid? (m : Moment) : Option String :=
  match m.day.invalid? with
  | some problem => some problem
  | none =>
    if 23 < m.hour then some "hour must be in 0..23"
    else if 59 < m.minute then some "minute must be in 0..59"
    else if 59 < m.second then some "second must be in 0..59"
    else none

def offsetText : Option Int → String
  | none => ""
  | some n =>
    (if n < 0 then "-" else "+") ++ padded 2 (n.natAbs / 60) ++ ":" ++ padded 2 (n.natAbs % 60)

/-- The date and the time with a separator between them; microseconds are shown unless zero. -/
def textWith (separator : String) (m : Moment) : String :=
  m.day.text ++ separator ++ padded 2 m.hour ++ ":" ++ padded 2 m.minute ++ ":" ++
    padded 2 m.second ++ (if m.micro = 0 then "" else "." ++ padded 6 m.micro) ++
    offsetText m.offset

def text (m : Moment) : String := m.textWith " "

def isoText (m : Moment) : String := m.textWith "T"

/-- Microseconds since the start of the calendar, in universal time if there is an offset. -/
def instant (m : Moment) : Int :=
  ((((m.day.ordinal : Int) * 24 + m.hour) * 60 + m.minute - m.offset.getD 0) * 60 + m.second) *
    1000000 + m.micro

/-- Moments with an offset are equal if they are the same instant. -/
def same (a b : Moment) : Bool := a.offset.isSome == b.offset.isSome && a.instant == b.instant

/-- A duration in minutes, shown as whole days and seconds. -/
def durationLiteral (minutes : Int) : String :=
  let seconds := minutes * 60
  let days := Int.fdiv seconds 86400
  let rest := Int.fmod seconds 86400
  let fields := (if days = 0 then [] else ["days=" ++ intText days]) ++
    (if rest = 0 then [] else ["seconds=" ++ intText rest])
  "datetime.timedelta(" ++ (if fields.isEmpty then "0" else String.intercalate ", " fields) ++ ")"

def zoneLiteral (n : Int) : String :=
  if n = 0 then "datetime.timezone.utc" else "datetime.timezone(" ++ durationLiteral n ++ ")"

def literal (m : Moment) : String :=
  let tail :=
    if m.micro ≠ 0 then [natText m.second, natText m.micro]
    else if m.second ≠ 0 then [natText m.second] else []
  let fields := [m.day.commaText, natText m.hour, natText m.minute] ++ tail ++
    match m.offset with
    | some n => ["tzinfo=" ++ zoneLiteral n]
    | none => []
  "datetime.datetime(" ++ String.intercalate ", " fields ++ ")"

end Moment

end LineJoin
