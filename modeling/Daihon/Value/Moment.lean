import Daihon.Decimal.Digits

/-!
# Dates and times

A moment is a date, a time of day, or both together, perhaps with the distance of its clock from
universal time.  Dates follow the Gregorian calendar in the years 1 to 9999.

* `Date.of` and `Time.of` refuse numbers that name no day or no time of day;
* `Moment.literal` spells a moment out;
* `Moment.agrees` holds for two moments at the same time of the same kind of clock.
-/

namespace Daihon

inductive MomentError where
  | year (n : Nat)
  | month
  | day
  | hour
  | minute
  | second
  /-- The distance from universal time, in seconds, is a day or more. -/
  | offset (seconds : Int)
  deriving DecidableEq, Repr

structure Date where
  year : Nat
  month : Nat
  day : Nat
  deriving DecidableEq, Repr

/-- A time of day, in hours, minutes, seconds and millionths of a second. -/
structure Time where
  hour : Nat
  minute : Nat
  second : Nat
  micro : Nat
  deriving DecidableEq, Repr

/-- A date, a time of day, or both; with both the clock may be so many seconds ahead of universal
time. -/
inductive Moment where
  | date (d : Date)
  | time (t : Time)
  | both (d : Date) (t : Time) (offset : Option Int)
  deriving DecidableEq, Repr

/-! ## The calendar -/

def isLeapYear (year : Nat) : Bool :=
  year % 4 == 0 && (year % 100 != 0 || year % 400 == 0)

def daysIn (year month : Nat) : Nat :=
  if month = 2 then (if isLeapYear year then 29 else 28)
  else if month = 4 || month = 6 || month = 9 || month = 11 then 30
  else 31

def Date.of (year month day : Nat) : Except MomentError Date :=
  if year = 0 || 9999 < year then .error (.year year)
  else if month = 0 || 12 < month then .error .month
  else if day = 0 || daysIn year month < day then .error .day
  else .ok ⟨year, month, day⟩

def Time.of (hour minute second micro : Nat) : Except MomentError Time :=
  if 23 < hour then .error .hour
  else if 59 < minute then .error .minute
  else if 59 < second then .error .second
  else .ok ⟨hour, minute, second, micro⟩

/-- The millionths of a second that the digits behind a point stand for; only the first six count. -/
def microsOf (fraction : List Char) : Nat :=
  let ds := fraction.take 6
  Decimal.ofDigits (ds ++ List.replicate (6 - ds.length) '0')

/-- The distance of a clock from universal time in seconds; it must be less than a day. -/
def offsetOf (seconds : Int) : Except MomentError Int :=
  if seconds.natAbs < 86400 then .ok seconds else .error (.offset seconds)

/-- The number of days before a date. -/
def Date.daysBefore (d : Date) : Nat :=
  let years := d.year - 1
  let months := ((List.range d.month).drop 1).map (daysIn d.year)
  365 * years + years / 4 - years / 100 + years / 400 + months.foldl (· + ·) 0 + d.day

/-- The number of millionths of a second before a time of day. -/
def Time.microsBefore (t : Time) : Nat :=
  ((t.hour * 60 + t.minute) * 60 + t.second) * 1000000 + t.micro

/-- The millionths of a second before a date and time, by universal time. -/
def instant (d : Date) (t : Time) (offset : Int) : Int :=
  d.daysBefore * 86400000000 + t.microsBefore - offset * 1000000

/-- Whether two moments are the same: equal, or the same instant on clocks that know their distance from
universal time. -/
def Moment.agrees (a b : Moment) : Bool :=
  match a, b with
  | .both d t (some x), .both e u (some y) => instant d t x == instant e u y
  | a, b => a = b

/-! ## Names and literals -/

def Moment.typeName : Moment → String
  | .date _ => "date"
  | .time _ => "time"
  | .both .. => "datetime"

/-- The name of the type of a moment with that of its library. -/
def Moment.fullTypeName (m : Moment) : String :=
  "datetime." ++ m.typeName

def numberList (ns : List Nat) : String :=
  ", ".intercalate (ns.map fun n => toString n)

def Date.numbers (d : Date) : List Nat :=
  [d.year, d.month, d.day]

/-- The numbers of a time of day that are spelled out: seconds and their parts only if they are not
zero. -/
def Time.numbers (t : Time) : List Nat :=
  [t.hour, t.minute] ++
    if t.micro ≠ 0 then [t.second, t.micro] else if t.second ≠ 0 then [t.second] else []

/-- A span of time spelled out: whole days, rounded down, and the seconds that are left. -/
def spanLiteral (seconds : Int) : String :=
  let days := seconds / 86400
  let rest := seconds % 86400
  let parts :=
    (if days = 0 then [] else ["days=" ++ toString days]) ++
      if rest = 0 then [] else ["seconds=" ++ toString rest]
  "datetime.timedelta(" ++ (if parts.isEmpty then "0" else ", ".intercalate parts) ++ ")"

/-- The distance of a clock from universal time, spelled out. -/
def zoneLiteral (offset : Int) : String :=
  if offset = 0 then "datetime.timezone.utc"
  else "datetime.timezone(" ++ spanLiteral offset ++ ")"

def Moment.literal (m : Moment) : String :=
  let body :=
    match m with
    | .date d => numberList d.numbers
    | .time t => numberList t.numbers
    | .both d t none => numberList (d.numbers ++ t.numbers)
    | .both d t (some offset) =>
      numberList (d.numbers ++ t.numbers) ++ ", tzinfo=" ++ zoneLiteral offset
  m.fullTypeName ++ "(" ++ body ++ ")"

def MomentError.text : MomentError → String
  | .year n => "year " ++ toString n ++ " is out of range"
  | .month => "month must be in 1..12"
  | .day => "day is out of range for month"
  | .hour => "hour must be in 0..23"
  | .minute => "minute must be in 0..59"
  | .second => "second must be in 0..59"
  | .offset seconds =>
    "offset must be a timedelta strictly between -timedelta(hours=24) and timedelta(hours=24), not " ++
      spanLiteral seconds ++ "."

end Daihon
