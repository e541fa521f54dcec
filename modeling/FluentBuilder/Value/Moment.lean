import FluentBuilder.Number.Numeral

/-!
Dates and moments of the proleptic Gregorian calendar, from year 1 to 9999. A moment may say how far
its clock is ahead of universal time.
-/

namespace FluentBuilder

open Number

structure Date where
  year : Nat
  month : Nat
  day : Nat
  deriving DecidableEq, Inhabited

/-- A date with a time of day; `offset` is the lead of its clock in seconds. -/
structure Moment where
  date : Date
  hour : Nat
  minute : Nat
  second : Nat
  microsecond : Nat
  offset : Option Int
  deriving DecidableEq, Inhabited

inductive MomentError
  | year (year : Nat)
  | month
  | day
  | hour
  | minute
  | second
  | offset (seconds : Int)
  deriving DecidableEq

def isLeapYear (year : Nat) : Bool := year % 4 == 0 && (year % 100 != 0 || year % 400 == 0)

def daysInMonth (year month : Nat) : Nat :=
  if month = 2 then (if isLeapYear year then 29 else 28)
  else if month = 4 ∨ month = 6 ∨ month = 9 ∨ month = 11 then 30
  else 31

/-- Checks the year first, then the month, then the day. -/
def Date.make (year month day : Nat) : Except MomentError Date :=
  if year = 0 ∨ 9999 < year then .error (.year year)
  else if month = 0 ∨ 12 < month then .error .month
  else if day = 0 ∨ daysInMonth year month < day then .error .day
  else .ok { year, month, day }

def Date.daysBefore (d : Date) : Nat :=
  let y := d.year - 1
  y * 365 + y / 4 - y / 100 + y / 400 +
    (List.range (d.month - 1)).foldl (fun days m => days + daysInMonth d.year (m + 1)) 0 +
    (d.day - 1)

/-- The time on the moment's own clock, in millionths of a second since the calendar began. -/
def Moment.clock (m : Moment) : Int :=
  (((m.date.daysBefore * 24 + m.hour) * 60 + m.minute) * 60 + m.second) * 1000000 + m.microsecond

/-- Two moments are the same if their clocks are known and show the same universal time, or if
neither is known and they show the same time. -/
def Moment.same (a b : Moment) : Bool :=
  match a.offset, b.offset with
  | some p, some q => a.clock - p * 1000000 == b.clock - q * 1000000
  | none, none => a.clock == b.clock
  | _, _ => false

/-- Checks the date, then the time from the hour on. -/
def Moment.make (year month day hour minute second microsecond : Nat) (offset : Option Int) :
    Except MomentError Moment := do
  let date ← Date.make year month day
  if 23 < hour then throw .hour
  if 59 < minute then throw .minute
  if 59 < second then throw .second
  return { date, hour, minute, second, microsecond, offset }

def padded (width n : Nat) : List Char :=
  let digits := natDigits n
  List.replicate (width - digits.length) '0' ++ digits

def Date.isoText (d : Date) : String :=
  String.ofList (padded 4 d.year ++ '-' :: padded 2 d.month ++ '-' :: padded 2 d.day)

def offsetText (seconds : Int) : List Char :=
  let size := seconds.natAbs
  (if seconds < 0 then '-' else '+') :: (padded 2 (size / 3600) ++ ':' ::
    padded 2 (size / 60 % 60) ++
    if size % 60 = 0 then [] else ':' :: padded 2 (size % 60))

def Moment.isoText (m : Moment) (separator : Char) : String :=
  m.date.isoText ++ String.ofList (separator :: (padded 2 m.hour ++ ':' :: padded 2 m.minute ++
    ':' :: padded 2 m.second ++
    (if m.microsecond = 0 then [] else '.' :: padded 6 m.microsecond) ++
    (m.offset.map offsetText).getD []))

/-- A span of seconds as days and the seconds of the last day, which count forward. -/
def spanLiteral (seconds : Int) : String :=
  let days := seconds / 86400
  let rest := seconds % 86400
  let parts := (if days = 0 then [] else ["days=" ++ intText days]) ++
    (if rest = 0 then [] else ["seconds=" ++ intText rest])
  "datetime.timedelta(" ++ (if parts.isEmpty then "0" else ", ".intercalate parts) ++ ")"

def Date.literal (d : Date) : String :=
  "datetime.date(" ++ ", ".intercalate [natText d.year, natText d.month, natText d.day] ++ ")"

def offsetLiteral (seconds : Int) : String :=
  if seconds = 0 then "datetime.timezone.utc"
  else "datetime.timezone(" ++ spanLiteral seconds ++ ")"

/-- The literal of a moment; seconds and microseconds that are zero at its end are left out. -/
def Moment.literal (m : Moment) : String :=
  let fine :=
    if m.microsecond = 0 then (if m.second = 0 then [] else [m.second])
    else [m.second, m.microsecond]
  let parts := ([m.date.year, m.date.month, m.date.day, m.hour, m.minute] ++ fine).map natText
  let zone := match m.offset with
    | none => []
    | some seconds => ["tzinfo=" ++ offsetLiteral seconds]
  "datetime.datetime(" ++ ", ".intercalate (parts ++ zone) ++ ")"

def MomentError.message : MomentError → String
  | .year y => "year " ++ natText y ++ " is out of range"
  | .month => "month must be in 1..12"
  | .day => "day is out of range for month"
  | .hour => "hour must be in 0..23"
  | .minute => "minute must be in 0..59"
  | .second => "second must be in 0..59"
  | .offset seconds =>
    "offset must be a timedelta strictly between -timedelta(hours=24) and timedelta(hours=24), not "
      ++ spanLiteral seconds ++ "."

end FluentBuilder
