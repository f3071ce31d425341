-- Dates of cookies. A date is written in one of four forms, all in
-- universal time. A year of two digits belongs to the hundred years from
-- 1969 on.
import ResultGateway.Text.Decimal

namespace ResultGateway.Http.Date

/-! ## Parts of a date -/

/-- A date and a time of day. -/
structure Moment where
  year : Nat
  month : Nat
  day : Nat
  hour : Nat
  minute : Nat
  second : Nat
deriving DecidableEq, Repr

def weekdays : List String := ["Mon", "Tue", "Wed", "Thu", "Fri", "Sat", "Sun"]

def longWeekdays : List String :=
  ["Monday", "Tuesday", "Wednesday", "Thursday", "Friday", "Saturday", "Sunday"]

def months : List String :=
  ["Jan", "Feb", "Mar", "Apr", "May", "Jun", "Jul", "Aug", "Sep", "Oct", "Nov", "Dec"]

/-- Takes a fixed text off the front. -/
def takeText (s : String) (cs : List Char) : Option (List Char) :=
  if s.toList.isPrefixOf cs then some (cs.drop s.length) else none

/-- Takes one of the names off the front, and gives its place among them. -/
def takeName (names : List String) (cs : List Char) : Option (Nat × List Char) :=
  names.zipIdx.findSome? fun (name, i) => (takeText name cs).map fun rest => (i, rest)

/-- Takes a number of at least `least` and at most `most` digits. -/
def takeNumber (least most : Nat) (cs : List Char) : Option (Nat × List Char) :=
  let digits := (cs.take most).takeWhile Text.isDigit
  if digits.length < least then none else some (Text.ofDigits digits, cs.drop digits.length)

/-- A day of two places, with a blank for a missing digit. -/
def takePaddedDay : List Char → Option (Nat × List Char)
  | ' ' :: cs => takeNumber 1 1 cs
  | cs => takeNumber 2 2 cs

def takeClock (cs : List Char) : Option (Nat × Nat × Nat × List Char) := do
  let (hour, cs) ← takeNumber 2 2 cs
  let (minute, cs) ← takeNumber 2 2 (← takeText ":" cs)
  let (second, cs) ← takeNumber 2 2 (← takeText ":" cs)
  return (hour, minute, second, cs)

/-! ## The four forms -/

/-- The weekday, day, month and year with a mark between them, and the time with the zone. -/
def takeDayFirst (names : List String) (mark : String) (least most : Nat) (cs : List Char) :
    Option Moment := do
  let (_, cs) ← takeName names cs
  let (day, cs) ← takeNumber 2 2 (← takeText ", " cs)
  let (month, cs) ← takeName months (← takeText mark cs)
  let (year, cs) ← takeNumber least most (← takeText mark cs)
  let (hour, minute, second, cs) ← takeClock (← takeText " " cs)
  if (← takeText " GMT" cs).isEmpty then some ⟨year, month + 1, day, hour, minute, second⟩ else none

/-- The weekday, month and day, the time, and the year at the end. -/
def takeYearLast (cs : List Char) : Option Moment := do
  let (_, cs) ← takeName weekdays cs
  let (month, cs) ← takeName months (← takeText " " cs)
  let (day, cs) ← takePaddedDay (← takeText " " cs)
  let (hour, minute, second, cs) ← takeClock (← takeText " " cs)
  let (year, cs) ← takeNumber 1 4 (← takeText " " cs)
  if cs.isEmpty then some ⟨year, month + 1, day, hour, minute, second⟩ else none

def fullYear (year : Nat) : Nat :=
  if year ≤ 68 then year + 2000 else if year ≤ 99 then year + 1900 else year

/-! ## Seconds -/

def isLeap (year : Nat) : Bool := year % 4 == 0 && (year % 100 != 0 || year % 400 == 0)

def monthLength (year month : Nat) : Nat :=
  if month = 2 then (if isLeap year then 29 else 28)
  else if [4, 6, 9, 11].contains month then 30 else 31

/-- The days before a year, counted from the year 1. -/
def daysBefore (year : Nat) : Nat :=
  let past := year - 1
  365 * past + past / 4 - past / 100 + past / 400

def Moment.isValid (m : Moment) : Bool :=
  1 ≤ m.year && 1 ≤ m.day && m.day ≤ monthLength m.year m.month && m.hour < 24 && m.minute < 60
    && m.second < 60

/-- The seconds from the start of 1970, below zero before it. -/
def Moment.seconds (m : Moment) : Int :=
  let days := (List.range (m.month - 1)).foldl (fun days i => days + monthLength m.year (i + 1))
    (daysBefore m.year + (m.day - 1))
  ((days : Int) - (daysBefore 1970 : Int)) * 86400
    + ((m.hour * 3600 + m.minute * 60 + m.second : Nat) : Int)

/-- The time that a text names. -/
def parse (text : String) : Option Int := do
  let cs := text.toList
  let m ← takeDayFirst weekdays " " 1 4 cs <|> takeDayFirst longWeekdays "-" 2 2 cs
    <|> takeYearLast cs <|> takeDayFirst weekdays "-" 1 4 cs
  let m := { m with year := fullYear m.year }
  if m.isValid then some m.seconds else none

end ResultGateway.Http.Date
