import HostRouting.Number.Numeral

/-!
# Dates and times

The four kinds of moments that a document can hold, and their RFC 3339 text.
-/

namespace HostRouting.Toml

structure Date where
  year : Nat
  month : Nat
  day : Nat
  deriving DecidableEq

/-- A time of day, to the nanosecond. -/
structure Time where
  hour : Nat
  minute : Nat
  second : Nat
  nanosecond : Nat
  deriving DecidableEq

/-- How far a local time is ahead of universal time: not at all and so written, or by some number
of minutes. -/
inductive Offset where
  | utc
  | minutes (ahead : Int)
  deriving DecidableEq

/-- A date, a time, or both, the latter with or without its offset. -/
inductive Datetime where
  | offsetDateTime (date : Date) (time : Time) (offset : Offset)
  | localDateTime (date : Date) (time : Time)
  | localDate (date : Date)
  | localTime (time : Time)
  deriving DecidableEq

namespace Date

/-- Every fourth year is a leap year, save those that end a century which is no multiple of four. -/
def isLeapYear (year : Nat) : Bool :=
  year % 4 == 0 && (year % 100 != 0 || year % 400 == 0)

def daysInMonth (year month : Nat) : Nat :=
  if month = 2 then (if isLeapYear year then 29 else 28)
  else if month = 4 ∨ month = 6 ∨ month = 9 ∨ month = 11 then 30
  else 31

def isValid (date : Date) : Bool :=
  1 ≤ date.month && date.month ≤ 12 && 1 ≤ date.day &&
    date.day ≤ daysInMonth date.year date.month

def text (date : Date) : List Char :=
  Decimal.padded 4 date.year ++ '-' :: Decimal.padded 2 date.month ++
    '-' :: Decimal.padded 2 date.day

end Date

namespace Time

/-- Whether a clock can show this time; a minute may have a leap second. -/
def isValid (time : Time) : Bool :=
  time.hour ≤ 23 && time.minute ≤ 59 && time.second ≤ 60

/-- The fraction of a second with its point, without zeros at its end; nothing if it is zero. -/
def fractionText (nanosecond : Nat) : List Char :=
  match ((Decimal.padded 9 nanosecond).reverse.dropWhile (· == '0')).reverse with
  | [] => []
  | kept => '.' :: kept

def text (time : Time) : List Char :=
  Decimal.padded 2 time.hour ++ ':' :: Decimal.padded 2 time.minute ++
    ':' :: Decimal.padded 2 time.second ++ fractionText time.nanosecond

end Time

/-- A universal time is marked by a letter, any other by its signed distance. -/
def Offset.text : Offset → List Char
  | .utc => ['Z']
  | .minutes ahead =>
      (if ahead < 0 then '-' else '+') :: Decimal.padded 2 (ahead.natAbs / 60) ++
        ':' :: Decimal.padded 2 (ahead.natAbs % 60)

/-- The RFC 3339 text of a moment. -/
def Datetime.text : Datetime → String
  | .offsetDateTime date time offset => String.ofList (date.text ++ 'T' :: time.text ++ offset.text)
  | .localDateTime date time => String.ofList (date.text ++ 'T' :: time.text)
  | .localDate date => String.ofList date.text
  | .localTime time => String.ofList time.text

end HostRouting.Toml
