import ClientGen.Decimal.Digits

/-!
# Dates and moments

Days of the calendar and points of time as a document writes them, with their rules of validity and
their standard written form.
-/

namespace ClientGen
namespace Value

open Decimal

/-- A day of the calendar. -/
structure Date where
  year : Nat
  month : Nat
  day : Nat
  deriving DecidableEq, Repr

/-- A time of day on a date, with the distance from universal time in seconds if it is known. -/
structure Moment where
  date : Date
  hour : Nat
  minute : Nat
  second : Nat
  microsecond : Nat
  offset : Option Int
  deriving DecidableEq, Repr

/-- Which part of a date or of a moment is out of its range. -/
inductive CalendarFault
  | year (n : Nat)
  | month
  | day
  | hour
  | minute
  | second
  | offset (seconds : Int)
  deriving DecidableEq, Repr

def isLeap (year : Nat) : Bool :=
  year % 4 == 0 && (year % 100 != 0 || year % 400 == 0)

def daysIn (year month : Nat) : Nat :=
  if month = 2 then (if isLeap year then 29 else 28)
  else if month = 4 || month = 6 || month = 9 || month = 11 then 30 else 31

/-- The date with the given parts, if there is one. -/
def Date.make (year month day : Nat) : Except CalendarFault Date :=
  if year = 0 || year > 9999 then .error (.year year)
  else if month = 0 || month > 12 then .error .month
  else if day = 0 || day > daysIn year month then .error .day
  else .ok ⟨year, month, day⟩

/-- The moment with the given parts, if there is one. -/
def Moment.make (year month day hour minute second microsecond : Nat) (offset : Option Int) :
    Except CalendarFault Moment := do
  match offset with
  | some s => if s.natAbs ≥ 86400 then throw (.offset s)
  | none => pure ()
  let date ← Date.make year month day
  if hour > 23 then throw .hour
  if minute > 59 then throw .minute
  if second > 59 then throw .second
  return ⟨date, hour, minute, second, microsecond, offset⟩

/-- The number of days before the date, counted from the first day of the year one. -/
def Date.ordinal (d : Date) : Nat :=
  let y := d.year - 1
  let before := (List.range (d.month - 1)).foldl (fun n m => n + daysIn d.year (m + 1)) 0
  y * 365 + y / 4 - y / 100 + y / 400 + before + (d.day - 1)

/-- The seconds up to the moment in universal time, for a moment with a known offset. -/
def Moment.universal? (t : Moment) : Option Int :=
  t.offset.map fun s =>
    (((t.date.ordinal * 24 + t.hour) * 60 + t.minute) * 60 + t.second : Nat) - s

/-- Moments are the same if they are the same point of time, or, without an offset, the same
reading of the clock. -/
def Moment.same (a b : Moment) : Bool :=
  match a.universal?, b.universal? with
  | some x, some y => x == y && a.microsecond == b.microsecond
  | none, none => a == b
  | _, _ => false

/-- `YYYY-MM-DD`. -/
def Date.text (d : Date) : String :=
  String.ofList (padded 4 d.year ++ '-' :: padded 2 d.month ++ '-' :: padded 2 d.day)

/-- The offset as a sign, hours and minutes. -/
def offsetText (seconds : Int) : List Char :=
  let n := seconds.natAbs
  (if seconds < 0 then '-' else '+') :: padded 2 (n / 3600) ++ ':' :: padded 2 (n / 60 % 60) ++
    (if n % 60 = 0 then [] else ':' :: padded 2 (n % 60))

/-- The date, the separator, the time with its fraction if there is one, and the offset. -/
def Moment.textWith (separator : Char) (t : Moment) : String :=
  t.date.text ++ String.ofList
    (separator :: padded 2 t.hour ++ ':' :: padded 2 t.minute ++ ':' :: padded 2 t.second ++
      (if t.microsecond = 0 then [] else '.' :: padded 6 t.microsecond) ++
      (match t.offset with
        | none => []
        | some s => offsetText s))

/-- The standard form, with the letter `T` between date and time. -/
def Moment.text (t : Moment) : String :=
  t.textWith 'T'

end Value
end ClientGen
