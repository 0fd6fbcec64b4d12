import ClientGen.Decimal.Written
import ClientGen.Text.Listed
import ClientGen.Text.Quoted
import ClientGen.Value.Basic

/-!
# Values in messages

The literal form of a value inside a message. A text by itself is shown as it is; inside a list, a
mapping or an error about a value it is quoted.
-/

namespace ClientGen
namespace Value

open Decimal

/-- The literal of a span of time; days are counted down, so that the seconds are not negative. -/
def spanLiteral (seconds : Int) : String :=
  let days := seconds.fdiv 86400
  let rest := seconds.fmod 86400
  let parts := (if days = 0 then [] else ["days=" ++ signed days]) ++
    (if rest = 0 then [] else ["seconds=" ++ signed rest])
  "datetime.timedelta(" ++ (if parts.isEmpty then "0" else Text.listed parts) ++ ")"

/-- The literal of an offset from universal time. -/
def offsetLiteral (seconds : Int) : String :=
  if seconds = 0 then "datetime.timezone.utc"
  else "datetime.timezone(" ++ spanLiteral seconds ++ ")"

def CalendarFault.message : CalendarFault → String
  | .year n => "year " ++ Decimal.text n ++ " is out of range"
  | .month => "month must be in 1..12"
  | .day => "day is out of range for month"
  | .hour => "hour must be in 0..23"
  | .minute => "minute must be in 0..59"
  | .second => "second must be in 0..59"
  | .offset s =>
    "offset must be a timedelta strictly between -timedelta(hours=24) and timedelta(hours=24), not " ++
      spanLiteral s

/-- The literal of a date. -/
def dateLiteral (d : Date) : String :=
  "datetime.date(" ++ Text.listed ([d.year, d.month, d.day].map Decimal.text) ++ ")"

/-- The literal of a moment, without the seconds and their fraction where they are zero. -/
def momentLiteral (t : Moment) : String :=
  let numbers := [t.date.year, t.date.month, t.date.day, t.hour, t.minute] ++
    (if t.second = 0 && t.microsecond = 0 then [] else [t.second]) ++
    (if t.microsecond = 0 then [] else [t.microsecond])
  let zone := match t.offset with
    | none => []
    | some s => ["tzinfo=" ++ offsetLiteral s]
  "datetime.datetime(" ++ Text.listed (numbers.map Decimal.text ++ zone) ++ ")"

mutual

/-- The literal form of a value. -/
def literal : Value → String
  | .null => "None"
  | .bool b => if b then "True" else "False"
  | .int n => signed n
  | .float x => x.text
  | .text s => Text.quoted s
  | .bytes bs => Text.quotedBytes bs
  | .date d => dateLiteral d
  | .moment t => momentLiteral t
  | .list items => "[" ++ Text.listed (literals items) ++ "]"
  | .pair a b => "(" ++ a.literal ++ ", " ++ b.literal ++ ")"
  | .set members =>
    if members.isEmpty then "set()" else "\x7b" ++ Text.listed (literals members) ++ "\x7d"
  | .map entries => "\x7b" ++ Text.listed (entryLiterals entries) ++ "\x7d"

def literals : List Value → List String
  | [] => []
  | v :: rest => v.literal :: literals rest

def entryLiterals : List (Value × Value) → List String
  | [] => []
  | (k, v) :: rest => (k.literal ++ ": " ++ v.literal) :: entryLiterals rest

end

/-- A value by itself: a text or a point of time as it is written, anything else as its literal. -/
def shown : Value → String
  | .text s => s
  | .date d => d.text
  | .moment t => t.textWith ' '
  | v => v.literal

end Value
end ClientGen
