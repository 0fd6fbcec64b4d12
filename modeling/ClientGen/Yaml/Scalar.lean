import ClientGen.Decimal.Binary64
import ClientGen.Decimal.Numeral
import ClientGen.Text.Base64
import ClientGen.Text.Blank
import ClientGen.Text.Case
import ClientGen.Text.Digit
import ClientGen.Value.Basic
import ClientGen.Yaml.Fault

/-!
# Types of scalars

The type of a plain scalar follows from its form; a tag may state it instead. Each type has a rule
that reads its value from the text.
-/

namespace ClientGen
namespace Yaml

open Decimal

/-- The types that tags name. -/
inductive Tag
  | null
  | bool
  | int
  | float
  | binary
  | timestamp
  | text
  | list
  | map
  | set
  | orderedMap
  | pairs
  | merge
  | value
  | other
  deriving DecidableEq, Repr

/-- The common lead of the names of the types. -/
def Tag.lead : String := "tag:yaml.org,2002:"

def Tag.names : List (String × Tag) :=
  [("null", .null), ("bool", .bool), ("int", .int), ("float", .float), ("binary", .binary),
    ("timestamp", .timestamp), ("str", .text), ("seq", .list), ("map", .map), ("set", .set),
    ("omap", .orderedMap), ("pairs", .pairs), ("merge", .merge), ("value", .value)]

/-- The type with the given full name. -/
def Tag.ofName (s : String) : Tag :=
  match Tag.names.find? fun p => Tag.lead ++ p.1 == s with
  | some p => p.2
  | none => .other

namespace Scalar

/-- The words for true and false, each in lower case, capitalised and in capitals. -/
def booleanWords : List String :=
  ["yes", "Yes", "YES", "no", "No", "NO", "true", "True", "TRUE", "false", "False", "FALSE",
    "on", "On", "ON", "off", "Off", "OFF"]

def nullWords : List String := ["", "~", "null", "Null", "NULL"]

/-- The marks of tags, anchors and aliases, which have a type of their own and no value. -/
def markWords : List String := ["!", "&", "*"]

def isDigitOrLine (c : Char) : Bool :=
  Decimal.isDigit c || c == '_'

/-- The text without one sign at its front. -/
def dropSign : List Char → List Char
  | '-' :: rest => rest
  | '+' :: rest => rest
  | cs => cs

/-- A digit and then digits and underlines. -/
def isDigitRun : List Char → Bool
  | [] => false
  | c :: rest => Decimal.isDigit c && rest.all isDigitOrLine

/-- A digit above zero and then digits and underlines. -/
def isCountRun (cs : List Char) : Bool :=
  isDigitRun cs && cs.head? != some '0'

/-- One or two digits below sixty. -/
def isSixtieth : List Char → Bool
  | [a] => Decimal.isDigit a
  | [a, b] => '0' ≤ a && a ≤ '5' && Decimal.isDigit b
  | _ => false

/-- The parts between colons. -/
def colonParts (cs : List Char) : List (List Char) :=
  cs.foldr (fun c parts =>
    if c = ':' then [] :: parts
    else match parts with
      | [] => [[c]]
      | p :: ps => (c :: p) :: ps) [[]]

/-- A leading part and at least one part of sixtieths. -/
def isSexagesimal (first : List Char → Bool) (cs : List Char) : Bool :=
  match colonParts cs with
  | p :: q :: rest => first p && (q :: rest).all isSixtieth
  | _ => false

def isNonempty (p : Char → Bool) (cs : List Char) : Bool :=
  !cs.isEmpty && cs.all p

/-- Whole numbers in base two, eight, ten, sixteen and sixty. -/
def isInteger (cs : List Char) : Bool :=
  match dropSign cs with
  | ['0'] => true
  | '0' :: 'b' :: rest => isNonempty (fun c => c == '0' || c == '1' || c == '_') rest
  | '0' :: 'x' :: rest => isNonempty (fun c => (Text.hexValue? c).isSome || c == '_') rest
  | '0' :: rest => isNonempty (fun c => ('0' ≤ c && c ≤ '7') || c == '_') rest
  | cs => isCountRun cs || isSexagesimal isCountRun cs

/-- A text is cut at its first point. -/
def cutAtPoint (cs : List Char) : Option (List Char × List Char) :=
  match cs.dropWhile (· ≠ '.') with
  | _ :: rest => some (cs.takeWhile (· ≠ '.'), rest)
  | [] => none

/-- Places with an exponent that has a sign, or places alone. -/
def isPlaces (cs : List Char) : Bool :=
  match cs.dropWhile isDigitOrLine with
  | [] => true
  | e :: s :: rest =>
    (e == 'e' || e == 'E') && (s == '-' || s == '+') && isNonempty Decimal.isDigit rest
  | _ => false

/-- Floating-point numbers: they have a point, and an exponent has a sign. -/
def isFloat (cs : List Char) : Bool :=
  match cutAtPoint cs with
  | none => false
  | some (whole, places) =>
    let digits := dropSign whole
    (isDigitRun digits && isPlaces places)
      || (whole.isEmpty && (places.head?.map Decimal.isDigit).getD false && isPlaces places)
      || (isSexagesimal isDigitRun digits && places.all isDigitOrLine)
      || (digits.isEmpty && ["inf", "Inf", "INF"].contains (String.ofList places))
      || (whole.isEmpty && ["nan", "NaN", "NAN"].contains (String.ofList places))

/-- A point of time as it is written; the flag tells whether month and day have two digits. -/
structure WrittenTime where
  year : Nat
  month : Nat
  day : Nat
  wide : Bool
  time : Option (Nat × Nat × Nat × List Char × Option Int)

/-- Up to `most` digits at the front of a text, at least `least` of them. -/
def digitsUpTo (least most : Nat) (cs : List Char) : Option (List Char × List Char) :=
  let ds := (cs.take most).takeWhile Decimal.isDigit
  if ds.length < least then none else some (ds, cs.drop ds.length)

/-- The offset from universal time at the end of a moment, in seconds. -/
def offset? (cs : List Char) : Option (Option Int) :=
  match cs with
  | [] => some none
  | _ =>
    match cs.dropWhile fun c => c == ' ' || c == '\t' with
    | ['Z'] => some (some 0)
    | s :: rest => do
      if s ≠ '-' && s ≠ '+' then none
      let (h, rest) ← digitsUpTo 1 2 rest
      let m ← match rest with
        | [] => some []
        | ':' :: rest => do
          let (m, rest) ← digitsUpTo 2 2 rest
          if rest.isEmpty then some m else none
        | _ => none
      let seconds : Int := (Decimal.ofDigits h * 60 + Decimal.ofDigits m) * 60
      return some (if s = '-' then -seconds else seconds)
    | [] => none

/-- The time of day behind a date. -/
def clock? (cs : List Char) : Option (Nat × Nat × Nat × List Char × Option Int) := do
  let rest ← match cs with
    | 'T' :: rest => some rest
    | 't' :: rest => some rest
    | c :: rest =>
      if c = ' ' || c = '\t' then some (rest.dropWhile fun c => c == ' ' || c == '\t') else none
    | [] => none
  let (h, rest) ← digitsUpTo 1 2 rest
  let rest ← if rest.head? = some ':' then some rest.tail else none
  let (m, rest) ← digitsUpTo 2 2 rest
  let rest ← if rest.head? = some ':' then some rest.tail else none
  let (s, rest) ← digitsUpTo 2 2 rest
  let (fraction, rest) := match rest with
    | '.' :: rest => (rest.takeWhile Decimal.isDigit, rest.dropWhile Decimal.isDigit)
    | _ => ([], rest)
  let o ← offset? rest
  return (Decimal.ofDigits h, Decimal.ofDigits m, Decimal.ofDigits s, fraction, o)

/-- The date, with or without a time of day, that a text writes. -/
def writtenTime? (cs : List Char) : Option WrittenTime := do
  let (y, rest) ← digitsUpTo 4 4 cs
  let rest ← if rest.head? = some '-' then some rest.tail else none
  let (m, rest) ← digitsUpTo 1 2 rest
  let rest ← if rest.head? = some '-' then some rest.tail else none
  let (d, rest) ← digitsUpTo 1 2 rest
  let time ← if rest.isEmpty then some none else (clock? rest).map some
  return ⟨Decimal.ofDigits y, Decimal.ofDigits m, Decimal.ofDigits d, m.length = 2 && d.length = 2, time⟩

/-- A date alone counts as one only with two digits for month and day. -/
def isTimestamp (cs : List Char) : Bool :=
  match writtenTime? cs with
  | none => false
  | some t => t.time.isSome || t.wide

/-- One line break at the end does not count for the form of a scalar. -/
def formOf (cs : List Char) : List Char :=
  if cs.length > 1 && cs.getLast? = some '\n' then cs.dropLast else cs

/-- The type of a plain scalar. -/
def plainTag (s : String) : Tag :=
  let cs := formOf s.toList
  let word := String.ofList cs
  if booleanWords.contains word then .bool
  else if isFloat cs then .float
  else if isInteger cs then .int
  else if word == "<<" then .merge
  else if nullWords.contains word then .null
  else if isTimestamp cs then .timestamp
  else if word == "=" then .value
  else if markWords.contains word then .other
  else .text

/-- The text without underlines. -/
def dropLines (cs : List Char) : List Char :=
  cs.filter (· ≠ '_')

/-- The value of a digit in a base up to sixteen. -/
def digitIn? (base : Nat) (c : Char) : Option Nat :=
  let n := match Text.digitValue? c with
    | some n => some n
    | none => Text.hexValue? c
  n.filter (· < base)

/-- The letters that may stand behind a zero to announce a base. -/
def baseMarks : Nat → List Char
  | 2 => ['b', 'B']
  | 8 => ['o', 'O']
  | 16 => ['x', 'X']
  | _ => []

/-- The whole number that a text writes in a base, with blanks around it, a sign and the mark of the
base allowed. -/
def wholeIn? (base : Nat) (cs : List Char) : Option Int :=
  let cs := Text.trim cs
  let negative := cs.head? = some '-'
  let cs := dropSign cs
  let ds := match cs with
    | '0' :: m :: rest => if (baseMarks base).contains m then rest else cs
    | _ => cs
  if ds.isEmpty then none
  else (ds.mapM (digitIn? base)).map fun values =>
    let n : Int := ofDigitValues base values
    if negative then -n else n

def wholeIn (base : Nat) (cs : List Char) : Except Fault Int :=
  match wholeIn? base cs with
  | some n => .ok n
  | none => .error (.noInteger base (String.ofList cs))

/-- A whole number. -/
def integer (s : String) : Except Fault Int := do
  let cs := dropLines s.toList
  if cs.isEmpty then throw .emptyNumber
  let negative := cs.head? = some '-'
  let cs := dropSign cs
  let n ← match cs with
    | [] => throw .emptyNumber
    | ['0'] => pure 0
    | '0' :: 'b' :: rest => wholeIn 2 rest
    | '0' :: 'x' :: rest => wholeIn 16 rest
    | '0' :: _ => wholeIn 8 cs
    | _ =>
      match colonParts cs with
      | [_] => wholeIn 10 cs
      | parts => do
        let ns ← parts.mapM (wholeIn 10)
        pure (ns.foldl (fun n d => n * 60 + d) 0)
  return if negative then -n else n

/-- The floating-point number that a text writes, with blanks around it and a sign allowed. -/
def realIn? (cs : List Char) : Option Binary64 := do
  let cs := (Text.trim cs).map fun c =>
    match Text.digitValue? c with
    | some n => Nat.digitChar n
    | none => c.toLower
  let negative := cs.head? = some '-'
  let cs := dropSign cs
  if ["inf", "infinity"].contains (String.ofList cs) then return .infinite negative
  if String.ofList cs == "nan" then return .nan
  let (whole, rest) := Decimal.spanDigits cs
  let (places, rest) := match rest with
    | '.' :: rest => Decimal.spanDigits rest
    | _ => ([], rest)
  if whole.isEmpty && places.isEmpty then none
  let e ← match rest with
    | [] => some 0
    | _ =>
      match Decimal.exponent? rest with
      | some (e, []) => some e
      | _ => none
  return Binary64.ofDecimal negative (Decimal.ofDigits (whole ++ places)) (e - places.length)

def realIn (cs : List Char) : Except Fault Binary64 :=
  match realIn? cs with
  | some x => .ok x
  | none => .error (.noFloat (String.ofList cs))

/-- The sum of the parts, each weighted by a power of sixty; the last part comes first. -/
def sixtieths (sum : Binary64) (weight : Nat) : List Binary64 → Binary64
  | [] => sum
  | x :: rest => sixtieths (sum.add (x.scale weight)) (weight * 60) rest

/-- A floating-point number. -/
def real (s : String) : Except Fault Binary64 := do
  let cs := Text.lower (dropLines s.toList)
  if cs.isEmpty then throw .emptyNumber
  let negative := cs.head? = some '-'
  let cs := dropSign cs
  let x ←
    if String.ofList cs == ".inf" then pure (.infinite false)
    else if String.ofList cs == ".nan" then pure .nan
    else match colonParts cs with
      | [_] => realIn cs
      | parts => do
        let xs ← parts.mapM realIn
        pure (sixtieths (Binary64.zero false) 1 xs.reverse)
  return if negative then x.neg else x

/-- True or false. -/
def boolean (s : String) : Except Fault Bool :=
  let word := String.ofList (Text.lower s.toList)
  if ["yes", "true", "on"].contains word then .ok true
  else if ["no", "false", "off"].contains word then .ok false
  else .error (.noBoolean word)

/-- A date, or a moment if a time of day is given. -/
def timestamp (s : String) : Except Fault Value :=
  match writtenTime? (formOf s.toList) with
  | none => .error .noTimestamp
  | some t =>
    match t.time with
    | none =>
      match Value.Date.make t.year t.month t.day with
      | .ok d => .ok (.date d)
      | .error f => .error (.calendar f)
    | some (h, m, sec, fraction, o) =>
      let micro := Decimal.ofDigits ((fraction ++ List.replicate 6 '0').take 6)
      match Value.Moment.make t.year t.month t.day h m sec micro o with
      | .ok d => .ok (.moment d)
      | .error f => .error (.calendar f)

/-- The value of a scalar whose type is no collection. -/
def valueOf (tag : Tag) (s : String) : Except Fault Value :=
  match tag with
  | .null => .ok .null
  | .bool => (boolean s).map .bool
  | .int => (integer s).map .int
  | .float => (real s).map .float
  | .text => .ok (.text s)
  | .timestamp => timestamp s
  | .binary =>
    if s.toList.any fun c => c.toNat ≥ 0x80 then .error .malformed
    else match Text.Base64.decode s.toList with
      | some bs => .ok (.bytes bs)
      | none => .error .malformed
  | _ => .error .malformed

end Scalar
end Yaml
end ClientGen
