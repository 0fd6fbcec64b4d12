import ClientGen.Decimal.Digits

/-!
# Numerals

The parts of a decimal numeral at the front of a text: its digits, the places behind the point and the
exponent.
-/

namespace ClientGen
namespace Decimal

/-- A digit of ASCII. -/
def isDigit (c : Char) : Bool :=
  '0' ≤ c && c ≤ '9'

/-- The digits at the front of a text and the rest. -/
def spanDigits (cs : List Char) : List Char × List Char :=
  (cs.takeWhile isDigit, cs.dropWhile isDigit)

/-- The number that decimal digits write. -/
def ofDigits (ds : List Char) : Nat :=
  ofDigitValues 10 (ds.map fun c => c.toNat - 48)

/-- The point and the places at the front of a text. -/
def fraction (cs : List Char) : List Char × List Char :=
  match cs with
  | '.' :: rest =>
    let (ds, after) := spanDigits rest
    if ds.isEmpty then ([], cs) else (ds, after)
  | _ => ([], cs)

/-- The exponent at the front of a text, if a whole one stands there. -/
def exponent? (cs : List Char) : Option (Int × List Char) :=
  let signed (negative : Bool) (rest : List Char) : Option (Int × List Char) :=
    let (ds, after) := spanDigits rest
    if ds.isEmpty then none
    else some (if negative then -(ofDigits ds : Int) else ofDigits ds, after)
  match cs with
  | 'e' :: '-' :: rest | 'E' :: '-' :: rest => signed true rest
  | 'e' :: '+' :: rest | 'E' :: '+' :: rest => signed false rest
  | 'e' :: rest | 'E' :: rest => signed false rest
  | _ => none

end Decimal
end ClientGen
