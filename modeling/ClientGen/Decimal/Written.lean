import ClientGen.Decimal.Digits
import ClientGen.Decimal.Shortest

/-!
# Written forms of floating-point numbers

The general form has the fewest digits that read back, positional from `0.0001` to below `10 ^ 16`
and with an exponent elsewhere. The fixed form has a given number of places.
-/

namespace ClientGen
namespace Decimal

/-- The texts and bounds of the general form. -/
structure GeneralForm where
  /-- Positional if the decimal point stands after more than this many digits … -/
  pointAbove : Int
  /-- … and after no more than this many. -/
  pointUpTo : Int
  exponentWidth : Nat
  infinity : String
  nan : String

/-- Numbers in messages keep a point and a digit after it unless they have an exponent. -/
def generalForm : GeneralForm := ⟨-4, 16, 2, "inf", "nan"⟩

/-- The digits `ds` with the decimal point after the first `k` of them. -/
def positional (ds : List Char) (k : Int) : List Char :=
  if k ≤ 0 then '0' :: '.' :: List.replicate (-k).toNat '0' ++ ds
  else
    let whole := ds.take k.toNat ++ List.replicate (k.toNat - ds.length) '0'
    let places := ds.drop k.toNat
    whole ++ '.' :: (if places.isEmpty then ['0'] else places)

/-- The digits `ds` with the decimal point after the first and the exponent `k - 1`. -/
def exponential (form : GeneralForm) (ds : List Char) (k : Int) : List Char :=
  let lead := match ds with
    | [] => []
    | [d] => [d]
    | d :: rest => d :: '.' :: rest
  let e := k - 1
  lead ++ 'e' :: (if e < 0 then '-' else '+') :: padded form.exponentWidth e.natAbs

/-- The general form without a sign. -/
def unsignedText (form : GeneralForm) (m : Nat) (e : Int) : List Char :=
  if m = 0 then ['0', '.', '0']
  else
    let a := shortest m e
    let ds := digits a.digits
    let k := a.exponent + ds.length
    if form.pointAbove < k && k ≤ form.pointUpTo then positional ds k else exponential form ds k

/-- The general form of a number. -/
def Binary64.text (x : Binary64) : String :=
  match x with
  | .finite s m e =>
    String.ofList ((if s then ['-'] else []) ++ unsignedText generalForm m e)
  | .infinite s => (if s then "-" else "") ++ generalForm.infinity
  | .nan => generalForm.nan

/-- A number with exactly `places` digits after the point, rounded to the nearest, a half to the
even digit. A sign stays also before a zero. -/
def Binary64.fixed (places : Nat) (x : Binary64) : String :=
  match x with
  | .finite s m e =>
    let n :=
      if e ≥ 0 then m * twoTo e.toNat * tenTo places
      else roundDiv (m * tenTo places) (twoTo (-e).toNat)
    let ds := padded (places + 1) n
    let whole := ds.take (ds.length - places)
    let rest := ds.drop (ds.length - places)
    String.ofList ((if s then ['-'] else []) ++ whole ++ (if places = 0 then [] else '.' :: rest))
  | .infinite s => (if s then "-" else "") ++ generalForm.infinity
  | .nan => generalForm.nan

end Decimal
end ClientGen
