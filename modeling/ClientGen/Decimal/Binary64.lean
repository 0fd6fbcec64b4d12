import ClientGen.Decimal.Power

/-!
# Floating-point numbers of 64 bits

A finite number is a sign, a mantissa and a power of two, held in lowest form, so that equal numbers
of one sign are equal terms. Everything is computed exactly on whole numbers and rounded once, to
the nearest number, ties to the even mantissa.
-/

namespace ClientGen
namespace Decimal

/-- `finite s m e` is the number `m * 2 ^ e`, negated if `s`. -/
inductive Binary64
  | finite (negative : Bool) (mantissa : Nat) (exponent : Int)
  | infinite (negative : Bool)
  | nan
  deriving DecidableEq, Repr

namespace Binary64

/-- The least exponent, that of the numbers near zero. -/
def leastExponent : Int := -1074

/-- The largest exponent of a finite number. -/
def greatestExponent : Int := 971

/-- Zero, with a sign. -/
def zero (negative : Bool) : Binary64 :=
  .finite negative 0 leastExponent

/-- The quotient rounded to the nearest whole number, a half to the even one. -/
def roundDiv (num den : Nat) : Nat :=
  let q := num / den
  let r := num % den
  if 2 * r < den then q
  else if den < 2 * r then q + 1
  else if q % 2 = 0 then q else q + 1

/-- `num / (den * 2 ^ e)` as a fraction of whole numbers. -/
def scaled (num den : Nat) (e : Int) : Nat × Nat :=
  if e ≥ 0 then (num, den * twoTo e.toNat) else (num * twoTo (-e).toNat, den)

/-- The number nearest to the fraction `num / den`. -/
def ofFraction (negative : Bool) (num den : Nat) : Binary64 :=
  if num = 0 then zero negative
  else
    let guess : Int := (num.log2 : Int) - (den.log2 : Int) - 52
    let (n, d) := scaled num den guess
    let e := max leastExponent (if n < d * twoTo 52 then guess - 1 else guess)
    let (n, d) := scaled num den e
    let m := roundDiv n d
    let (m, e) := if m = twoTo 53 then (twoTo 52, e + 1) else (m, e)
    if e > greatestExponent then .infinite negative else .finite negative m e

/-- The number nearest to `m * 10 ^ e`. Beyond the range of the format the powers of ten are not
computed. -/
def ofDecimal (negative : Bool) (m : Nat) (e : Int) : Binary64 :=
  if m = 0 then zero negative
  else
    let magnitude : Int := ((m.log2 + 1) * 30103 / 100000 : Nat) + e
    if magnitude > 320 then .infinite negative
    else if magnitude < -340 then zero negative
    else if e ≥ 0 then ofFraction negative (m * tenTo e.toNat) 1
    else ofFraction negative m (tenTo (-e).toNat)

/-- The number nearest to a whole number. -/
def ofInt (n : Int) : Binary64 :=
  ofFraction (n < 0) n.natAbs 1

/-- The number nearest to `m * 2 ^ e`. -/
def ofDyadic (m : Int) (e : Int) : Binary64 :=
  if e ≥ 0 then ofFraction (m < 0) (m.natAbs * twoTo e.toNat) 1
  else ofFraction (m < 0) m.natAbs (twoTo (-e).toNat)

/-- A finite number as a signed mantissa and an exponent. -/
def toDyadic? : Binary64 → Option (Int × Int)
  | .finite s m e => some (if s then -(m : Int) else m, e)
  | _ => none

/-- The sum of two numbers. -/
def add (x y : Binary64) : Binary64 :=
  match x.toDyadic?, y.toDyadic? with
  | some (a, i), some (b, j) =>
    let e := min i j
    ofDyadic (a * twoTo (i - e).toNat + b * twoTo (j - e).toNat) e
  | some _, none => y
  | none, some _ => x
  | none, none => if x = y then x else .nan

/-- The product of a number and a positive whole one. -/
def scale (x : Binary64) (n : Nat) : Binary64 :=
  match x.toDyadic?, (ofInt n).toDyadic? with
  | some (a, i), some (b, j) => ofDyadic (a * b) (i + j)
  | some _, none => .infinite (x matches .finite true _ _)
  | none, _ => x

/-- The number with the opposite sign. -/
def neg : Binary64 → Binary64
  | .finite s m e => .finite (!s) m e
  | .infinite s => .infinite (!s)
  | .nan => .nan

def isZero : Binary64 → Bool
  | .finite _ m _ => m == 0
  | _ => false

/-- The whole number that a number equals, if it equals one. -/
def toInt? : Binary64 → Option Int
  | .finite s m e =>
    let whole : Option Nat :=
      if e ≥ 0 then some (m * twoTo e.toNat)
      else if m % twoTo (-e).toNat = 0 then some (m / twoTo (-e).toNat) else none
    whole.map fun n => if s then -(n : Int) else n
  | _ => none

/-- Whether two numbers are equal as numbers: zeros of both signs are, and nothing equals a number
that is none. -/
def same : Binary64 → Binary64 → Bool
  | .nan, _ => false
  | _, .nan => false
  | x, y => x == y || (x.isZero && y.isZero)

end Binary64
end Decimal
end ClientGen
