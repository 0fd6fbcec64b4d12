import ClientGen.Decimal.Binary64

/-!
# The fewest digits that read back

Of the decimals that round to a given number, `shortest` takes one with the fewest digits, and of
those the nearest one. On each decimal grid only the two neighbours of the number need a test: if
any point of the grid rounds to it, one of them does.
-/

namespace ClientGen
namespace Decimal

/-- The number `digits * 10 ^ exponent`. -/
structure Approximation where
  digits : Nat
  exponent : Int
  deriving DecidableEq, Repr

/-- The fractions that round to a number lie between `low / den` and `high / den`; `value / den` is
the number itself, and the ends belong to the interval if `closed`. -/
structure Interval where
  low : Nat
  value : Nat
  high : Nat
  den : Nat
  closed : Bool

/-- The interval around `m * 2 ^ e`. Below a power of two the neighbours lie half as far apart. -/
def Interval.around (m : Nat) (e : Int) : Interval :=
  let factor := if e ≥ 2 then twoTo (e - 2).toNat else 1
  let den := if e ≥ 2 then 1 else twoTo (2 - e).toNat
  let below := if m = twoTo 52 && e > Binary64.leastExponent then 1 else 2
  ⟨(4 * m - below) * factor, 4 * m * factor, (4 * m + 2) * factor, den, m % 2 == 0⟩

/-- `n * 10 ^ p` as a fraction. -/
def tenfold (n : Nat) (p : Int) : Nat × Nat :=
  if p ≥ 0 then (n * tenTo p.toNat, 1) else (n, tenTo (-p).toNat)

/-- Whether `n * 10 ^ p` lies in the interval. -/
def Interval.holds (i : Interval) (n : Nat) (p : Int) : Bool :=
  let (a, b) := tenfold n p
  if i.closed then i.low * b ≤ a * i.den && a * i.den ≤ i.high * b
  else i.low * b < a * i.den && a * i.den < i.high * b

/-- The number of digits before the decimal point: the least `k` with the number below `10 ^ k`. -/
def Interval.magnitude (i : Interval) : Int :=
  let guess : Int := ((i.value.log2 : Int) - (i.den.log2 : Int) - 1) * 30103 / 100000
  let below (k : Int) : Bool :=
    let (a, b) := tenfold 1 k
    i.value * b < a * i.den
  if below (guess - 1) then guess - 1
  else if below guess then guess
  else if below (guess + 1) then guess + 1
  else guess + 2

/-- The neighbour of the number on the grid of step `10 ^ p` that rounds to it, if one does. -/
def Interval.hit? (i : Interval) (p : Int) : Option Nat :=
  let (a, b) := tenfold 1 p
  let unit := a * i.den
  let lower := i.value * b / unit
  let rest := i.value * b % unit
  match i.holds lower p, i.holds (lower + 1) p with
  | true, true =>
    some (if 2 * rest < unit then lower
      else if unit < 2 * rest then lower + 1
      else if lower % 2 = 0 then lower else lower + 1)
  | true, false => some lower
  | false, true => some (lower + 1)
  | false, false => none

/-- The first grid with a hit, from the coarsest one on; `count` grids are tried. -/
def Interval.search (i : Interval) (p : Int) : Nat → Approximation
  | 0 => ⟨i.value / i.den, 0⟩
  | count + 1 =>
    match i.hit? p with
    | some n => ⟨n, p⟩
    | none => i.search (p - 1) count

/-- The digits without the zeros at their end. -/
def Approximation.reduced (a : Approximation) : Nat → Approximation
  | 0 => a
  | count + 1 =>
    if a.digits % 10 = 0 && a.digits ≠ 0 then
      Approximation.reduced ⟨a.digits / 10, a.exponent + 1⟩ count
    else a

/-- The shortest decimal that reads back as `m * 2 ^ e`, for `m` above zero. -/
def shortest (m : Nat) (e : Int) : Approximation :=
  let i := Interval.around m e
  (i.search (i.magnitude - 1) 18).reduced 18

end Decimal
end ClientGen
