/-!
# Base 64

Reading bytes from their base 64 text. Characters outside the alphabet are passed over, and the text
ends where its last group is filled up with `=`.
-/

namespace ClientGen
namespace Text
namespace Base64

/-- The six bits of a letter of the alphabet. -/
def sextet? (c : Char) : Option Nat :=
  if 'A' ≤ c && c ≤ 'Z' then some (c.toNat - 65)
  else if 'a' ≤ c && c ≤ 'z' then some (c.toNat - 71)
  else if '0' ≤ c && c ≤ '9' then some (c.toNat + 4)
  else if c = '+' then some 62
  else if c = '/' then some 63
  else none

/-- Reads on with `held` as the letters of the group that is not complete, and `pads` fillers after
them; `done` holds the bytes so far, the last one first. -/
def decodeFrom (held : List Nat) (pads : Nat) (done : List UInt8) : List Char → Option (List UInt8)
  | [] => if held.isEmpty then some done.reverse else none
  | c :: rest =>
    if c = '=' then
      if held.length ≥ 2 && held.length + pads + 1 ≥ 4 then some done.reverse
      else decodeFrom held (if held.length ≥ 2 then pads + 1 else pads) done rest
    else match sextet? c with
      | none => decodeFrom held pads done rest
      | some n =>
        match held with
        | [] => decodeFrom [n] 0 done rest
        | [a] => decodeFrom [a, n] 0 (UInt8.ofNat (a * 4 + n / 16) :: done) rest
        | [a, b] => decodeFrom [a, b, n] 0 (UInt8.ofNat (b % 16 * 16 + n / 4) :: done) rest
        | _ :: _ :: b :: _ => decodeFrom [] 0 (UInt8.ofNat (b % 4 * 64 + n) :: done) rest

/-- The bytes that a text writes, unless its last group is cut off. -/
def decode (cs : List Char) : Option (List UInt8) :=
  decodeFrom [] 0 [] cs

end Base64
end Text
end ClientGen
