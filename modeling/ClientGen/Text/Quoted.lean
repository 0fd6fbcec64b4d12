import ClientGen.Text.CodePoints
import ClientGen.Text.Printable

/-!
# Quoted text

The form in which a message shows a text or a row of bytes: between quotes, with everything that
is not printable escaped.
-/

namespace ClientGen
namespace Text

/-- The `width` lowest hexadecimal digits of `n`, in lower case. -/
def hex (width n : Nat) : List Char :=
  match width with
  | 0 => []
  | w + 1 => hex w (n / 16) ++ [Nat.digitChar (n % 16)]

/-- The quotes to use: single ones, unless the text holds a single and no double one. -/
def quoteFor (cs : List Char) : Char :=
  if cs.contains '\'' && !cs.contains '"' then '"' else '\''

/-- One character between quotes. -/
def escaped (quote c : Char) : List Char :=
  if c = quote || c = '\\' then ['\\', c]
  else if c = '\t' then ['\\', 't']
  else if c = '\n' then ['\\', 'n']
  else if c = '\r' then ['\\', 'r']
  else if isPrintable c then [c]
  else if c.toNat ≤ 0xFF then '\\' :: 'x' :: hex 2 c.toNat
  else if c.toNat ≤ 0xFFFF then '\\' :: 'u' :: hex 4 c.toNat
  else '\\' :: 'U' :: hex 8 c.toNat

/-- One code point between quotes. -/
def escapedPoint (quote : Char) (n : Nat) : List Char :=
  if isSurrogate n then '\\' :: 'u' :: hex 4 n else escaped quote (Char.ofNat n)

/-- A text between quotes. -/
def quoted (s : String) : String :=
  let q := quoteFor s.toList
  String.ofList (q :: (codePoints s.toList).flatMap (escapedPoint q) ++ [q])

/-- A row of bytes between quotes, with the letter `b` before them. -/
def quotedBytes (bs : List UInt8) : String :=
  let cs := bs.map fun b => Char.ofNat b.toNat
  let q := quoteFor cs
  let one (c : Char) := if c.toNat < 0x80 then escaped q c else '\\' :: 'x' :: hex 2 c.toNat
  String.ofList ('b' :: q :: cs.flatMap one ++ [q])

end Text
end ClientGen
