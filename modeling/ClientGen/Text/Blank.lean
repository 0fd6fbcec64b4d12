/-!
# White space

Blank characters separate the tokens of a field shorthand, and a line that holds nothing else
counts as blank.
-/

namespace ClientGen
namespace Text

/-- White space: the spaces and line ends of all scripts and the four information separators. -/
def isBlank (c : Char) : Bool :=
  let n := c.toNat
  (9 ≤ n && n ≤ 13) || (28 ≤ n && n ≤ 32) || n == 0x85 || n == 0xA0 || n == 0x1680 ||
    (0x2000 ≤ n && n ≤ 0x200A) || n == 0x2028 || n == 0x2029 || n == 0x202F || n == 0x205F ||
    n == 0x3000

/-- The text without the blanks at its two ends. -/
def trim (cs : List Char) : List Char :=
  ((cs.dropWhile isBlank).reverse.dropWhile isBlank).reverse

/-- The text without any blank. -/
def squeeze (cs : List Char) : List Char :=
  cs.filter fun c => !isBlank c

@[simp] theorem squeeze_append (a b : List Char) : squeeze (a ++ b) = squeeze a ++ squeeze b := by
  simp [squeeze]

end Text
end ClientGen
