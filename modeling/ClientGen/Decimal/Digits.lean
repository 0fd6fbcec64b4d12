/-!
# Decimal digits of whole numbers

Writing and reading whole numbers in base ten, with separators between the thousands where a report
asks for them.
-/

namespace ClientGen
namespace Decimal

/-- The decimal digits of `n`. -/
def digits (n : Nat) : List Char :=
  Nat.toDigits 10 n

/-- A whole number in decimal. -/
def text (n : Nat) : String :=
  String.ofList (digits n)

/-- The digits of `n`, with zeros before them up to the given width. -/
def padded (width n : Nat) : List Char :=
  let ds := digits n
  List.replicate (width - ds.length) '0' ++ ds

/-- A comma before every third character, counted from the end; the characters come last one first
and so does the result. -/
def groupReversed : List Char → List Char
  | a :: b :: c :: d :: rest => a :: b :: c :: ',' :: groupReversed (d :: rest)
  | cs => cs

/-- The digits of `n` with commas between the thousands. -/
def grouped (n : Nat) : String :=
  String.ofList (groupReversed (digits n).reverse).reverse

/-- The digits of a signed number. -/
def signed (n : Int) : String :=
  match n with
  | .ofNat k => String.ofList (digits k)
  | .negSucc k => String.ofList ('-' :: digits (k + 1))

/-- A signed number with commas between the thousands. -/
def groupedSigned (n : Int) : String :=
  if n < 0 then "-" ++ grouped n.natAbs else grouped n.natAbs

/-- The number that the digits of the given base write; digits are given by their values. -/
def ofDigitValues (base : Nat) (ds : List Nat) : Nat :=
  ds.foldl (fun n d => n * base + d) 0

end Decimal
end ClientGen
