import ClientGen.Decimal.Digits

/-!
# Faults of a JSON text

A fault is a problem and the character at which it stands. Its message also gives the line and the
column.
-/

namespace ClientGen
namespace Json

/-- What is wrong at a character. -/
inductive Problem
  | byteOrderMark
  | value
  | propertyName
  | colon
  | comma
  | extraData
  | unterminated
  | control
  | escape
  | unicodeEscape
  deriving DecidableEq, Repr

structure Fault where
  problem : Problem
  position : Nat
  deriving DecidableEq, Repr

def Problem.message : Problem → String
  | .byteOrderMark => "Unexpected UTF-8 BOM (decode using utf-8-sig)"
  | .value => "Expecting value"
  | .propertyName => "Expecting property name enclosed in double quotes"
  | .colon => "Expecting ':' delimiter"
  | .comma => "Expecting ',' delimiter"
  | .extraData => "Extra data"
  | .unterminated => "Unterminated string starting at"
  | .control => "Invalid control character at"
  | .escape => "Invalid \\escape"
  | .unicodeEscape => "Invalid \\uXXXX escape"

/-- The line of a position, counted from one. -/
def lineAt (cs : List Char) (position : Nat) : Nat :=
  (cs.take position).count '\n' + 1

/-- The column of a position, counted from one in its line. -/
def columnAt (cs : List Char) (position : Nat) : Nat :=
  ((cs.take position).reverse.takeWhile fun c => c ≠ '\n').length + 1

/-- The problem, with the place in the text `cs`. -/
def Fault.message (f : Fault) (cs : List Char) : String :=
  f.problem.message ++ ": line " ++ Decimal.text (lineAt cs f.position) ++ " column " ++
    Decimal.text (columnAt cs f.position) ++ " (char " ++ Decimal.text f.position ++ ")"

end Json
end ClientGen
