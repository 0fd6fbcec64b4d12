import ClientGen.Field.Basic
import ClientGen.Text.Blank
import ClientGen.Value.Literal

/-!
# Reading shorthands

A shorthand is up to two opening brackets, the name of a type, up to two closing brackets and up to
one question mark, with blanks anywhere between these. It is balanced if there are as many closing
brackets as opening ones. A list of one plain name, or a list of such a list, means the same as the
name between brackets.
-/

namespace ClientGen
namespace Field

/-- Why a value describes no field. -/
inductive Fault
  | invalid (text : String)
  | unbalanced (text : String)
  | noPlainName (items : List Value)

def Fault.message : Fault → String
  | .invalid s => "Invalid field shorthand: " ++ Text.quoted s
  | .unbalanced s => "Unbalanced brackets in field shorthand: " ++ Text.quoted s
  | .noPlainName items =>
    "Field sequence must hold exactly one plain type name, got " ++ (Value.list items).literal

/-- A character of a type name. -/
def isNameChar (c : Char) : Bool :=
  !(Text.isBlank c || c == '[' || c == ']' || c == '?')

def dropBlanks (cs : List Char) : List Char :=
  cs.dropWhile Text.isBlank

/-- Up to `most` marks at the front, each with the blanks behind it: their number and the rest. -/
def takeMarks (mark : Char) : Nat → List Char → Nat × List Char
  | 0, cs => (0, cs)
  | _ + 1, [] => (0, [])
  | most + 1, c :: rest =>
    if c = mark then
      let (n, rest) := takeMarks mark most (dropBlanks rest)
      (n + 1, rest)
    else (0, c :: rest)

/-- The tokens of a shorthand. -/
structure Written where
  opened : Nat
  name : List Char
  closed : Nat
  optional : Bool
  deriving DecidableEq, Repr

/-- The tokens that a text consists of. -/
def written? (cs : List Char) : Option Written :=
  let (opened, cs) := takeMarks '[' 2 (dropBlanks cs)
  let name := cs.takeWhile isNameChar
  let (closed, cs) := takeMarks ']' 2 (dropBlanks (cs.dropWhile isNameChar))
  let (marks, cs) := takeMarks '?' 1 cs
  if name.isEmpty || !cs.isEmpty then none else some ⟨opened, name, closed, marks == 1⟩

/-- The field that balanced tokens describe. -/
def ofWritten (w : Written) : Field :=
  ⟨String.ofList w.name, w.opened ≥ 1, w.opened == 2, w.optional⟩

/-- The field that a shorthand describes. -/
def ofShorthand (s : String) : Except Fault Field :=
  match written? s.toList with
  | none => .error (.invalid s)
  | some w => if w.opened = w.closed then .ok (ofWritten w) else .error (.unbalanced s)

/-- The name that a text consists of, without the blanks around it. -/
def plainName? (s : String) : Option String :=
  let name := Text.trim s.toList
  if !name.isEmpty && name.all isNameChar then some (String.ofList name) else none

/-- The field that a list describes. -/
def ofItems (items : List Value) : Except Fault Field :=
  let named (nested : Bool) : Value → Except Fault Field
    | .text s =>
      match plainName? s with
      | some name => .ok ⟨name, true, nested, false⟩
      | none => .error (.noPlainName items)
    | _ => .error (.noPlainName items)
  match items with
  | [.list [v]] => named true v
  | [v] => named false v
  | _ => .error (.noPlainName items)

end Field
end ClientGen
