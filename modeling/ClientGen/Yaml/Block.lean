import ClientGen.Text.CodePoints
import ClientGen.Yaml.Cursor
import ClientGen.Yaml.Fault

/-!
# Block scalars

A scalar that holds all lines of a deeper indentation. A literal one keeps its line breaks, a folded
one joins lines that do not start with a blank. Its header may fix the indentation and says what
happens to the line breaks at its end.
-/

namespace ClientGen
namespace Yaml
namespace Block

/-- What becomes of the line breaks at the end. -/
inductive Chomping
  | strip
  | clip
  | keep
  deriving DecidableEq

/-- The mark at the cursor. -/
def chomping? (c : Cursor) : Option Chomping :=
  if c.here == '+' then some .keep else if c.here == '-' then some .strip else none

/-- The indentation at the cursor, one digit above zero. -/
def digit? (c : Cursor) : Except Fault (Option Nat × Cursor) :=
  let ch := c.here
  if '0' ≤ ch && ch ≤ '9' then
    if ch == '0' then .error .malformed else .ok (some (ch.toNat - 48), c.next)
  else .ok (none, c)

/-- The two marks of the header in any order. -/
def header (c : Cursor) : Except Fault (Chomping × Option Nat × Cursor) := do
  let (mark, increment, c) ← match chomping? c with
    | some mark => do
      let (n, c) ← digit? c.next
      pure (mark, n, c)
    | none => do
      let (n, c) ← digit? c
      match n, chomping? c with
      | some _, some mark => pure (mark, n, c.next)
      | _, _ => pure (.clip, n, c)
  if !isSpaceOrBreakOrEnd c.here then throw .malformed
  let c := c.skipComment
  if !isBreakOrEnd c.here then throw .malformed
  return (mark, increment, c.lineBreak.2)

/-- The empty lines at the cursor and the largest column that their spaces reach. -/
def leading (fuel : Nat) (done : List Char) (deepest : Nat) (c : Cursor) :
    List Char × Nat × Cursor :=
  match fuel with
  | 0 => (done, deepest, c)
  | fuel + 1 =>
    if c.here == ' ' then leading fuel done (max deepest c.next.column) c.next
    else if isBreak c.here then
      let (b, c) := c.lineBreak
      leading fuel (done ++ b) deepest c
    else (done, deepest, c)

/-- The cursor behind the spaces before the column `indent`. -/
def skipIndent (indent : Nat) (fuel : Nat) (c : Cursor) : Cursor :=
  match fuel with
  | 0 => c
  | fuel + 1 => if c.column < indent && c.here == ' ' then skipIndent indent fuel c.next else c

/-- The empty lines at the cursor in a block of the given indentation. -/
def breaks (indent : Nat) (fuel : Nat) (done : List Char) (c : Cursor) : List Char × Cursor :=
  match fuel with
  | 0 => (done, c)
  | fuel + 1 =>
    let c := skipIndent indent indent c
    if isBreak c.here then
      let (b, c) := c.lineBreak
      breaks indent fuel (done ++ b) c
    else (done, c)

/-- The lines of the block: the text so far, the last line break and the empty lines behind it. -/
def body (folded : Bool) (indent : Nat) (fuel : Nat) (done pending : List Char) (c : Cursor) :
    List Char × List Char × List Char × Cursor :=
  match fuel with
  | 0 => (done, [], pending, c)
  | fuel + 1 =>
    let flush := !(c.here == ' ' || c.here == '\t')
    let (line, c) := c.span fun ch => !isBreakOrEnd ch
    let done := done ++ pending ++ line
    let (last, c) := c.lineBreak
    let (more, c) := breaks indent (c.rest.length + 1) [] c
    if c.column = indent && c.here != endMark then
      let joint :=
        if folded && last == ['\n'] && flush && !(c.here == ' ' || c.here == '\t') then
          if more.isEmpty then [' '] else []
        else last
      body folded indent fuel (done ++ joint) more c
    else (done, last, more, c)

/-- The block scalar at the cursor, which stands at its indicator, in a block of the given
indentation. -/
def scan (folded : Bool) (outer : Int) (c : Cursor) : Except Fault (String × Cursor) := do
  let (chomping, increment, c) ← header c.next
  let least := max 1 (outer + 1).toNat
  let (indent, first, c) := match increment with
    | none =>
      let (bs, deepest, c) := leading (c.rest.length + 1) [] 0 c
      (max least deepest, bs, c)
    | some n =>
      let indent := least + n - 1
      let (bs, c) := breaks indent (c.rest.length + 1) [] c
      (indent, bs, c)
  let (done, last, more, c) :=
    if c.column = indent && c.here != endMark then
      body folded indent (c.rest.length + 1) [] first c
    else ([], [], first, c)
  let text := match chomping with
    | .strip => done
    | .clip => done ++ last
    | .keep => done ++ last ++ more
  return (String.ofList (Text.heldChars text), c)

end Block
end Yaml
end ClientGen
