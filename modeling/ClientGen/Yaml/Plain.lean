import ClientGen.Text.CodePoints
import ClientGen.Yaml.Cursor

/-!
# Plain scalars

A scalar without quotes ends before a colon or a comment, in a flow collection also before its
punctuation, and in a block where the indentation falls back. Its line breaks fold.
-/

namespace ClientGen
namespace Yaml
namespace Plain

/-- The number of characters that belong to the scalar without a gap. -/
def runLength (inFlow : Bool) : List Char → Nat
  | [] => 0
  | ch :: rest =>
    let follower := rest.headD endMark
    let ends := isGap ch
      || (ch == ':' && (isGap follower || (inFlow && ",[]\x7b\x7d".toList.contains follower)))
      || (inFlow && ",?[]\x7b\x7d".toList.contains ch)
    if ends then 0 else runLength inFlow rest + 1

/-- The further line breaks at the cursor, and whether a separator line stops the scalar. -/
def moreBreaks (fuel : Nat) (done : List Char) (c : Cursor) : List Char × Bool × Cursor :=
  match fuel with
  | 0 => (done, false, c)
  | fuel + 1 =>
    if c.here == ' ' then moreBreaks fuel done c.next
    else if isBreak c.here then
      let (b, c) := c.lineBreak
      if c.atSeparator then (done ++ b, true, c) else moreBreaks fuel (done ++ b) c
    else (done, false, c)

/-- The gap at the cursor as the text that it folds to, and whether it holds a line break. -/
def gap (c : Cursor) : List Char × Bool × Cursor :=
  let (blanks, c) := c.span (· == ' ')
  if isBreak c.here then
    let (first, c) := c.lineBreak
    if c.atSeparator then ([], true, c)
    else
      let (more, stopped, c) := moreBreaks (c.rest.length + 1) [] c
      if stopped then ([], true, c)
      else
        let head := if first != ['\n'] then first else if more.isEmpty then [' '] else []
        (head ++ more, true, c)
  else (blanks, false, c)

/-- The rest of a scalar after `done`, the last character first, and after the gap `between`.
`broken` tells whether that gap holds a line break, which is the answer if the scalar ends here. -/
def body (inFlow : Bool) (indent : Int) (fuel : Nat) (done between : List Char) (broken : Bool)
    (c : Cursor) : List Char × Bool × Cursor :=
  match fuel with
  | 0 => (done, broken, c)
  | fuel + 1 =>
    if c.here == '#' then (done, broken, c)
    else
      let n := runLength inFlow c.rest
      if n = 0 then (done, broken, c)
      else
        let done := (c.rest.take n).reverse ++ between.reverse ++ done
        let (space, broken, c) := gap (c.skip n)
        if space.isEmpty || c.here == '#' || (!inFlow && (c.column : Int) < indent) then
          (done, broken, c)
        else body inFlow indent fuel done space broken c

/-- The plain scalar at the cursor in a block of the given indentation, and whether a line break
follows it. -/
def scan (inFlow : Bool) (indent : Int) (c : Cursor) : String × Bool × Cursor :=
  let (done, broken, c) := body inFlow (indent + 1) (c.rest.length + 1) [] [] false c
  (String.ofList (Text.heldChars done.reverse), broken, c)

end Plain
end Yaml
end ClientGen
