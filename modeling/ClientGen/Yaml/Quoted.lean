import ClientGen.Text.CodePoints
import ClientGen.Text.Digit
import ClientGen.Yaml.Cursor
import ClientGen.Yaml.Fault

/-!
# Quoted scalars

A scalar between single quotes knows one escape, the doubled quote; between double quotes a
backslash starts one. An escape may state any code point, a surrogate too, and each stands by itself.
Line breaks fold: one becomes a space, of several the first is dropped.
-/

namespace ClientGen
namespace Yaml
namespace Quoted

/-- The characters that a backslash and one letter stand for. -/
def escapes : List (Char × Char) :=
  [('0', '\x00'), ('a', '\x07'), ('b', '\x08'), ('t', '\t'), ('\t', '\t'), ('n', '\n'),
    ('v', '\x0b'), ('f', '\x0c'), ('r', '\r'), ('e', '\x1b'), (' ', ' '), ('"', '"'),
    ('\\', '\\'), ('/', '/'), ('N', '\u0085'), ('_', '\u00a0'), ('L', '\u2028'),
    ('P', '\u2029')]

/-- The number of hexadecimal digits after a backslash and this letter. -/
def codeWidth? : Char → Option Nat
  | 'x' => some 2
  | 'u' => some 4
  | 'U' => some 8
  | _ => none

/-- The number that hexadecimal digits write. -/
def hexNumber? (cs : List Char) : Option Nat :=
  cs.foldl (fun n c => do return (← n) * 16 + (← Text.hexValue? c)) (some 0)

/-- The line breaks at the cursor, with the blanks between them passed over. -/
def breaks (fuel : Nat) (done : List Char) (c : Cursor) : Except Fault (List Char × Cursor) :=
  match fuel with
  | 0 => .error .malformed
  | fuel + 1 =>
    if c.atSeparator then .error .malformed
    else
      let c := c.skipWhile fun ch => ch == ' ' || ch == '\t'
      if isBreak c.here then
        let (b, c) := c.lineBreak
        breaks fuel (done ++ b) c
      else .ok (done, c)

/-- The blanks and line breaks at the cursor as the text that they fold to. -/
def spaces (c : Cursor) : Except Fault (List Char × Cursor) :=
  let (blanks, c) := c.span fun ch => ch == ' ' || ch == '\t'
  if c.here == endMark then .error .malformed
  else if isBreak c.here then
    let (first, c) := c.lineBreak
    match breaks (c.rest.length + 1) [] c with
    | .error f => .error f
    | .ok (more, c) =>
      let head := if first != ['\n'] then first else if more.isEmpty then [' '] else []
      .ok (head ++ more, c)
  else .ok (blanks, c)

/-- The escape at the cursor, which stands behind the backslash. -/
def escape (c : Cursor) : Except Fault (List Char × Cursor) :=
  match escapes.lookup c.here with
  | some ch => .ok ([ch], c.next)
  | none =>
    match codeWidth? c.here with
    | some width =>
      let ds := c.next.rest.take width
      match hexNumber? ds with
      | some n =>
        if ds.length < width then .error .malformed
        else if n > 0x7FFFFFFF then .error .wideCodePoint
        else if n > 0x10FFFF then .error .codePoint
        else .ok (Text.held n, c.next.skip width)
      | none => .error .malformed
    | none =>
      if isBreak c.here then
        let c := c.lineBreak.2
        breaks (c.rest.length + 1) [] c
      else .error .malformed

/-- The text at the cursor up to the next blank, line break or closing quote, after `done`, the
last character first. -/
def word (double : Bool) (fuel : Nat) (done : List Char) (c : Cursor) :
    Except Fault (List Char × Cursor) :=
  match fuel with
  | 0 => .error .malformed
  | fuel + 1 =>
    let (run, c) := c.span fun ch => !(ch == '\'' || ch == '"' || ch == '\\' || isGap ch)
    let done := (Text.heldChars run).reverse ++ done
    let ch := c.here
    if !double && ch == '\'' && c.peek 1 == '\'' then word double fuel ('\'' :: done) (c.skip 2)
    else if (double && ch == '\'') || (!double && (ch == '"' || ch == '\\')) then
      word double fuel (ch :: done) c.next
    else if double && ch == '\\' then
      match escape c.next with
      | .error f => .error f
      | .ok (cs, c) => word double fuel (cs.reverse ++ done) c
    else .ok (done, c)

/-- The rest of a scalar up to its closing quote, after `done`, the last character first. -/
def body (quote : Char) (fuel : Nat) (done : List Char) (c : Cursor) :
    Except Fault (List Char × Cursor) :=
  match fuel with
  | 0 => .error .malformed
  | fuel + 1 =>
    let double := quote == '"'
    match word double (c.rest.length + 1) done c with
    | .error f => .error f
    | .ok (done, c) =>
      if c.here == quote then .ok (done.reverse, c.next)
      else
        match spaces c with
        | .error f => .error f
        | .ok (gap, c) => body quote fuel (gap.reverse ++ done) c

/-- The quoted scalar at the cursor. -/
def scan (c : Cursor) : Except Fault (String × Cursor) :=
  match body c.here (c.rest.length + 1) [] c.next with
  | .error f => .error f
  | .ok (cs, c) => .ok (String.ofList cs, c)

end Quoted
end Yaml
end ClientGen
