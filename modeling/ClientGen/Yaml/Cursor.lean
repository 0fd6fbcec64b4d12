/-!
# Places in a YAML text

A cursor is the rest of a text together with the line and column where it starts. Behind the end of
the text stands the end mark, a character that no text contains.
-/

namespace ClientGen
namespace Yaml

/-- The rest of a text and its place. -/
structure Cursor where
  rest : List Char
  index : Nat
  line : Nat
  column : Nat

def endMark : Char := '\x00'

def isBreak (c : Char) : Bool :=
  c == '\n' || c == '\r' || c == '\u0085' || c == '\u2028' || c == '\u2029'

def isBreakOrEnd (c : Char) : Bool :=
  isBreak c || c == endMark

/-- A space, a tabulator, a line break or the end. -/
def isGap (c : Char) : Bool :=
  c == ' ' || c == '\t' || isBreakOrEnd c

/-- A space, a line break or the end. -/
def isSpaceOrBreakOrEnd (c : Char) : Bool :=
  c == ' ' || isBreakOrEnd c

namespace Cursor

def ofChars (cs : List Char) : Cursor :=
  ⟨cs, 0, 0, 0⟩

/-- The character `k` places ahead. -/
def peek (c : Cursor) (k : Nat) : Char :=
  c.rest.getD k endMark

/-- The character at the cursor. -/
def here (c : Cursor) : Char :=
  c.peek 0

/-- The cursor one character on. A byte order mark takes no column. -/
def next (c : Cursor) : Cursor :=
  match c.rest with
  | [] => c
  | ch :: rest =>
    if isBreak ch && !(ch == '\r' && rest.head? == some '\n') then
      ⟨rest, c.index + 1, c.line + 1, 0⟩
    else ⟨rest, c.index + 1, c.line, if ch == '\uFEFF' then c.column else c.column + 1⟩

/-- The cursor `n` characters on. -/
def skip (c : Cursor) : Nat → Cursor
  | 0 => c
  | n + 1 => c.next.skip n

/-- The longest run of characters with the property, and the cursor behind it. -/
def span (c : Cursor) (p : Char → Bool) : List Char × Cursor :=
  let run := c.rest.takeWhile p
  (run, c.skip run.length)

def skipWhile (c : Cursor) (p : Char → Bool) : Cursor :=
  (c.span p).2

/-- The line break at the cursor, if there is one, and the cursor behind it. Breaks are written as
a line feed, except the two separators. -/
def lineBreak (c : Cursor) : List Char × Cursor :=
  let ch := c.here
  if ch == '\r' && c.peek 1 == '\n' then (['\n'], c.skip 2)
  else if ch == '\n' || ch == '\r' || ch == '\u0085' then (['\n'], c.next)
  else if isBreak ch then ([ch], c.next)
  else ([], c)

/-- Whether a line of three hyphens or three points starts at the cursor. -/
def atSeparator (c : Cursor) : Bool :=
  match c.rest with
  | '-' :: '-' :: '-' :: _ | '.' :: '.' :: '.' :: _ => isGap (c.peek 3)
  | _ => false

/-- The cursor behind the spaces and behind a comment, at the end of a line. -/
def skipComment (c : Cursor) : Cursor :=
  let c := c.skipWhile (· == ' ')
  if c.here == '#' then c.skipWhile fun ch => !isBreakOrEnd ch else c

end Cursor

end Yaml
end ClientGen
