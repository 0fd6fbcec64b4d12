import ClientGen.Decimal.Numeral
import ClientGen.Text.Digit
import ClientGen.Text.Utf8
import ClientGen.Yaml.Cursor
import ClientGen.Yaml.Fault
import ClientGen.Yaml.Quoted

/-!
# Names, tags and directives

What a YAML text says about its nodes and about itself: the names of anchors and aliases, tags with
their handles, and the directive lines at the front of a document.
-/

namespace ClientGen
namespace Yaml

def isNameChar (c : Char) : Bool :=
  c.isAlphanum || c == '-' || c == '_'

def isUriChar (c : Char) : Bool :=
  c.isAlphanum || "-;/?:@&=+$,_.!~*'()[]%".toList.contains c

/-- A tag as it is written: a handle that stands for a lead text, and the rest. -/
structure WrittenTag where
  handle : Option String
  rest : String

/-- A line at the front of a document. -/
inductive Directive
  | version (major : Nat)
  | handle (name lead : String)
  | other

namespace Property

/-- The name at the cursor, which ends before white space or punctuation. -/
def name (c : Cursor) : Except Fault (String × Cursor) :=
  let (run, c) := c.span isNameChar
  if run.isEmpty then .error .malformed
  else if isGap c.here || "?:,]\x7d%@`".toList.contains c.here then .ok (String.ofList run, c)
  else .error .malformed

/-- The bytes written by percent signs and two hexadecimal digits each. -/
def percentBytes (fuel : Nat) (done : List UInt8) (c : Cursor) :
    Except Fault (List UInt8 × Cursor) :=
  match fuel with
  | 0 => .error .malformed
  | fuel + 1 =>
    if c.here == '%' then
      match Text.hexValue? (c.peek 1), Text.hexValue? (c.peek 2) with
      | some a, some b => percentBytes fuel (done ++ [UInt8.ofNat (a * 16 + b)]) (c.skip 3)
      | _, _ => .error .malformed
    else .ok (done, c)

/-- The address at the cursor, after `done`. -/
def uriFrom (fuel : Nat) (done : List Char) (c : Cursor) : Except Fault (List Char × Cursor) :=
  match fuel with
  | 0 => .error .malformed
  | fuel + 1 =>
    if c.here == '%' then
      match percentBytes (c.rest.length + 1) [] c with
      | .error f => .error f
      | .ok (bs, c) =>
        match Text.Utf8.decode bs with
        | .error _ => .error .malformed
        | .ok cs => uriFrom fuel (done ++ cs) c
    else
      let (run, c) := c.span fun ch => isUriChar ch && ch != '%'
      if run.isEmpty then .ok (done, c) else uriFrom fuel (done ++ run) c

/-- The address at the cursor. -/
def uri (c : Cursor) : Except Fault (String × Cursor) :=
  if isUriChar c.here then
    match uriFrom (c.rest.length + 1) [] c with
    | .error f => .error f
    | .ok (cs, c) => .ok (String.ofList cs, c)
  else .error .malformed

/-- The handle at the cursor: an exclamation mark, or a name between two of them. -/
def handle (c : Cursor) : Except Fault (String × Cursor) :=
  if c.here != '!' then .error .malformed
  else if c.peek 1 == ' ' then .ok ("!", c.next)
  else
    let (run, after) := c.next.span isNameChar
    if after.here == '!' then .ok (String.ofList ('!' :: run ++ ['!']), after.next)
    else .error .malformed

/-- Whether a second exclamation mark stands in the word behind the first one. -/
def hasHandle (cs : List Char) : Bool :=
  (cs.takeWhile fun ch => !isSpaceOrBreakOrEnd ch).contains '!'

/-- The tag at the cursor, which stands at an exclamation mark. -/
def tag (c : Cursor) : Except Fault (WrittenTag × Cursor) := do
  let (tag, c) ←
    if c.peek 1 == '<' then do
      let (rest, c) ← uri (c.skip 2)
      if c.here != '>' then throw .malformed
      pure (WrittenTag.mk none rest, c.next)
    else if isGap (c.peek 1) then pure (WrittenTag.mk none "!", c.next)
    else if hasHandle (c.rest.drop 1) then do
      let (h, c) ← handle c
      let (rest, c) ← uri c
      pure (WrittenTag.mk (some h) rest, c)
    else do
      let (rest, c) ← uri c.next
      pure (WrittenTag.mk (some "!") rest, c)
  if isSpaceOrBreakOrEnd c.here then return (tag, c) else throw .malformed

/-- The whole number at the cursor. -/
def number (c : Cursor) : Except Fault (Nat × Cursor) :=
  let (run, c) := c.span Decimal.isDigit
  if run.isEmpty then .error .malformed else .ok (Decimal.ofDigits run, c)

/-- The value of a directive with the given name. -/
def directiveValue (name : String) (c : Cursor) : Except Fault (Directive × Cursor) := do
  if name == "YAML" then
    let (major, c) ← number (c.skipWhile (· == ' '))
    if c.here != '.' then throw .malformed
    let (_, c) ← number c.next
    if isSpaceOrBreakOrEnd c.here then return (.version major, c) else throw .malformed
  else if name == "TAG" then
    let (h, c) ← handle (c.skipWhile (· == ' '))
    if c.here != ' ' then throw .malformed
    let (lead, c) ← uri (c.skipWhile (· == ' '))
    if isSpaceOrBreakOrEnd c.here then return (.handle h lead, c) else throw .malformed
  else return (.other, c.skipWhile fun ch => !isBreakOrEnd ch)

/-- The directive line at the cursor, which stands at a percent sign. -/
def directive (c : Cursor) : Except Fault (Directive × Cursor) := do
  let (run, c) := c.next.span isNameChar
  if run.isEmpty || !isSpaceOrBreakOrEnd c.here then throw .malformed
  let (d, c) ← directiveValue (String.ofList run) c
  let c := c.skipComment
  if isBreakOrEnd c.here then return (d, c.lineBreak.2) else throw .malformed

end Property
end Yaml
end ClientGen
