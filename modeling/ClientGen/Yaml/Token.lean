import ClientGen.Yaml.Block
import ClientGen.Yaml.Plain
import ClientGen.Yaml.Property
import ClientGen.Yaml.Quoted

/-!
# Tokens of a YAML text

The lexer turns indentation into tokens that open and close block collections. A scalar may turn out
to be a key only when the colon behind it is read; until then its place among the tokens is kept,
and the tokens that make it a key are put in there.
-/

namespace ClientGen
namespace Yaml

inductive Token
  | streamEnd
  | directive (d : Directive)
  | documentStart
  | documentEnd
  | blockSequenceStart
  | blockMappingStart
  | blockEnd
  | flowSequenceStart
  | flowSequenceEnd
  | flowMappingStart
  | flowMappingEnd
  | blockEntry
  | flowEntry
  | key
  | value
  | alias (name : String)
  | anchor (name : String)
  | tag (t : WrittenTag)
  | scalar (text : String) (plain : Bool)

/-- A token that becomes a key if a colon follows: the number of tokens before it and its place. In a
block whose column it starts it has to become one. -/
structure KeyPlace where
  count : Nat
  required : Bool
  index : Nat
  line : Nat
  column : Nat

/-- The state of the lexer. The tokens so far are held last one first. `place` is the possible key of
the innermost collection, `outer` those of the flow collections around it. -/
structure Lexer where
  cursor : Cursor
  done : List Token
  count : Nat
  flow : Nat
  indent : Int
  indents : List Int
  allowKey : Bool
  place : Option KeyPlace
  outer : List (Option KeyPlace)

namespace Lexer

def start (cs : List Char) : Lexer :=
  ⟨Cursor.ofChars cs, [], 0, 0, -1, [], true, none, []⟩

def inFlow (l : Lexer) : Bool :=
  l.flow != 0

def push (l : Lexer) (t : Token) : Lexer :=
  { l with done := t :: l.done, count := l.count + 1 }

/-- The state with a token put in behind the first `place` tokens. -/
def insert (l : Lexer) (place : Nat) (t : Token) : Lexer :=
  let later := l.count - place
  { l with done := l.done.take later ++ t :: l.done.drop later, count := l.count + 1 }

/-- Whether a possible key can no longer become one: keys stand on one line and are not long. -/
def isStale (l : Lexer) (k : KeyPlace) : Bool :=
  k.line != l.cursor.line || l.cursor.index - k.index > 1024

/-- The possible key that is left once it may be stale. -/
def keepFresh (l : Lexer) (k : Option KeyPlace) : Except Fault (Option KeyPlace) :=
  match k with
  | none => .ok none
  | some k =>
    if l.isStale k then (if k.required then .error .malformed else .ok none) else .ok (some k)

/-- Drops the keys that can no longer become keys. -/
def dropStale (l : Lexer) : Except Fault Lexer := do
  let place ← l.keepFresh l.place
  let outer ← l.outer.mapM l.keepFresh
  return { l with place := place, outer := outer }

/-- Gives up the possible key of the innermost collection. -/
def dropKey (l : Lexer) : Except Fault Lexer :=
  match l.place with
  | some k => if k.required then .error .malformed else .ok { l with place := none }
  | none => .ok l

/-- Keeps the place of the next token, which may become a key. -/
def saveKey (l : Lexer) : Except Fault Lexer :=
  if l.allowKey then do
    let required := !l.inFlow && l.indent == (l.cursor.column : Int)
    let l ← l.dropKey
    return { l with place := some ⟨l.count, required, l.cursor.index, l.cursor.line,
      l.cursor.column⟩ }
  else .ok l

/-- Closes the block collections that are indented deeper than the column. -/
def unwind (l : Lexer) (column : Int) : Lexer :=
  if l.inFlow then l
  else
    let rec close (indents : List Int) (l : Lexer) : Lexer :=
      if l.indent > column then
        match indents with
        | [] => l
        | i :: rest => close rest { l.push .blockEnd with indent := i, indents := rest }
      else l
    close l.indents l

/-- Whether a block collection starts at the column, and the state inside it. -/
def deepen (l : Lexer) (column : Nat) : Option Lexer :=
  if l.indent < (column : Int) then
    some { l with indent := column, indents := l.indent :: l.indents }
  else none

/-- Opens a block collection at the cursor if one starts here. -/
def openBlock (l : Lexer) (t : Token) : Lexer :=
  match l.deepen l.cursor.column with
  | some l => l.push t
  | none => l

def move (l : Lexer) (c : Cursor) : Lexer :=
  { l with cursor := c }

/-- The state at the next token, behind spaces, comments and line breaks. -/
def skipGap (fuel : Nat) (l : Lexer) : Lexer :=
  match fuel with
  | 0 => l
  | fuel + 1 =>
    let c := l.cursor
    let c := if c.index = 0 && c.here == '\uFEFF' then c.next else c
    let c := c.skipComment
    if isBreak c.here then
      let l := l.move c.lineBreak.2
      skipGap fuel (if l.inFlow then l else { l with allowKey := true })
    else l.move c

def streamEnd (l : Lexer) : Except Fault Lexer := do
  let l ← (l.unwind (-1)).dropKey
  return l.push .streamEnd

def directive (l : Lexer) : Except Fault Lexer := do
  let l ← (l.unwind (-1)).dropKey
  let (d, c) ← Property.directive l.cursor
  return { (l.push (.directive d)).move c with allowKey := false }

def documentMark (l : Lexer) (t : Token) : Except Fault Lexer := do
  let l ← (l.unwind (-1)).dropKey
  return { (l.push t).move (l.cursor.skip 3) with allowKey := false }

def flowStart (l : Lexer) (t : Token) : Except Fault Lexer := do
  let l ← l.saveKey
  return { (l.push t).move l.cursor.next with
    flow := l.flow + 1, allowKey := true, place := none, outer := l.place :: l.outer }

def flowEnd (l : Lexer) (t : Token) : Except Fault Lexer := do
  let l ← l.dropKey
  return { (l.push t).move l.cursor.next with
    flow := l.flow - 1, allowKey := false, place := l.outer.headD none, outer := l.outer.tail }

def flowEntry (l : Lexer) : Except Fault Lexer := do
  let l ← l.dropKey
  return { (l.push .flowEntry).move l.cursor.next with allowKey := true }

def blockEntry (l : Lexer) : Except Fault Lexer := do
  if !l.inFlow && !l.allowKey then throw .malformed
  let l := if l.inFlow then l else l.openBlock .blockSequenceStart
  let l ← l.dropKey
  return { (l.push .blockEntry).move l.cursor.next with allowKey := true }

def keyMark (l : Lexer) : Except Fault Lexer := do
  if !l.inFlow && !l.allowKey then throw .malformed
  let l := if l.inFlow then l else l.openBlock .blockMappingStart
  let l ← l.dropKey
  return { (l.push .key).move l.cursor.next with allowKey := !l.inFlow }

def valueMark (l : Lexer) : Except Fault Lexer := do
  match l.place with
  | some k =>
    let l := { l.insert k.count .key with place := none }
    let l :=
      if l.inFlow then l
      else match l.deepen k.column with
        | some l => l.insert k.count .blockMappingStart
        | none => l
    return { (l.push .value).move l.cursor.next with allowKey := false }
  | none =>
    if !l.inFlow && !l.allowKey then throw .malformed
    let l := if l.inFlow then l else l.openBlock .blockMappingStart
    let l ← l.dropKey
    return { (l.push .value).move l.cursor.next with allowKey := !l.inFlow }

/-- A token that may be a key and behind which no key can start. -/
def keyToken (l : Lexer) (scan : Cursor → Except Fault (Token × Cursor)) : Except Fault Lexer := do
  let l ← l.saveKey
  let (t, c) ← scan l.cursor
  return { (l.push t).move c with allowKey := false }

def blockScalar (l : Lexer) (folded : Bool) : Except Fault Lexer := do
  let l ← l.dropKey
  let (s, c) ← Block.scan folded l.indent l.cursor
  return { (l.push (.scalar s false)).move c with allowKey := true }

def plainScalar (l : Lexer) : Except Fault Lexer := do
  let l ← l.saveKey
  let (s, broken, c) := Plain.scan l.inFlow l.indent l.cursor
  return { (l.push (.scalar s true)).move c with allowKey := broken }

/-- Whether a plain scalar can start at the cursor. -/
def atPlain (l : Lexer) : Bool :=
  let ch := l.cursor.here
  !(isGap ch || "-?:,[]\x7b\x7d#&*!|>'\"%@`".toList.contains ch) ||
    (!isGap (l.cursor.peek 1) && (ch == '-' || (!l.inFlow && (ch == '?' || ch == ':'))))

/-- Reads the next token. -/
def step (l : Lexer) : Except Fault Lexer := do
  let l ← (l.skipGap (l.cursor.rest.length + 1)).dropStale
  let l := l.unwind l.cursor.column
  let c := l.cursor
  let ch := c.here
  let gapFollows := isGap (c.peek 1)
  if ch == endMark then l.streamEnd
  else if ch == '%' && c.column == 0 then l.directive
  else if ch == '-' && c.column == 0 && c.atSeparator then l.documentMark .documentStart
  else if ch == '.' && c.column == 0 && c.atSeparator then l.documentMark .documentEnd
  else if ch == '[' then l.flowStart .flowSequenceStart
  else if ch == '\x7b' then l.flowStart .flowMappingStart
  else if ch == ']' then l.flowEnd .flowSequenceEnd
  else if ch == '\x7d' then l.flowEnd .flowMappingEnd
  else if ch == ',' then l.flowEntry
  else if ch == '-' && gapFollows then l.blockEntry
  else if ch == '?' && (l.inFlow || gapFollows) then l.keyMark
  else if ch == ':' && (l.inFlow || gapFollows) then l.valueMark
  else if ch == '*' then l.keyToken fun c => do
    let (s, c) ← Property.name c.next
    return (.alias s, c)
  else if ch == '&' then l.keyToken fun c => do
    let (s, c) ← Property.name c.next
    return (.anchor s, c)
  else if ch == '!' then l.keyToken fun c => do
    let (t, c) ← Property.tag c
    return (.tag t, c)
  else if ch == '|' && !l.inFlow then l.blockScalar false
  else if ch == '>' && !l.inFlow then l.blockScalar true
  else if ch == '\'' || ch == '"' then l.keyToken fun c => do
    let (s, c) ← Quoted.scan c
    return (.scalar s false, c)
  else if l.atPlain then l.plainScalar
  else throw .malformed

/-- Reads all tokens up to the end of the stream. -/
def run (fuel : Nat) (l : Lexer) : Except Fault (List Token) :=
  match fuel with
  | 0 => .error .malformed
  | fuel + 1 =>
    match l.step with
    | .error f => .error f
    | .ok l =>
      match l.done with
      | .streamEnd :: _ => .ok l.done.reverse
      | _ => run fuel l

end Lexer

/-- The tokens of a text. -/
def tokens (cs : List Char) : Except Fault (List Token) :=
  (Lexer.start cs).run (cs.length + 2)

end Yaml
end ClientGen
