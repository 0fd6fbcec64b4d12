import ClientGen.Decimal.Numeral
import ClientGen.Json.Fault
import ClientGen.Text.CodePoints
import ClientGen.Text.Digit
import ClientGen.Value.Basic

/-!
# Reading JSON

The value that a JSON text writes. Besides the standard the three words `NaN`, `Infinity` and
`-Infinity` are numbers. Of a repeated key the first place and the last value count.
-/

namespace ClientGen
namespace Json

open Decimal

/-- The rest of a text and the position where it starts. -/
structure Cursor where
  rest : List Char
  pos : Nat

/-- Blank characters of the format. -/
def isSpace (c : Char) : Bool :=
  c == ' ' || c == '\t' || c == '\n' || c == '\r'

/-- The cursor after the blanks. -/
def skipFrom (pos : Nat) : List Char → Cursor
  | [] => ⟨[], pos⟩
  | c :: rest => if isSpace c then skipFrom (pos + 1) rest else ⟨c :: rest, pos⟩

def Cursor.skip (c : Cursor) : Cursor :=
  skipFrom c.pos c.rest

/-- The number that four hexadecimal digits write. -/
def hexFour? (a b c d : Char) : Option Nat := do
  let w ← Text.hexValue? a
  let x ← Text.hexValue? b
  let y ← Text.hexValue? c
  let z ← Text.hexValue? d
  return ((w * 16 + x) * 16 + y) * 16 + z

/-- The character that a backslash and this letter stand for. -/
def escape? : Char → Option Char
  | '"' => some '"'
  | '\\' => some '\\'
  | '/' => some '/'
  | 'b' => some '\x08'
  | 'f' => some '\x0c'
  | 'n' => some '\n'
  | 'r' => some '\r'
  | 't' => some '\t'
  | _ => none

def isHighSurrogate (n : Nat) : Bool := 0xD800 ≤ n && n ≤ 0xDBFF

def isLowSurrogate (n : Nat) : Bool := 0xDC00 ≤ n && n ≤ 0xDFFF

/-- The code points of a row of code units and code points: two surrogates that follow each other
properly are one character, any other surrogate stays by itself. -/
def joined : List Nat → List Nat
  | [] => []
  | [n] => [n]
  | n :: m :: rest =>
    if isHighSurrogate n && isLowSurrogate m then
      (0x10000 + (n - 0xD800) * 0x400 + (m - 0xDC00)) :: joined rest
    else n :: joined (m :: rest)

/-- The characters that a text holds code units and code points as. -/
def ofUnits (units : List Nat) : List Char :=
  (joined units).flatMap Text.held

theorem joined_le {units : List Nat} (h : ∀ u ∈ units, u ≤ 0x10FFFF) :
    ∀ n ∈ joined units, n ≤ 0x10FFFF := by
  induction units using joined.induct with
  | case1 => simp [joined]
  | case2 n => simpa [joined] using h
  | case3 n m rest hp ih =>
    have hp' := hp
    simp only [isHighSurrogate, isLowSurrogate, Bool.and_eq_true, decide_eq_true_eq] at hp'
    rw [joined, if_pos hp]
    refine List.forall_mem_cons.mpr ⟨by omega, ih fun u hu => h u ?_⟩
    exact List.mem_cons_of_mem _ (List.mem_cons_of_mem _ hu)
  | case4 n m rest hp ih =>
    obtain ⟨hn, hrest⟩ := List.forall_mem_cons.mp h
    rw [joined, if_neg hp]
    exact List.forall_mem_cons.mpr ⟨hn, ih hrest⟩

/-- The text has the code points that the units stand for, also such as are no characters. -/
theorem codePoints_ofUnits {units : List Nat} (h : ∀ u ∈ units, u ≤ 0x10FFFF) :
    Text.codePoints (ofUnits units) = joined units :=
  Text.codePoints_flatMap_held (joined_le h)

/-- Reads on inside a text whose opening quote stands at `start`; `done` holds its code units so
far, the last one first. An escape by code unit needs a character after it. -/
def textFrom (start pos : Nat) (done : List Nat) : List Char → Except Fault (String × Cursor)
  | [] => .error ⟨.unterminated, start⟩
  | '"' :: rest => .ok (String.ofList (ofUnits done.reverse), ⟨rest, pos + 1⟩)
  | '\\' :: 'u' :: a :: b :: c :: d :: rest =>
    if rest.isEmpty then .error ⟨.unicodeEscape, pos + 1⟩
    else match hexFour? a b c d with
      | none => .error ⟨.unicodeEscape, pos + 1⟩
      | some n => textFrom start (pos + 6) (n :: done) rest
  | '\\' :: 'u' :: _ => .error ⟨.unicodeEscape, pos + 1⟩
  | '\\' :: c :: rest =>
    match escape? c with
    | some e => textFrom start (pos + 2) (e.toNat :: done) rest
    | none => .error ⟨.escape, pos⟩
  | ['\\'] => .error ⟨.unterminated, start⟩
  | c :: rest =>
    if c.toNat < 0x20 then .error ⟨.control, pos⟩
    else textFrom start (pos + 1) (c.toNat :: done) rest

/-- The number at the front of a text without its sign. A number without point and exponent is
whole. -/
def unsignedNumber? (negative : Bool) (cs : List Char) : Option (Value × List Char) :=
  let (whole, rest) := match cs with
    | '0' :: rest => (['0'], rest)
    | _ => spanDigits cs
  if whole.isEmpty then none
  else
    let (places, rest) := fraction rest
    let float (e : Int) : Value :=
      .float (Binary64.ofDecimal negative (ofDigits (whole ++ places)) (e - places.length))
    match exponent? rest with
    | some (e, rest) => some (float e, rest)
    | none =>
      if places.isEmpty then
        some (.int (if negative then -(ofDigits whole : Int) else ofDigits whole), rest)
      else some (float 0, rest)

/-- The number at the front of a text. -/
def number? (cs : List Char) : Option (Value × List Char) :=
  match cs with
  | '-' :: rest => unsignedNumber? true rest
  | _ => unsignedNumber? false cs

/-- The words that are values. -/
def words : List (List Char × Value) :=
  [("null".toList, .null), ("true".toList, .bool true), ("false".toList, .bool false),
    ("NaN".toList, .float .nan), ("Infinity".toList, .float (.infinite false)),
    ("-Infinity".toList, .float (.infinite true))]

/-- The word or number at the cursor. -/
def plainValue (c : Cursor) : Except Fault (Value × Cursor) :=
  match words.find? fun w => w.1.isPrefixOf c.rest with
  | some (w, v) => .ok (v, ⟨c.rest.drop w.length, c.pos + w.length⟩)
  | none =>
    match number? c.rest with
    | some (v, rest) => .ok (v, ⟨rest, c.pos + (c.rest.length - rest.length)⟩)
    | none => .error ⟨.value, c.pos⟩

mutual

/-- The value at the cursor. -/
def readValue : Nat → Cursor → Except Fault (Value × Cursor)
  | 0, c => .error ⟨.value, c.pos⟩
  | fuel + 1, c =>
    match c.rest with
    | '"' :: rest =>
      match textFrom c.pos (c.pos + 1) [] rest with
      | .error f => .error f
      | .ok (s, c) => .ok (.text s, c)
    | '[' :: rest =>
      let c := skipFrom (c.pos + 1) rest
      match c.rest with
      | ']' :: rest => .ok (.list [], ⟨rest, c.pos + 1⟩)
      | _ => readItems fuel [] c
    | '{' :: rest =>
      let c := skipFrom (c.pos + 1) rest
      match c.rest with
      | '}' :: rest => .ok (.map [], ⟨rest, c.pos + 1⟩)
      | _ => readEntries fuel [] c
    | _ => plainValue c

/-- The items of a list from the cursor on, after those in `done`, the last one first. -/
def readItems : Nat → List Value → Cursor → Except Fault (Value × Cursor)
  | 0, _, c => .error ⟨.value, c.pos⟩
  | fuel + 1, done, c =>
    match readValue fuel c with
    | .error f => .error f
    | .ok (v, c) =>
      let c := c.skip
      match c.rest with
      | ']' :: rest => .ok (.list (v :: done).reverse, ⟨rest, c.pos + 1⟩)
      | ',' :: rest => readItems fuel (v :: done) (skipFrom (c.pos + 1) rest)
      | _ => .error ⟨.comma, c.pos⟩

/-- The entries of a mapping from the cursor on, after those in `done`, the last one first. -/
def readEntries : Nat → List (Value × Value) → Cursor → Except Fault (Value × Cursor)
  | 0, _, c => .error ⟨.value, c.pos⟩
  | fuel + 1, done, c =>
    match c.rest with
    | '"' :: rest =>
      match textFrom c.pos (c.pos + 1) [] rest with
      | .error f => .error f
      | .ok (key, c) =>
        let c := c.skip
        match c.rest with
        | ':' :: rest =>
          match readValue fuel (skipFrom (c.pos + 1) rest) with
          | .error f => .error f
          | .ok (v, c) =>
            let done := (.text key, v) :: done
            let c := c.skip
            match c.rest with
            | '}' :: rest => .ok (.map (Value.ofEntries done.reverse), ⟨rest, c.pos + 1⟩)
            | ',' :: rest => readEntries fuel done (skipFrom (c.pos + 1) rest)
            | _ => .error ⟨.comma, c.pos⟩
        | _ => .error ⟨.colon, c.pos⟩
    | _ => .error ⟨.propertyName, c.pos⟩

end

/-- The value that a whole text writes. -/
def read (cs : List Char) : Except Fault Value :=
  if cs.head? = some '\uFEFF' then .error ⟨.byteOrderMark, 0⟩
  else
    match readValue (2 * cs.length + 4) (skipFrom 0 cs) with
    | .error f => .error f
    | .ok (v, c) =>
      let c := c.skip
      if c.rest.isEmpty then .ok v else .error ⟨.extraData, c.pos⟩

end Json
end ClientGen
