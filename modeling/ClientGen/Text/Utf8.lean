import ClientGen.Text.CodePoints

/-!
# UTF-8

The bytes of a file are read character by character. A fault names the bytes that form no character
and says why. A text is written as the bytes of its characters; a surrogate has none, so a text with
one cannot be written.
-/

namespace ClientGen
namespace Text
namespace Utf8

/-- Why bytes form no character. -/
inductive Problem
  | start
  | continuation
  | truncated
  deriving DecidableEq, Repr

/-- The bytes at the positions `first` to `last` form no character; `byte` is the first of them. -/
structure Fault where
  byte : UInt8
  first : Nat
  last : Nat
  problem : Problem
  deriving DecidableEq, Repr

/-- A character of which some bytes are still owed, the next one between `low` and `high`. -/
structure Pending where
  start : Nat
  lead : UInt8
  owed : Nat
  low : UInt8
  high : UInt8
  value : Nat

/-- What the first byte of a character above ASCII announces. The bounds of the second byte exclude
overlong forms, surrogates and values that are too large. -/
def Pending.ofLead? (start : Nat) (b : UInt8) : Option Pending :=
  if b < 0xC2 then none
  else if b < 0xE0 then some ⟨start, b, 1, 0x80, 0xBF, b.toNat - 0xC0⟩
  else if b < 0xF0 then
    some ⟨start, b, 2, if b == 0xE0 then 0xA0 else 0x80, if b == 0xED then 0x9F else 0xBF,
      b.toNat - 0xE0⟩
  else if b < 0xF5 then
    some ⟨start, b, 3, if b == 0xF0 then 0x90 else 0x80, if b == 0xF4 then 0x8F else 0xBF,
      b.toNat - 0xF0⟩
  else none

/-- Reads on from position `pos`; `done` holds the characters so far, the last one first. -/
def decodeFrom (pos : Nat) (pending : Option Pending) (done : List Char) :
    List UInt8 → Except Fault (List Char)
  | [] =>
    match pending with
    | none => .ok done.reverse
    | some p => .error ⟨p.lead, p.start, pos - 1, .truncated⟩
  | b :: rest =>
    match pending with
    | none =>
      if b < 0x80 then decodeFrom (pos + 1) none (Char.ofNat b.toNat :: done) rest
      else match Pending.ofLead? pos b with
        | none => .error ⟨b, pos, pos, .start⟩
        | some p => decodeFrom (pos + 1) (some p) done rest
    | some p =>
      if p.low ≤ b && b ≤ p.high then
        let value := p.value * 64 + (b.toNat - 0x80)
        if p.owed = 1 then decodeFrom (pos + 1) none (Char.ofNat value :: done) rest
        else
          decodeFrom (pos + 1)
            (some { p with owed := p.owed - 1, low := 0x80, high := 0xBF, value := value }) done rest
      else .error ⟨p.lead, p.start, pos - 1, .continuation⟩

/-- The characters that the bytes encode. -/
def decode (bs : List UInt8) : Except Fault (List Char) :=
  decodeFrom 0 none [] bs

/-- The code points at the positions `first` to `last` of a text are surrogates; `code` is the first of
them. -/
structure Unencodable where
  code : Nat
  first : Nat
  last : Nat
  deriving DecidableEq, Repr

/-- The first surrogates from position `pos` on, without those in front of them that `passes` lets
through. -/
def strayFrom (passes : Nat → Bool) (pos : Nat) : List Nat → Option Unencodable
  | [] => none
  | n :: rest =>
    if isSurrogate n && !passes n then
      some ⟨n, pos, pos + (rest.takeWhile isSurrogate).length⟩
    else strayFrom passes (pos + 1) rest

theorem strayFrom_eq_none_iff {passes : Nat → Bool} {pos : Nat} {ns : List Nat} :
    strayFrom passes pos ns = none ↔ ∀ n ∈ ns, isSurrogate n = true → passes n = true := by
  induction ns generalizing pos with
  | nil => simp [strayFrom]
  | cons n rest ih =>
    rw [strayFrom, List.forall_mem_cons]
    cases hs : isSurrogate n with
    | false => simp [ih]
    | true => cases hp : passes n <;> simp [ih]

/-- All code points of the text are characters. -/
def Encodable (s : String) : Prop :=
  ∀ n ∈ codePoints s.toList, isSurrogate n = false

instance (s : String) : Decidable (Encodable s) :=
  inferInstanceAs (Decidable (∀ n ∈ codePoints s.toList, isSurrogate n = false))

/-- The bytes of a text all of whose code points are characters. -/
def bytes (s : String) : List UInt8 :=
  (String.ofList ((codePoints s.toList).map Char.ofNat)).toUTF8.data.toList

/-- The bytes of a text. -/
def encode (s : String) : Except Unencodable (List UInt8) :=
  match strayFrom (fun _ => false) 0 (codePoints s.toList) with
  | some f => .error f
  | none => .ok (bytes s)

theorem encodable_iff {s : String} :
    Encodable s ↔ strayFrom (fun _ => false) 0 (codePoints s.toList) = none := by
  simp [Encodable, strayFrom_eq_none_iff]

theorem encode_of_encodable {s : String} (h : Encodable s) : encode s = .ok (bytes s) := by
  rw [encode, encodable_iff.mp h]

/-- A text has bytes just if all its code points are characters. -/
theorem encode_ok_iff {s : String} {bs : List UInt8} :
    encode s = .ok bs ↔ Encodable s ∧ bytes s = bs := by
  rw [encodable_iff, encode]
  cases strayFrom (fun _ => false) 0 (codePoints s.toList) <;> simp

theorem encode_error {s : String} {f : Unencodable} (h : encode s = .error f) : ¬ Encodable s := by
  intro he
  rw [encode_of_encodable he] at h
  cases h

end Utf8
end Text
end ClientGen
