import ClientGen.Text.CaseTable
import ClientGen.Text.CharRange

/-!
# Upper and lower case

The full case mappings: one character may become several, and a capital sigma at the end of a word
becomes the final form of the letter.
-/

namespace ClientGen
namespace Text

/-- The image of a character under a mapping given by sequences and runs. -/
def mapped (sequences : List (Nat × List Nat)) (runs : List CaseRun) (c : Char) : List Char :=
  match sequences.lookup c.toNat with
  | some ns => ns.map Char.ofNat
  | none => [Char.ofNat ((moved? c.toNat runs).getD c.toNat)]

/-- The upper case of one character. -/
def upperChar (c : Char) : List Char :=
  if c.toNat < 0x80 then [c.toUpper] else mapped upperSequences upperRuns c

/-- The lower case of one character, whatever its neighbours. -/
def lowerChar (c : Char) : List Char :=
  if c.toNat < 0x80 then [c.toLower] else mapped lowerSequences lowerRuns c

/-- Whether the nearest character that counts has case. -/
def nearestCased (cs : List Char) : Bool :=
  match cs.dropWhile fun c => inRanges c.toNat casePassedRanges with
  | [] => false
  | c :: _ => inRanges c.toNat casedRanges

/-- The lower case of a text that follows the characters `before`, the nearest one first. A capital
sigma after a letter and not before one takes its final form. -/
def lowerAfter (before : List Char) : List Char → List Char
  | [] => []
  | c :: rest =>
    (if c = 'Σ' then (if nearestCased before && !nearestCased rest then ['ς'] else ['σ'])
      else lowerChar c) ++ lowerAfter (c :: before) rest

/-- The lower case of a text. -/
def lower (cs : List Char) : List Char :=
  lowerAfter [] cs

/-- The upper case of the first character and the rest as it is. -/
def upperFirst : List Char → List Char
  | [] => []
  | c :: rest => upperChar c ++ rest

theorem upperChar_ascii {c : Char} (h : c.toNat < 0x80) : upperChar c = [c.toUpper] := by
  simp [upperChar, h]

theorem lowerChar_ascii {c : Char} (h : c.toNat < 0x80) : lowerChar c = [c.toLower] := by
  simp [lowerChar, h]

/-- Case in ASCII is decided character by character. -/
theorem lower_ascii {cs : List Char} (h : ∀ c ∈ cs, c.toNat < 0x80) :
    lower cs = cs.map Char.toLower := by
  have go (before : List Char) : lowerAfter before cs = cs.map Char.toLower := by
    induction cs generalizing before with
    | nil => rfl
    | cons c rest ih =>
      have hc : c.toNat < 0x80 := h c (by simp)
      have hs : c ≠ 'Σ' := by
        intro e
        subst e
        exact absurd hc (by decide)
      simp [lowerAfter, hs, lowerChar_ascii hc, ih (fun d hd => h d (by simp [hd]))]
  exact go []

end Text
end ClientGen
