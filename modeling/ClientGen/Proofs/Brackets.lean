import ClientGen.Proofs.CaseImages
import ClientGen.Text.Listed

/-! Brackets in texts. A text is nested if each bracket that closes is that of the last one still
open, and none is left open. Texts that are put together have the brackets of their parts, and no
change of case brings in a bracket. -/

namespace ClientGen
namespace Text

/-! ## Nested words -/

/-- The brackets that open, each with the one that closes it. -/
def pairs : List (Char × Char) :=
  [('(', ')'), ('[', ']'), ('\x7b', '\x7d')]

def isBracket (c : Char) : Bool :=
  pairs.any fun p => c == p.1 || c == p.2

/-- The brackets of a text in order. -/
def brackets (s : String) : List Char :=
  s.toList.filter isBracket

/-- A word of brackets in which each is closed, and only after all those that were opened behind it.
-/
inductive Nested : List Char → Prop
  | nil : Nested []
  | pair {opening closing : Char} {inner rest : List Char} (h : (opening, closing) ∈ pairs)
    (hi : Nested inner) (hr : Nested rest) : Nested (opening :: (inner ++ closing :: rest))

/-- The brackets that are awaited behind a word, the next one first, if those of the stack were
awaited before it and each bracket of the word that closes was the next one. -/
def awaited : List Char → List Char → Option (List Char)
  | stack, [] => some stack
  | stack, c :: rest =>
    match pairs.lookup c with
    | some closing => awaited (closing :: stack) rest
    | none =>
      match stack with
      | [] => none
      | closing :: below => if c = closing then awaited below rest else none

theorem awaited_append (stack a b : List Char) :
    awaited stack (a ++ b) = (awaited stack a).bind fun s => awaited s b := by
  induction a generalizing stack with
  | nil => rfl
  | cons c rest ih =>
    rw [List.cons_append]
    simp only [awaited]
    split
    · exact ih _
    · split
      · rfl
      · split
        · exact ih _
        · rfl

theorem lookup_of_mem_pairs {opening closing : Char} (h : (opening, closing) ∈ pairs) :
    pairs.lookup opening = some closing ∧ pairs.lookup closing = none := by
  simp only [pairs, List.mem_cons, Prod.mk.injEq, List.not_mem_nil, or_false] at h
  rcases h with ⟨rfl, rfl⟩ | ⟨rfl, rfl⟩ | ⟨rfl, rfl⟩ <;> decide

/-- A nested word leaves what was awaited before it. -/
theorem Nested.awaited_eq {w : List Char} (h : Nested w) (stack : List Char) :
    awaited stack w = some stack := by
  induction h generalizing stack with
  | nil => rfl
  | @pair opening closing inner rest h _ _ hi hr =>
    obtain ⟨hopening, hclosing⟩ := lookup_of_mem_pairs h
    simp only [awaited, hopening, awaited_append, hi, Option.bind_some, hclosing, if_true, hr]

/-- A word that closes the brackets of a stack, with nested words around them. -/
def Closing : List Char → List Char → Prop
  | [], w => Nested w
  | closing :: below, w => ∃ inner rest, w = inner ++ closing :: rest ∧ Nested inner ∧
      Closing below rest

theorem Closing.pair {opening closing : Char} {stack w : List Char} (h : (opening, closing) ∈ pairs)
    (hw : Closing (closing :: stack) w) : Closing stack (opening :: w) := by
  obtain ⟨inner, rest, rfl, hinner, hrest⟩ := hw
  cases stack with
  | nil => exact Nested.pair h hinner hrest
  | cons next below =>
    obtain ⟨more, last, rfl, hmore, hlast⟩ := hrest
    exact ⟨opening :: (inner ++ closing :: more), last, by simp, Nested.pair h hinner hmore, hlast⟩

theorem closing_of_awaited {stack w : List Char} (h : awaited stack w = some []) :
    Closing stack w := by
  induction w generalizing stack with
  | nil =>
    obtain rfl : stack = [] := Option.some.inj h
    exact .nil
  | cons c rest ih =>
    simp only [awaited] at h
    split at h
    · next closing hl =>
      obtain ⟨front, back, he, -⟩ := List.lookup_eq_some_iff.mp hl
      exact .pair (by simp [he]) (ih h)
    · split at h
      · cases h
      · split at h
        · next closing below hc =>
          exact ⟨[], rest, by rw [hc, List.nil_append], .nil, ih h⟩
        · cases h

/-- A word is nested just if each bracket that closes is the next one awaited, and none is awaited
at its end. -/
theorem nested_iff {w : List Char} : Nested w ↔ awaited [] w = some [] :=
  ⟨fun h => h.awaited_eq [], fun h => show Closing [] w from closing_of_awaited h⟩

instance (w : List Char) : Decidable (Nested w) :=
  decidable_of_iff _ nested_iff.symm

theorem Nested.append {a b : List Char} (ha : Nested a) (hb : Nested b) : Nested (a ++ b) := by
  rw [nested_iff, awaited_append, ha.awaited_eq, Option.bind_some, hb.awaited_eq]

theorem nested_flatMap {ls : List String} (h : ∀ l ∈ ls, Nested (brackets l)) :
    Nested (ls.flatMap brackets) := by
  induction ls with
  | nil => exact .nil
  | cons l rest ih =>
    rw [List.flatMap_cons]
    exact .append (h l (by simp)) (ih fun l' hl => h l' (by simp [hl]))

/-! ## Brackets of texts -/

/-- A text without brackets. -/
def Unbracketed (s : String) : Prop :=
  brackets s = []

instance (s : String) : Decidable (Unbracketed s) :=
  inferInstanceAs (Decidable (_ = _))

theorem unbracketed_iff {s : String} :
    Unbracketed s ↔ ∀ ch, isBracket ch = true → ch ∉ s.toList := by
  rw [Unbracketed, brackets, List.filter_eq_nil_iff]
  exact ⟨fun h ch hb hm => h ch hm hb, fun h ch hm hb => h ch hb hm⟩

@[simp] theorem brackets_append (a b : String) : brackets (a ++ b) = brackets a ++ brackets b := by
  simp [brackets]

/-- The brackets of a literal, from its characters. -/
theorem brackets_literal (cs : List Char) : brackets (String.ofList cs) = cs.filter isBracket := by
  rw [brackets, String.toList_ofList]

theorem brackets_unlines (ls : List String) : brackets (unlines ls) = ls.flatMap brackets := by
  induction ls with
  | nil => rfl
  | cons l rest ih =>
    cases rest with
    | nil => simp [unlines_singleton]
    | cons m ms =>
      rw [unlines_cons_of_ne_nil l (by simp), brackets_append, brackets_append, ih,
        show brackets "\n" = [] from rfl, List.append_nil]
      rfl

theorem brackets_concat (ls : List String) : brackets (concat ls) = ls.flatMap brackets := by
  rw [brackets, concat, String.toList_ofList, List.filter_flatMap]
  rfl

theorem unbracketed_listed {ls : List String} (h : ∀ l ∈ ls, Unbracketed l) :
    Unbracketed (listed ls) := by
  induction ls with
  | nil => rfl
  | cons l rest ih =>
    have hl : brackets l = [] := h l (by simp)
    have hrest : brackets (listed rest) = [] := ih fun l' hm => h l' (by simp [hm])
    cases rest with
    | nil => exact hl
    | cons m ms =>
      rw [Unbracketed, listed, brackets_append, brackets_append, hl, hrest]
      · rfl
      · simp

/-- Blanks before the lines bring no brackets. -/
theorem brackets_indent (s : String) : brackets (indent s 1 4) = brackets s := by
  have hspaces : (spaces 4).filter isBracket = [] := by decide
  have hmoved (line : String) : brackets (moved line) = brackets line := by
    unfold moved indentLine
    split <;> simp [brackets, hspaces]
  calc brackets (indent s 1 4)
      = brackets (unlines (lines (indent s 1 4))) := by rw [unlines_lines]
    _ = (lines s).flatMap brackets := by
        rw [brackets_unlines, lines_indent, List.flatMap_map]
        simp only [hmoved]
    _ = brackets s := by rw [← brackets_unlines, unlines_lines]

/-- No change of case brings a bracket into a text. -/
theorem settled_of_isBracket {ch : Char} (h : isBracket ch = true) : Settled ch := by
  have hch : ch = '(' ∨ ch = ')' ∨ ch = '[' ∨ ch = ']' ∨ ch = '\x7b' ∨ ch = '\x7d' := by
    simpa [isBracket, pairs, or_assoc] using h
  obtain rfl | rfl | rfl | rfl | rfl | rfl := hch <;>
    exact settled_of_isUnmapped (by decide) (by decide) (by decide +kernel)

theorem unbracketed_camelized {s : String} (h : Unbracketed s) :
    Unbracketed (Identifier.camelized s) :=
  unbracketed_iff.mpr fun ch hb =>
    Identifier.not_mem_camelized (settled_of_isBracket hb) (unbracketed_iff.mp h ch hb)

theorem unbracketed_capitalized {s : String} (h : Unbracketed s) :
    Unbracketed (Identifier.capitalized s) :=
  unbracketed_iff.mpr fun ch hb =>
    Identifier.not_mem_capitalized (settled_of_isBracket hb) (unbracketed_iff.mp h ch hb)

end Text
end ClientGen
