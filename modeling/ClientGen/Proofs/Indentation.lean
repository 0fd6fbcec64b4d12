import ClientGen.Proofs.Lines
import Mathlib.Data.List.Forall2

/-! Indentation of texts. Whatever the text is, it keeps its lines, those without a visible character
as they are and the others with spaces before them; so it can be taken back, and indentation by one
level after the other is one by both. -/

namespace ClientGen
namespace Text

/-- A line without a visible character. -/
def Blank (line : String) : Prop :=
  ∀ ch ∈ line.toList, isBlank ch = true

theorem blank_iff {line : String} : Blank line ↔ line.toList.all isBlank = true :=
  List.all_eq_true.symm

instance (line : String) : Decidable (Blank line) :=
  decidable_of_iff _ blank_iff.symm

theorem blank_empty : Blank "" :=
  fun _ hc => absurd hc (by simp)

theorem spaces_add (a b : Nat) : spaces (a + b) = spaces b ++ spaces a := by
  rw [Nat.add_comm, spaces, List.replicate_add]
  rfl

section Shifting

variable {line : String} (n : Nat)

theorem shifted_of_blank (h : Blank line) : shifted n line = line := by
  rw [shifted, indentLine, if_pos (blank_iff.mp h), String.ofList_toList]

theorem shifted_of_visible (h : ¬ Blank line) :
    shifted n line = String.ofList (spaces n) ++ line := by
  rw [shifted, indentLine, if_neg (blank_iff.not.mp h), String.ofList_append, String.ofList_toList]

/-- Spaces before a line do not change whether it has a visible character. -/
theorem blank_shifted : Blank (shifted n line) ↔ Blank line := by
  by_cases h : Blank line
  · rw [shifted_of_blank n h]
  · have hvisible : ¬ Blank (String.ofList (spaces n) ++ line) := fun hb =>
      h fun ch hc => hb ch (by simp [hc])
    rw [shifted_of_visible n h]
    exact iff_of_false hvisible h

theorem shifted_shifted (a b : Nat) (line : String) :
    shifted b (shifted a line) = shifted (a + b) line := by
  by_cases h : Blank line
  · simp only [shifted_of_blank _ h]
  · have ha : ¬ Blank (shifted a line) := (blank_shifted a).not.mpr h
    rw [shifted_of_visible b ha, shifted_of_visible a h, shifted_of_visible (a + b) h, spaces_add,
      String.ofList_append, String.append_assoc]

/-- The line without its first `n` characters; a blank one as it is. -/
def unshifted (line : String) : String :=
  if Blank line then line else String.ofList (line.toList.drop n)

theorem unshifted_empty : unshifted n "" = "" := by
  rw [unshifted, if_pos blank_empty]

theorem unshifted_shifted (line : String) : unshifted n (shifted n line) = line := by
  by_cases h : Blank line
  · rw [shifted_of_blank n h, unshifted, if_pos h]
  · have hdrop : (spaces n ++ line.toList).drop n = line.toList :=
      List.drop_left' (by simp [spaces])
    rw [unshifted, if_neg ((blank_shifted n).not.mpr h), shifted_of_visible n h,
      String.toList_append, String.toList_ofList, hdrop, String.ofList_toList]

theorem unshifted_comp_shifted : unshifted n ∘ shifted n = id := by
  funext line
  exact unshifted_shifted n line

end Shifting

/-! ## Whole texts -/

/-- The text with each line put into another form. -/
def mapLines (f : String → String) (s : String) : String :=
  unlines ((lines s).map f)

theorem indent_eq_mapLines (s : String) (level size : Int) :
    indent s level size = mapLines (shifted (level * size).toNat) s := by
  rw [mapLines, ← lines_indent_eq, unlines_lines]

/-- The text with `n` characters less at the front of each line that is not blank. -/
def outdent (n : Nat) (s : String) : String :=
  mapLines (unshifted n) s

theorem mapLines_empty {f : String → String} (hf : f "" = "") : mapLines f "" = "" := by
  rw [mapLines, show lines "" = [""] from rfl, List.map_singleton, hf, unlines_singleton]

/-- A line break at the end stays there, since nothing stands behind it. -/
theorem EndsLine.mapLines {f : String → String} (hf : f "" = "") {s : String} (h : EndsLine s) :
    EndsLine (mapLines f s) := by
  obtain ⟨front, rfl⟩ := h
  have hne : (lines front).map f ≠ [] := by
    simpa [lines] using split_ne_nil '\n' front.toList
  rw [Text.mapLines, lines_ended, List.map_append, List.map_singleton, hf]
  exact ⟨_, unlines_append_empty hne⟩

theorem outdent_indent (s : String) (level size : Int) :
    outdent (level * size).toNat (indent s level size) = s := by
  rw [outdent, mapLines, lines_indent_eq, List.map_map, unshifted_comp_shifted, List.map_id,
    unlines_lines]

theorem endsLine_indent (s : String) (level size : Int) :
    EndsLine (indent s level size) ↔ EndsLine s := by
  constructor
  · intro h
    rw [← outdent_indent s level size]
    exact h.mapLines (unshifted_empty _)
  · intro h
    rw [indent_eq_mapLines]
    exact h.mapLines (shifted_of_blank _ blank_empty)

theorem indent_eq_empty_iff (s : String) (level size : Int) : indent s level size = "" ↔ s = "" := by
  constructor
  · intro h
    rw [← outdent_indent s level size, h]
    exact mapLines_empty (unshifted_empty _)
  · rintro rfl
    rw [indent_eq_mapLines]
    exact mapLines_empty (shifted_of_blank _ blank_empty)

theorem countLines_indent (s : String) (level size : Int) :
    countLines (indent s level size) = countLines s := by
  have hbreaks : breaks (indent s level size) = breaks s := by
    have hlength := congrArg List.length (lines_indent_eq s level size)
    rw [List.length_map, length_lines, length_lines] at hlength
    omega
  simp only [countLines_eq, hbreaks, endsLine_indent, indent_eq_empty_iff]

/-- What becomes of a line that is moved to the right by `n` spaces. -/
structure Moved (n : Nat) (line result : String) : Prop where
  blank : Blank line → result = line
  visible : ¬ Blank line → result = String.ofList (spaces n) ++ line

theorem moved_shifted (n : Nat) (line : String) : Moved n line (shifted n line) :=
  ⟨shifted_of_blank n, shifted_of_visible n⟩

/-- Whatever the text and the level are, indentation keeps the number of lines, also as the reports
count it. It leaves blank lines as they are and puts that many steps of spaces before each other line,
so the text comes back without them; and two indentations are one by the sum of their levels. -/
theorem indent_moves_lines (text : String) (a b size : Nat) :
    (lines (indent text a size)).length = (lines text).length ∧
    countLines (indent text a size) = countLines text ∧
    List.Forall₂ (Moved (a * size)) (lines text) (lines (indent text a size)) ∧
    outdent (a * size) (indent text a size) = text ∧
    indent (indent text a size) b size = indent text (a + b : Nat) size := by
  have hcast (n : Nat) : ((n : Int) * (size : Int)).toNat = n * size := by
    rw [← Int.natCast_mul, Int.toNat_natCast]
  have hlines := lines_indent_eq text a size
  have houtdent := outdent_indent text a size
  rw [hcast] at hlines houtdent
  refine ⟨by rw [hlines, List.length_map], countLines_indent text a size, ?_, houtdent, ?_⟩
  · rw [hlines, List.forall₂_map_right_iff]
    exact List.forall₂_same.mpr fun line _ => moved_shifted (a * size) line
  · have hsame : lines (indent (indent text a size) b size) =
        lines (indent text (a + b : Nat) size) := by
      rw [lines_indent_eq, lines_indent_eq text (a + b : Nat), hlines, hcast, hcast, List.map_map,
        Nat.add_mul]
      exact List.map_congr_left fun line _ => shifted_shifted _ _ line
    rw [← unlines_lines (indent (indent text a size) b size), hsame, unlines_lines]

example : indent "a\n \n\n  b\n" 2 1 = "  a\n \n\n    b\n" := by decide

end Text
end ClientGen
