import ClientGen.Text.Blank

/-!
# Lines

A text is the list of its lines with a line break between each two. `split` and `join` are inverse
to each other; counting and indentation work on the lines.
-/

namespace ClientGen
namespace Text

/-- The parts between the occurrences of `sep`; there is always at least one. -/
def split (sep : Char) : List Char → List (List Char)
  | [] => [[]]
  | c :: rest =>
    if c = sep then [] :: split sep rest
    else match split sep rest with
      | [] => [[c]]
      | part :: parts => (c :: part) :: parts

/-- The parts with `sep` between each two. -/
def join (sep : Char) : List (List Char) → List Char
  | [] => []
  | [part] => part
  | part :: parts => part ++ sep :: join sep parts

theorem split_ne_nil (sep : Char) (cs : List Char) : split sep cs ≠ [] := by
  cases cs with
  | nil => simp [split]
  | cons c rest =>
    simp only [split]
    split
    · simp
    · split <;> simp

theorem join_split (sep : Char) (cs : List Char) : join sep (split sep cs) = cs := by
  induction cs with
  | nil => rfl
  | cons c rest ih =>
    simp only [split]
    split
    · next h =>
      subst h
      cases hs : split c rest with
      | nil => exact absurd hs (split_ne_nil _ _)
      | cons p ps => simp [join, ← hs, ih]
    · cases hs : split sep rest with
      | nil => exact absurd hs (split_ne_nil _ _)
      | cons p ps =>
        rw [hs] at ih
        cases ps with
        | nil => simpa [join] using ih
        | cons q qs => simpa [join] using ih

theorem split_of_not_mem {sep : Char} {cs : List Char} (h : sep ∉ cs) : split sep cs = [cs] := by
  induction cs with
  | nil => rfl
  | cons c rest ih =>
    have hc : c ≠ sep := fun e => h (by simp [e])
    simp [split, hc, ih (fun m => h (by simp [m]))]

theorem split_append_sep {sep : Char} {cs : List Char} (h : sep ∉ cs) (rest : List Char) :
    split sep (cs ++ sep :: rest) = cs :: split sep rest := by
  induction cs with
  | nil => simp [split]
  | cons c cs ih =>
    have hc : c ≠ sep := fun e => h (by simp [e])
    simp [split, hc, ih (fun m => h (by simp [m]))]

/-- The parts of joined parts are those parts, if the separator is in none of them. -/
theorem split_join {sep : Char} {parts : List (List Char)} (hne : parts ≠ [])
    (h : ∀ p ∈ parts, sep ∉ p) : split sep (join sep parts) = parts := by
  induction parts with
  | nil => exact absurd rfl hne
  | cons p ps ih =>
    cases ps with
    | nil => simpa [join] using split_of_not_mem (h p (by simp))
    | cons q qs =>
      have hp : sep ∉ p := h p (by simp)
      simp only [join]
      rw [split_append_sep hp, ih (by simp) (fun r hr => h r (by simp [hr]))]

theorem mem_join {sep ch : Char} {parts : List (List Char)} (h : ch ∈ join sep parts) :
    ch = sep ∨ ∃ part ∈ parts, ch ∈ part := by
  induction parts with
  | nil => simp [join] at h
  | cons part rest ih =>
    cases rest with
    | nil => exact .inr ⟨part, by simp, by simpa [join] using h⟩
    | cons q qs =>
      simp only [join, List.mem_append, List.mem_cons] at h
      rcases h with h | h | h
      · exact .inr ⟨part, by simp, h⟩
      · exact .inl h
      · rcases ih h with h | ⟨r, hr, hm⟩
        · exact .inl h
        · exact .inr ⟨r, List.mem_cons_of_mem _ hr, hm⟩

/-- A character other than the separator is in one of the parts. -/
theorem exists_mem_split {sep ch : Char} {cs : List Char} (h : ch ∈ cs) (hne : ch ≠ sep) :
    ∃ part ∈ split sep cs, ch ∈ part := by
  rw [← join_split sep cs] at h
  rcases mem_join h with h | h
  · exact absurd h hne
  · exact h

/-- The lines of a text. -/
def lines (s : String) : List String :=
  (split '\n' s.toList).map String.ofList

/-- The text with the given lines. -/
def unlines (ls : List String) : String :=
  String.ofList (join '\n' (ls.map String.toList))

@[simp] theorem unlines_lines (s : String) : unlines (lines s) = s := by
  simp [unlines, lines, List.map_map, Function.comp_def, join_split]

theorem unlines_cons (l : String) (ls : List String) :
    ∃ rest, unlines (l :: ls) = l ++ rest := by
  cases ls with
  | nil => exact ⟨"", by simp [unlines, join]⟩
  | cons m ms =>
    refine ⟨String.ofList ('\n' :: join '\n' ((m :: ms).map String.toList)), ?_⟩
    simp [unlines, join, String.ofList_append]

/-- The text with each line break as one line feed, whether it was written as that, as a carriage
return or as both. -/
def unifyBreaks : List Char → List Char
  | [] => []
  | '\r' :: '\n' :: rest => '\n' :: unifyBreaks rest
  | c :: rest => (if c = '\r' then '\n' else c) :: unifyBreaks rest

/-- The number of lines: each line break ends one, and what follows the last break is one more. -/
def countLines (s : String) : Nat :=
  let cs := s.toList
  if cs.isEmpty then 0
  else cs.count '\n' + if cs.getLast? = some '\n' then 0 else 1

/-- `n` spaces. -/
def spaces (n : Nat) : List Char :=
  List.replicate n ' '

/-- The line moved to the right, a blank one left as it is. -/
def indentLine (pad : List Char) (line : List Char) : List Char :=
  if line.all isBlank then line else pad ++ line

/-- Each line of the text moved to the right by `level` steps of `size` spaces; a negative product
moves nothing. -/
def indent (s : String) (level : Int) (size : Int) : String :=
  let pad := spaces (level * size).toNat
  String.ofList (join '\n' ((split '\n' s.toList).map (indentLine pad)))

/-- The first line of a text that starts with visible characters is moved, whatever follows. -/
theorem indent_append (front : List Char) (rest : String) (hn : '\n' ∉ front)
    (hb : front.all isBlank = false) :
    ∃ more, indent (String.ofList front ++ rest) 1 4 = "    " ++ String.ofList front ++ more := by
  have hsplit : ∃ part parts, split '\n' (front ++ rest.toList) = (front ++ part) :: parts := by
    clear hb
    induction front with
    | nil =>
      obtain ⟨part, parts, h⟩ := List.exists_cons_of_ne_nil (split_ne_nil '\n' rest.toList)
      exact ⟨part, parts, h⟩
    | cons c front ih =>
      have hc : c ≠ '\n' := fun e => hn (by simp [e])
      obtain ⟨part, parts, h⟩ := ih fun m => hn (by simp [m])
      exact ⟨part, parts, by simp [split, hc, h]⟩
  obtain ⟨part, parts, hs⟩ := hsplit
  have hline : indentLine (spaces 4) (front ++ part) = spaces 4 ++ front ++ part := by
    simp [indentLine, List.all_append, hb]
  have hjoin (line : List Char) (lines : List (List Char)) :
      ∃ tail, join '\n' (line :: lines) = line ++ tail := by
    cases lines with
    | nil => exact ⟨[], by simp [join]⟩
    | cons l ls => exact ⟨'\n' :: join '\n' (l :: ls), rfl⟩
  obtain ⟨tail, ht⟩ := hjoin (spaces 4 ++ front ++ part) (parts.map (indentLine (spaces 4)))
  refine ⟨String.ofList (part ++ tail), ?_⟩
  have hpad : "    " = String.ofList (spaces 4) := rfl
  simp only [indent, String.toList_append, String.toList_ofList, hs, List.map_cons]
  rw [show (1 * 4 : Int).toNat = 4 from rfl, hline, ht, hpad]
  simp [String.ofList_append, String.append_assoc]

end Text
end ClientGen
