import ClientGen.Text.Lines
import Mathlib.Data.List.Basic

/-! The lines of texts that are put together. Joined parts have the lines of the parts one behind
the other, and indentation works line by line. Numbers of lines add up where a text that ends with a
line break comes first. What stands in a line is found by its front and its back. -/

namespace ClientGen
namespace Text

theorem split_append (sep : Char) (cs rest : List Char) :
    split sep (cs ++ sep :: rest) = split sep cs ++ split sep rest := by
  induction cs with
  | nil => simp [split]
  | cons c cs ih =>
    by_cases hc : c = sep
    · simp [split, hc, ih]
    · obtain ⟨part, parts, hs⟩ := List.exists_cons_of_ne_nil (split_ne_nil sep cs)
      simp [split, hc, ih, hs]

/-- The characters of the parts are those of the text other than the separator. -/
theorem mem_of_mem_split {sep ch : Char} {cs part : List Char} (h : part ∈ split sep cs)
    (hm : ch ∈ part) : ch ∈ cs ∧ ch ≠ sep := by
  induction cs generalizing part with
  | nil =>
    rw [split, List.mem_singleton] at h
    simp [h] at hm
  | cons c cs ih =>
    rw [split] at h
    split at h
    · rcases List.mem_cons.mp h with rfl | h
      · simp at hm
      · obtain ⟨hcs, hne⟩ := ih h hm
        exact ⟨List.mem_cons_of_mem c hcs, hne⟩
    · next hc =>
      obtain ⟨first, parts, hs⟩ := List.exists_cons_of_ne_nil (split_ne_nil sep cs)
      rw [hs] at h ih
      rcases List.mem_cons.mp h with rfl | h
      · rcases List.mem_cons.mp hm with rfl | hm
        · exact ⟨by simp, hc⟩
        · obtain ⟨hcs, hne⟩ := ih (by simp) hm
          exact ⟨List.mem_cons_of_mem c hcs, hne⟩
      · obtain ⟨hcs, hne⟩ := ih (by simp [h]) hm
        exact ⟨List.mem_cons_of_mem c hcs, hne⟩

/-- Joined parts are split into what the parts are split into. -/
theorem split_join_flatMap {sep : Char} {parts : List (List Char)} (hne : parts ≠ []) :
    split sep (join sep parts) = parts.flatMap (split sep) := by
  induction parts with
  | nil => exact absurd rfl hne
  | cons part rest ih =>
    cases rest with
    | nil => simp [join]
    | cons next rest =>
      have hrest := ih (by simp)
      simp only [join, split_append, hrest, List.flatMap_cons]

/-- A text without line break. -/
def Unbroken (s : String) : Prop :=
  '\n' ∉ s.toList

instance (s : String) : Decidable (Unbroken s) :=
  inferInstanceAs (Decidable (_ ∉ _))

theorem unbroken_literal {cs : List Char} (h : cs.contains '\n' = false) :
    Unbroken (String.ofList cs) := by
  simpa [Unbroken] using h

@[simp] theorem unbroken_append {a b : String} : Unbroken (a ++ b) ↔ Unbroken a ∧ Unbroken b := by
  simp [Unbroken]

theorem lines_of_unbroken {s : String} (h : Unbroken s) : lines s = [s] := by
  simp [lines, split_of_not_mem h]

theorem lines_unlines {ls : List String} (hne : ls ≠ []) :
    lines (unlines ls) = ls.flatMap lines := by
  rw [lines, unlines, String.toList_ofList, split_join_flatMap (by simpa using hne),
    List.flatMap_map, List.map_flatMap]
  rfl

theorem unlines_singleton (l : String) : unlines [l] = l := by
  simp [unlines, join]

theorem unlines_cons_of_ne_nil (l : String) {ls : List String} (hne : ls ≠ []) :
    unlines (l :: ls) = l ++ "\n" ++ unlines ls := by
  obtain ⟨m, ms, rfl⟩ := List.exists_cons_of_ne_nil hne
  apply String.toList_injective
  simp [unlines, join]

theorem flatMap_lines {ls : List String} (h : ∀ l ∈ ls, Unbroken l) : ls.flatMap lines = ls := by
  induction ls with
  | nil => rfl
  | cons l rest ih =>
    rw [List.flatMap_cons, lines_of_unbroken (h l (by simp)), ih fun m hm => h m (by simp [hm])]
    rfl

theorem unlines_lines_append (s : String) {l : String} (h : Unbroken l) :
    unlines (lines s ++ [l]) = s ++ "\n" ++ l := by
  have hlines : lines s ++ [l] = lines (unlines [s, l]) := by
    simp [lines_unlines, lines_of_unbroken h]
  rw [hlines, unlines_lines, unlines_cons_of_ne_nil s (by simp), unlines_singleton]

/-- A line moved to the right by `n` spaces; a blank one stays where it is. -/
def shifted (n : Nat) (line : String) : String :=
  String.ofList (indentLine (spaces n) line.toList)

/-- Indentation moves each line by itself. -/
theorem lines_indent_eq (s : String) (level size : Int) :
    lines (indent s level size) = (lines s).map (shifted (level * size).toNat) := by
  generalize hn : (level * size).toNat = n
  have hparts : ∀ part ∈ (split '\n' s.toList).map (indentLine (spaces n)), '\n' ∉ part := by
    intro part hp
    obtain ⟨line, hl, rfl⟩ := List.mem_map.mp hp
    have hline : '\n' ∉ line := fun hm => (mem_of_mem_split hl hm).2 rfl
    unfold indentLine
    split
    · exact hline
    · simpa [spaces] using hline
  have hne : (split '\n' s.toList).map (indentLine (spaces n)) ≠ [] := by
    simpa using split_ne_nil '\n' s.toList
  simp only [indent, lines, hn, String.toList_ofList, split_join hne hparts, List.map_map,
    Function.comp_def, shifted]

/-- A line moved four spaces to the right. -/
def moved (line : String) : String :=
  String.ofList (indentLine (spaces 4) line.toList)

theorem lines_indent (s : String) : lines (indent s 1 4) = (lines s).map moved :=
  lines_indent_eq s 1 4

/-- A line with a visible character gets four spaces before it. -/
theorem moved_of_visible {line : String} (h : line.toList.all isBlank = false) :
    moved line = "    " ++ line := by
  apply String.toList_injective
  simp [moved, indentLine, h, spaces, List.replicate]

/-! ## Ends of lines -/

/-- A text whose last line is ended by a line break. -/
def EndsLine (s : String) : Prop :=
  ∃ front, s = front ++ "\n"

theorem endsLine_iff {s : String} : EndsLine s ↔ s.toList.getLast? = some '\n' := by
  rw [List.getLast?_eq_some_iff]
  constructor
  · rintro ⟨front, rfl⟩
    exact ⟨front.toList, by simp⟩
  · rintro ⟨front, h⟩
    exact ⟨String.ofList front, String.toList_injective (by simp [h])⟩

instance (s : String) : Decidable (EndsLine s) :=
  decidable_of_iff _ endsLine_iff.symm

theorem EndsLine.ne_empty {s : String} (h : EndsLine s) : s ≠ "" := by
  rintro rfl
  exact absurd (endsLine_iff.mp h) (by decide)

theorem EndsLine.append_left {s : String} (h : EndsLine s) (a : String) : EndsLine (a ++ s) := by
  obtain ⟨front, rfl⟩ := h
  exact ⟨a ++ front, (String.append_assoc ..).symm⟩

/-- What follows a line break starts on a line of its own. -/
theorem lines_append_break (front s : String) :
    lines (front ++ "\n" ++ s) = lines front ++ lines s := by
  have hbreak : ("\n" : String).toList = ['\n'] := rfl
  simp only [lines, String.toList_append, hbreak, List.append_assoc, List.singleton_append,
    split_append, List.map_append]

/-- Behind the last line break nothing stands in the last line. -/
theorem lines_ended (front : String) : lines (front ++ "\n") = lines front ++ [""] := by
  simpa [show lines "" = [""] from rfl] using lines_append_break front ""

/-- Lines with an empty one behind them end with a line break. -/
theorem unlines_append_empty {ls : List String} (hne : ls ≠ []) :
    unlines (ls ++ [""]) = unlines ls ++ "\n" := by
  induction ls with
  | nil => exact absurd rfl hne
  | cons l rest ih =>
    cases rest with
    | nil => simp [unlines, join]
    | cons m ms =>
      rw [List.cons_append, unlines_cons_of_ne_nil l (by simp), ih (by simp),
        unlines_cons_of_ne_nil l (by simp)]
      simp only [String.append_assoc]

theorem endsLine_unlines {ls : List String} (hl : ls.getLast? = some "") (hne : ls ≠ [""]) :
    EndsLine (unlines ls) := by
  obtain ⟨front, rfl⟩ := List.getLast?_eq_some_iff.mp hl
  exact ⟨unlines front, unlines_append_empty (by rintro rfl; exact hne rfl)⟩

/-- The number of line breaks in a text. -/
def breaks (s : String) : Nat :=
  s.toList.count '\n'

theorem breaks_append (a b : String) : breaks (a ++ b) = breaks a + breaks b := by
  simp [breaks]

theorem length_split (sep : Char) (cs : List Char) :
    (split sep cs).length = cs.count sep + 1 := by
  induction cs with
  | nil => rfl
  | cons c cs ih =>
    by_cases hc : c = sep
    · simp [split, hc, ih]
    · obtain ⟨part, parts, hs⟩ := List.exists_cons_of_ne_nil (split_ne_nil sep cs)
      rw [hs] at ih
      simpa [split, hc, hs] using ih

theorem length_lines (s : String) : (lines s).length = breaks s + 1 := by
  rw [lines, List.length_map, length_split, breaks]

/-- The last line counts unless nothing stands in it. -/
theorem countLines_eq (s : String) :
    countLines s = breaks s + if s = "" ∨ EndsLine s then 0 else 1 := by
  by_cases hs : s = ""
  · subst hs
    decide
  · have hne : s.toList.isEmpty = false := by simpa using hs
    simp only [countLines, breaks, hne, Bool.false_eq_true, if_false, hs, false_or, endsLine_iff]

/-- Numbers of lines add up where the first text leaves no line open. -/
theorem countLines_append {a : String} (h : a = "" ∨ EndsLine a) (b : String) :
    countLines (a ++ b) = countLines a + countLines b := by
  have hends : (a ++ b = "" ∨ EndsLine (a ++ b)) ↔ (b = "" ∨ EndsLine b) := by
    rcases h with rfl | h
    · simp
    · constructor
      · rintro (hb | hb)
        · simp [h.ne_empty] at hb
        · by_cases hne : b = ""
          · exact .inl hne
          · refine .inr (endsLine_iff.mpr ?_)
            have hlast := endsLine_iff.mp hb
            rwa [String.toList_append, List.getLast?_append_of_ne_nil _ (by simpa using hne)]
              at hlast
      · rintro (rfl | hb)
        · exact .inr (by simpa using h)
        · exact .inr (hb.append_left a)
  simp only [countLines_eq, breaks_append, hends, if_pos h]
  omega

/-! ## Finding lines -/

/-- Whether a line starts with `front`. -/
def startsWith (front line : String) : Bool :=
  front.toList.isPrefixOf line.toList

theorem startsWith_literal {front line : List Char} {b : Bool} (h : front.isPrefixOf line = b) :
    startsWith (String.ofList front) (String.ofList line) = b := by
  rw [startsWith, String.toList_ofList, String.toList_ofList, h]

theorem startsWith_append (front rest : String) : startsWith front (front ++ rest) = true := by
  simp [startsWith]

theorem startsWith_append_append (front a b : String) :
    startsWith (front ++ a) (front ++ b) = startsWith a b := by
  rw [Bool.eq_iff_iff, startsWith, startsWith, List.isPrefixOf_iff_prefix,
    List.isPrefixOf_iff_prefix, String.toList_append, String.toList_append,
    List.prefix_append_right_inj]

theorem startsWith_trans {a b c : String} (hab : startsWith a b = true)
    (hbc : startsWith b c = true) : startsWith a c = true :=
  List.isPrefixOf_iff_prefix.mpr
    ((List.isPrefixOf_iff_prefix.mp hab).trans (List.isPrefixOf_iff_prefix.mp hbc))

theorem not_startsWith_longer {a b line : String} (hab : startsWith a b = true)
    (h : startsWith a line = false) : startsWith b line = false := by
  rw [Bool.eq_false_iff] at h ⊢
  exact fun hb => h (startsWith_trans hab hb)

/-- A line with one of two fronts that go apart does not have the other. -/
theorem not_startsWith_of_startsWith {a b line : String}
    (hab : startsWith a b = false ∧ startsWith b a = false) (h : startsWith a line = true) :
    startsWith b line = false := by
  rw [startsWith, Bool.eq_false_iff]
  intro hb
  rcases List.prefix_or_prefix_of_prefix (List.isPrefixOf_iff_prefix.mp h)
    (List.isPrefixOf_iff_prefix.mp hb) with hp | hp
  · exact absurd (List.isPrefixOf_iff_prefix.mpr hp) (Bool.eq_false_iff.mp hab.1)
  · exact absurd (List.isPrefixOf_iff_prefix.mpr hp) (Bool.eq_false_iff.mp hab.2)

theorem not_startsWith_literal {front start : List Char}
    (h : (start.isPrefixOf front || front.isPrefixOf start) = false) (rest : String) :
    startsWith (String.ofList front) (String.ofList start ++ rest) = false := by
  rw [Bool.or_eq_false_iff] at h
  exact not_startsWith_of_startsWith ⟨startsWith_literal h.1, startsWith_literal h.2⟩
    (startsWith_append _ _)

/-- What stands between `front` and `back` in a text that has both at its ends. -/
def between? (front back text : String) : Option String :=
  ((text.toList.dropPrefix? front.toList).bind (·.dropSuffix? back.toList)).map String.ofList

theorem between?_eq_some_iff {front back text inner : String} :
    between? front back text = some inner ↔ text = front ++ inner ++ back := by
  simp only [between?, Option.map_eq_some_iff, Option.bind_eq_some_iff,
    List.dropPrefix?_eq_some_iff, List.dropSuffix?_eq_some_iff, beq_iff_eq]
  constructor
  · rintro ⟨cs, ⟨ds, ⟨_, hd, rfl⟩, ⟨_, hc, rfl⟩⟩, rfl⟩
    apply String.toList_injective
    simp [hd, hc]
  · rintro rfl
    exact ⟨inner.toList, ⟨inner.toList ++ back.toList, by simp, by simp⟩, by simp⟩

theorem between?_of_not_startsWith {front line : String} (back : String)
    (h : startsWith front line = false) : between? front back line = none := by
  cases hb : between? front back line with
  | none => rfl
  | some inner =>
    rw [between?_eq_some_iff.mp hb, String.append_assoc, startsWith_append] at h
    cases h

theorem filterMap_between? {front : String} {ls : List String} (back : String)
    (h : ∀ line ∈ ls, startsWith front line = false) : ls.filterMap (between? front back) = [] :=
  List.filterMap_eq_nil_iff.mpr fun line hl => between?_of_not_startsWith back (h line hl)

/-- The lines that stand directly behind a given one. -/
def linesBehind (line : String) : List String → List String
  | [] => []
  | a :: rest => (if a = line then rest.head?.toList else []) ++ linesBehind line rest

theorem linesBehind_of_not_mem {line : String} {ls : List String} (h : line ∉ ls) :
    linesBehind line ls = [] := by
  induction ls with
  | nil => rfl
  | cons a rest ih =>
    have ha : a ≠ line := fun e => h (by simp [e])
    rw [linesBehind, if_neg ha, ih fun m => h (by simp [m])]
    rfl

/-- Behind the only occurrence of a line stands one line, if it is not the last. -/
theorem linesBehind_once {line : String} {front back : List String} (hf : line ∉ front)
    (hb : line ∉ back) : linesBehind line (front ++ line :: back) = back.head?.toList := by
  induction front with
  | nil => rw [List.nil_append, linesBehind, if_pos rfl, linesBehind_of_not_mem hb, List.append_nil]
  | cons a front ih =>
    have ha : a ≠ line := fun e => hf (by simp [e])
    rw [List.cons_append, linesBehind, if_neg ha, ih fun m => hf (by simp [m])]
    rfl

/-- The lines behind the line `first`, up to one that starts with `stop`. -/
def linesBetween (first stop : String) (ls : List String) : List String :=
  ((ls.dropWhile (· != first)).drop 1).takeWhile (!startsWith stop ·)

theorem linesBetween_append {first stop last : String} {front inner : List String}
    (hf : first ∉ front) (hi : ∀ line ∈ inner, startsWith stop line = false)
    (hl : startsWith stop last = true) (rest : List String) :
    linesBetween first stop (front ++ first :: (inner ++ last :: rest)) = inner := by
  have hfront : ∀ line ∈ front, (line != first) = true :=
    fun line hm => bne_iff_ne.mpr fun e => hf (e ▸ hm)
  have hinner : ∀ line ∈ inner, (!startsWith stop line) = true :=
    fun line hm => by simp [hi line hm]
  rw [linesBetween, List.dropWhile_append_of_pos hfront, List.dropWhile_cons_of_neg (by simp),
    List.drop_succ_cons, List.drop_zero, List.takeWhile_append_of_pos hinner,
    List.takeWhile_cons_of_neg (by simp [hl]), List.append_nil]

/-- The lines from one that starts with `front` on, up to the line `stop`. -/
def linesFrom (front stop : String) (ls : List String) : List String :=
  (ls.dropWhile (!startsWith front ·)).takeWhile (· != stop)

theorem linesFrom_append {start stop first : String} {front inner : List String}
    (hf : ∀ line ∈ front, startsWith start line = false) (hs : startsWith start first = true)
    (hi : stop ∉ first :: inner) (rest : List String) :
    linesFrom start stop (front ++ first :: (inner ++ stop :: rest)) = first :: inner := by
  have hfront : ∀ line ∈ front, (!startsWith start line) = true :=
    fun line hm => by simp [hf line hm]
  have hinner : ∀ line ∈ first :: inner, (line != stop) = true :=
    fun line hm => bne_iff_ne.mpr fun e => hi (e ▸ hm)
  rw [linesFrom, List.dropWhile_append_of_pos hfront, List.dropWhile_cons_of_neg (by simp [hs]),
    ← List.cons_append, List.takeWhile_append_of_pos hinner,
    List.takeWhile_cons_of_neg (by simp), List.append_nil]

end Text
end ClientGen
