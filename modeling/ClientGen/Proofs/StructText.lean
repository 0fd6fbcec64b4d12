import ClientGen.Proofs.Declarations
import ClientGen.Proofs.Lines
import ClientGen.Proofs.Order
import Mathlib.Data.List.Forall2

/-! The text of a struct, line by line. Where no line break comes in through a name or a type, only
the members of the struct stand at its depth, so they and the value that a new struct starts with can
be read back from the text. -/

namespace ClientGen
namespace Code

open Text

section Templates

/-- A line of a template that is deeper than the first one. -/
structure Deep (line : String) : Prop where
  indented : startsWith "    " line = true
  visible : line.toList.all isBlank = false
  unbroken : Unbroken line

/-- A line of a template below the first one: a deeper one or the brace that closes the accessor. -/
def Lower (line : String) : Prop :=
  line = "\x7d" ∨ Deep line

theorem deep_literal {cs : List Char}
    (h : ([' ', ' ', ' ', ' '].isPrefixOf cs && !cs.all isBlank && !cs.contains '\n') = true) :
    Deep (String.ofList cs) := by
  simp only [Bool.and_eq_true, Bool.not_eq_true'] at h
  refine ⟨startsWith_literal h.1.1, ?_, unbroken_literal h.2⟩
  rw [String.toList_ofList]
  exact h.1.2

theorem Deep.append {a b : String} (ha : Deep a) (hb : Unbroken b) : Deep (a ++ b) := by
  refine ⟨startsWith_trans ha.indented (startsWith_append a b), ?_,
    unbroken_append.mpr ⟨ha.unbroken, hb⟩⟩
  rw [String.toList_append, List.all_append, ha.visible, Bool.false_and]

variable {key : String}

theorem unbroken_slot (h : Unbroken key) : Unbroken (Accessor.slot key) := by
  unfold Accessor.slot
  exact unbroken_append.mpr
    ⟨unbroken_append.mpr ⟨unbroken_literal rfl, h⟩, unbroken_literal rfl⟩

/-- A line that starts with the JSON value under the wire name. -/
theorem deep_slot {cs : List Char}
    (h : ([' ', ' ', ' ', ' '].isPrefixOf cs && !cs.contains '\n') = true) (hk : Unbroken key) :
    Deep (String.ofList cs ++ Accessor.slot key) := by
  simp only [Bool.and_eq_true, Bool.not_eq_true'] at h
  have hopen : "internalJson[\"".toList.all isBlank = false := by decide
  refine ⟨startsWith_trans (startsWith_literal h.1) (startsWith_append _ _), ?_,
    unbroken_append.mpr ⟨unbroken_literal h.2, unbroken_slot hk⟩⟩
  unfold Accessor.slot
  simp only [String.toList_append, List.all_append, hopen, Bool.false_and, Bool.and_false]

theorem deep_getter {body : String} (h : Unbroken body) : Deep (Accessor.getter body) := by
  unfold Accessor.getter
  exact ((deep_literal rfl).append h).append (unbroken_literal rfl)

theorem deep_setter {body : String} (h : Unbroken body) : Deep (Accessor.setter body) := by
  unfold Accessor.setter
  exact ((deep_literal rfl).append h).append (unbroken_literal rfl)

theorem unbroken_slot_append {back : List Char} (hk : Unbroken key)
    (h : back.contains '\n' = false) : Unbroken (Accessor.slot key ++ String.ofList back) :=
  unbroken_append.mpr ⟨unbroken_slot hk, unbroken_literal h⟩

theorem deep_storeRows (hk : Unbroken key) : ∀ line ∈ Accessor.storeRows key, Deep line := by
  simp only [Accessor.storeRows, List.forall_mem_cons]
  exact ⟨deep_literal rfl, deep_literal rfl, deep_literal rfl, deep_literal rfl, deep_literal rfl,
    deep_literal rfl, deep_literal rfl, deep_literal rfl, deep_literal rfl, deep_literal rfl,
    (deep_slot rfl hk).append (unbroken_literal rfl), by simp⟩

variable {k : Kind} {accessor : String} {f : Field} {ls : List String}

theorem unbroken_stem {type stem : String} (h : stem? type = some stem) : Unbroken stem := by
  have hall : ∀ p ∈ scalarStems, Unbroken p.2 := by decide
  obtain ⟨front, back, hs, -⟩ := List.lookup_eq_some_iff.mp h
  exact hall (type, stem) (by simp [hs])

/-- Below the declaration the lines of a template are deeper, but for the last brace. -/
theorem tail_lower (hk : Unbroken key) (hf : Unbroken f.type)
    (h : Accessor.lines k accessor key f = .ok ls) : ∀ line ∈ ls.tail, Lower line := by
  have hget : Lower "    get \x7b" := .inr (deep_literal rfl)
  have hset : Lower "    set \x7b" := .inr (deep_literal rfl)
  have hend : Lower "    \x7d" := .inr (deep_literal rfl)
  have hclose : Lower "\x7d" := .inl rfl
  have hrows (line : String) (hl : line ∈ Accessor.storeRows key) : Lower line :=
    .inr (deep_storeRows hk line hl)
  cases k with
  | scalar =>
    simp only [Accessor.lines] at h
    split at h
    · next stem hs =>
      cases h
      have hvalue : Unbroken (if f.isOptional then "" else "Value") := by
        split <;> exact unbroken_literal rfl
      have hproperty : Unbroken (Accessor.slot key ++ "." ++ stem ++
          if f.isOptional then "" else "Value") :=
        unbroken_append.mpr
          ⟨unbroken_append.mpr ⟨unbroken_slot_append hk rfl, unbroken_stem hs⟩, hvalue⟩
      simp only [Accessor.scalar, List.tail_cons, List.forall_mem_cons]
      exact ⟨.inr (deep_getter hproperty),
        .inr (deep_setter (unbroken_append.mpr ⟨hproperty, unbroken_literal rfl⟩)), hclose, by simp⟩
    · cases h
  | dateOptional =>
    cases h
    simp only [Accessor.dateOptional, List.tail_cons, List.forall_mem_cons]
    exact ⟨hget, .inr ((deep_slot rfl hk).append (unbroken_literal rfl)), .inr (deep_literal rfl),
      hend, hset, .inr ((deep_slot rfl hk).append (unbroken_literal rfl)), hend, hclose, by simp⟩
  | dateRequired =>
    cases h
    have hdate : Unbroken ("Date(timeIntervalSince1970: " ++ Accessor.slot key ++
        ".doubleValue)") :=
      unbroken_append.mpr
        ⟨unbroken_append.mpr ⟨unbroken_literal rfl, unbroken_slot hk⟩, unbroken_literal rfl⟩
    simp only [Accessor.dateRequired, List.tail_cons, List.forall_mem_cons]
    exact ⟨.inr (deep_getter hdate), .inr (deep_setter (unbroken_slot_append hk rfl)), hclose,
      by simp⟩
  | arrayOfArrayOptional =>
    cases h
    simp only [Accessor.arrayOfArrayOptional, List.cons_append, List.nil_append, List.tail_cons,
      List.forall_mem_cons, List.forall_mem_append]
    exact ⟨.inr (deep_getter (unbroken_slot_append hk rfl)), hset, .inr (deep_literal rfl),
      .inr ((deep_slot rfl hk).append (unbroken_literal rfl)), .inr (deep_literal rfl),
      .inr (deep_literal rfl), hrows, hend, hclose, by simp⟩
  | arrayOfArrayRequired =>
    cases h
    simp only [Accessor.arrayOfArrayRequired, List.cons_append, List.nil_append, List.tail_cons,
      List.forall_mem_cons, List.forall_mem_append]
    exact ⟨.inr (deep_getter (unbroken_slot_append hk rfl)), hset, hrows, hend, hclose, by simp⟩
  | arrayOptional =>
    cases h
    simp only [Accessor.arrayOptional, List.tail_cons, List.forall_mem_cons]
    exact ⟨.inr (deep_getter (unbroken_slot_append hk rfl)),
      .inr (deep_setter (unbroken_slot_append hk rfl)), hclose, by simp⟩
  | arrayRequired =>
    cases h
    simp only [Accessor.arrayRequired, List.tail_cons, List.forall_mem_cons]
    exact ⟨.inr (deep_getter (unbroken_slot_append hk rfl)),
      .inr (deep_setter (unbroken_slot_append hk rfl)), hclose, by simp⟩
  | variantContent =>
    cases h
    have hstored : Unbroken (if f.isOptional then "JSON(newValue?.json ?? JSON.null)"
        else "JSON(newValue.json)") := by
      split <;> exact unbroken_literal rfl
    simp only [Accessor.variantContent, List.tail_cons, List.forall_mem_cons]
    exact ⟨hget, .inr (deep_literal rfl), hend, hset,
      .inr (((deep_slot rfl hk).append (unbroken_literal rfl)).append hstored), hend, hclose,
      by simp⟩
  | selfBridging =>
    cases h
    simp [Accessor.selfBridging]
  | nestedObject =>
    cases h
    unfold Accessor.nestedObject
    split
    · simp only [List.tail_cons, List.forall_mem_cons]
      exact ⟨hget, .inr (deep_slot rfl hk),
        .inr (((deep_literal rfl).append hf).append (unbroken_literal rfl)), hend, hset,
        .inr ((deep_slot rfl hk).append (unbroken_literal rfl)), hend, hclose, by simp⟩
    · have hvalue : Unbroken (f.type ++ "(internalJson: " ++ Accessor.slot key ++ ")") :=
        unbroken_append.mpr ⟨unbroken_append.mpr
          ⟨unbroken_append.mpr ⟨hf, unbroken_literal rfl⟩, unbroken_slot hk⟩, unbroken_literal rfl⟩
      simp only [List.tail_cons, List.forall_mem_cons]
      exact ⟨.inr (deep_getter hvalue), .inr (deep_setter (unbroken_slot_append hk rfl)), hclose,
        by simp⟩

theorem unbroken_opened {type : String} (ha : Unbroken accessor) (ht : Unbroken type) :
    Unbroken (Accessor.opened accessor type) := by
  simp +decide [Accessor.opened, Accessor.declared, ha, ht]

/-- The first line of a template breaks only where the accessor or the type does. -/
theorem unbroken_head (ha : Unbroken accessor) (hf : Unbroken f.type)
    (h : Accessor.lines k accessor key f = .ok ls) : ∀ line ∈ ls.head?, Unbroken line := by
  have hoptional : Unbroken (if f.isOptional then "?" else "") := by
    cases f.isOptional <;> decide
  cases k with
  | scalar =>
    simp only [Accessor.lines] at h
    split at h
    · cases h
      simpa [Accessor.scalar] using unbroken_opened ha (by simp [hf, hoptional])
    · cases h
  | dateOptional =>
    cases h
    simpa [Accessor.dateOptional] using unbroken_opened ha (by decide)
  | dateRequired =>
    cases h
    simpa [Accessor.dateRequired] using unbroken_opened ha (by decide)
  | arrayOfArrayOptional =>
    cases h
    simpa [Accessor.arrayOfArrayOptional] using unbroken_opened ha (by simp +decide [hf])
  | arrayOfArrayRequired =>
    cases h
    simpa [Accessor.arrayOfArrayRequired] using unbroken_opened ha (by simp +decide [hf])
  | arrayOptional =>
    cases h
    simpa [Accessor.arrayOptional] using unbroken_opened ha (by simp +decide [hf])
  | arrayRequired =>
    cases h
    simpa [Accessor.arrayRequired] using unbroken_opened ha (by simp +decide [hf])
  | variantContent =>
    cases h
    simpa [Accessor.variantContent] using unbroken_opened ha (by simp [hf, hoptional])
  | selfBridging =>
    cases h
    have hinitial : Unbroken (if f.isOptional then "? = nil" else "") := by
      cases f.isOptional <;> decide
    simp +decide [Accessor.selfBridging, Accessor.declared, ha, hf, hinitial]
  | nestedObject =>
    cases h
    unfold Accessor.nestedObject
    split
    · simpa using unbroken_opened ha (by simp +decide [hf])
    · simpa using unbroken_opened ha hf

/-- A line of a struct that belongs to a member but does not declare it. -/
def Inner (line : String) : Prop :=
  line = "" ∨ line = "    \x7d" ∨ startsWith "        " line = true

/-- A line declares a variable of the given name. -/
def Declares (name line : String) : Prop :=
  ∃ rest, line = "    public var " ++ name ++ ": " ++ rest

theorem Lower.inner {line : String} (h : Lower line) : Inner (moved line) := by
  rcases h with rfl | hd
  · exact .inr (.inl (by decide))
  · have htwice : "        " = "    " ++ "    " := by decide
    rw [moved_of_visible hd.visible]
    refine .inr (.inr ?_)
    rw [htwice, startsWith_append_append]
    exact hd.indented

theorem Lower.unbroken {line : String} (h : Lower line) : Unbroken line := by
  rcases h with rfl | hd
  · exact unbroken_literal rfl
  · exact hd.unbroken

/-- In the struct the first line of a template is the declaration one step to the right. -/
theorem lines_declaration {rest : String} (h : Unbroken (Accessor.declared accessor rest))
    (more : List String) :
    Text.lines (indent (unlines (Accessor.declared accessor rest :: more)) 1 4) =
      ("    public var " ++ accessor ++ ": " ++ rest) ::
        (more.flatMap Text.lines).map moved := by
  have hpublic : "public var ".toList.all isBlank = false := by decide
  have hvisible : (Accessor.declared accessor rest).toList.all isBlank = false := by
    simp only [Accessor.declared, String.toList_append, List.all_append, hpublic, Bool.false_and]
  have hfront : "    public var " = "    " ++ "public var " := by decide
  have hmoved : moved (Accessor.declared accessor rest) =
      "    public var " ++ accessor ++ ": " ++ rest := by
    rw [moved_of_visible hvisible]
    simp only [Accessor.declared, hfront, String.append_assoc]
  rw [lines_indent, lines_unlines (by simp), List.flatMap_cons, lines_of_unbroken h,
    List.singleton_append, List.map_cons, hmoved]

/-- In the struct an accessor is the line that declares it and the lines below. -/
theorem lines_accessor {c : Config} {owner s : String} {p : String × Field}
    (ha : Unbroken (accessorName c owner p)) (hk : Unbroken p.1) (hf : Unbroken p.2.type)
    (h : Code.accessor c owner p = .ok s) :
    ∃ line more, Text.lines s = line :: more ∧ Declares (accessorName c owner p) line ∧
      ∀ l ∈ more, Inner l := by
  obtain ⟨k, ls, hls, rfl⟩ := lines_of_accessor h
  have hlower := tail_lower hk hf hls
  have hhead := unbroken_head ha hf hls
  obtain ⟨rest, more, rfl⟩ := lines_declared hls
  rw [List.tail_cons] at hlower
  have hunbroken : ∀ l ∈ more, Unbroken l := fun l hl => (hlower l hl).unbroken
  refine ⟨_, more.map moved, ?_, ⟨rest, rfl⟩, ?_⟩
  · rw [lines_declaration (hhead _ rfl), flatMap_lines hunbroken]
  · intro l hl
    obtain ⟨m, hm, rfl⟩ := List.mem_map.mp hl
    exact (hlower m hm).inner

end Templates

section Structs

/-! ## Reading a struct -/

/-- The lines that declare the public variables of a struct. -/
def publicVariables (text : String) : List String :=
  (Text.lines text).filter (startsWith "    public var ")

/-- The values that the JSON value of a new struct has by default in the internal initializer. -/
def initialDefaults (text : String) : List String :=
  (Text.lines text).filterMap (between? "    internal init(internalJson: JSON = " ") \x7b")

/-- The values that the JSON value of a new struct gets in the initializer without parameters. -/
def emptyDefaults (text : String) : List String :=
  (linesBehind "    public init() \x7b" (Text.lines text)).filterMap
    (between? "        self.internalJson = " "")

variable {c : Config} {owner : String} {fields : List (String × Field)} {parts : List String}

/-- A line of the members of a struct. -/
def OfMember (line : String) : Prop :=
  startsWith "    public var " line = true ∨ Inner line

theorem startsWith_of_ofMember {front line : String} (h : OfMember line)
    (hempty : startsWith front "" = false) (hclose : startsWith front "    \x7d" = false)
    (hvariable : startsWith "    public var " front = false ∧
      startsWith front "    public var " = false)
    (hdeep : startsWith "        " front = false ∧ startsWith front "        " = false) :
    startsWith front line = false := by
  rcases h with h | rfl | rfl | h
  · exact not_startsWith_of_startsWith hvariable h
  · exact hempty
  · exact hclose
  · exact not_startsWith_of_startsWith hdeep h

theorem filter_inner {ls : List String} (h : ∀ line ∈ ls, Inner line) :
    ls.filter (startsWith "    public var ") = [] := by
  rw [List.filter_eq_nil_iff]
  intro line hl
  rw [Bool.not_eq_true]
  rcases h line hl with rfl | rfl | hd
  · decide
  · decide
  · exact not_startsWith_of_startsWith (by decide) hd

/-- The members declare their variables in the order of the fields, and nothing else in them looks
like a declaration. -/
theorem lines_accessors (h : accessors c owner fields = .ok parts)
    (hf : ∀ p ∈ fields, Unbroken p.1 ∧ Unbroken p.2.type)
    (ha : ∀ p ∈ fields, isLiteralTrue p.2 = false → Unbroken (accessorName c owner p)) :
    List.Forall₂ (fun line p => Declares (accessorName c owner p) line)
      ((parts.flatMap Text.lines).filter (startsWith "    public var "))
      (fields.filter fun p => !isLiteralTrue p.2) ∧
    ∀ line ∈ parts.flatMap Text.lines, OfMember line := by
  induction fields generalizing parts with
  | nil =>
    cases h
    simp
  | cons p rest ih =>
    rw [List.forall_mem_cons] at hf ha
    obtain ⟨⟨hkey, htype⟩, hf⟩ := hf
    obtain ⟨hname, ha⟩ := ha
    cases ht : isLiteralTrue p.2 with
    | true =>
      rw [accessors, if_pos ht] at h
      simpa [ht] using ih h hf ha
    | false =>
      obtain ⟨s, others, hs, ho, rfl⟩ := (accessors_cons_ok_iff ht).mp h
      obtain ⟨line, more, hl, hd, hm⟩ := lines_accessor (hname ht) hkey htype hs
      obtain ⟨hothers, hmembers⟩ := ih ho hf ha
      -- Of the accessor only its first line counts, and the empty line behind it does not.
      have hline : startsWith "    public var " line = true := by
        obtain ⟨rest, rfl⟩ := hd
        simp only [String.append_assoc]
        exact startsWith_append _ _
      have hempty : Text.lines "" = [""] := by decide
      have hemptyLine : startsWith "    public var " "" = false := by decide
      constructor
      · simp [hl, hempty, hemptyLine, hline, filter_inner hm, ht, hd, hothers]
      · simp only [List.flatMap_cons, hl, hempty, List.forall_mem_append, List.forall_mem_cons]
        exact ⟨⟨.inl hline, fun l hi => .inr (hm l hi)⟩, ⟨.inr (.inl rfl), by simp⟩, hmembers⟩

theorem unbroken_listed {texts : List String} (h : ∀ s ∈ texts, Unbroken s) :
    Unbroken (listed texts) := by
  induction texts with
  | nil => decide
  | cons s rest ih =>
    rw [List.forall_mem_cons] at h
    cases rest with
    | nil => exact h.1
    | cons t rest => simp +decide [listed, h.1, ih h.2]

theorem unbroken_defaultsLiteral (h : ∀ p ∈ fields, Unbroken p.1) :
    Unbroken (defaultsLiteral fields) := by
  have hpairs : ∀ s ∈ trueDefaults fields, Unbroken s := by
    intro s hs
    obtain ⟨p, hp, rfl⟩ := List.mem_map.mp hs
    simp +decide [h p (List.mem_filter.mp hp).1]
  rw [defaultsLiteral]
  split
  · decide
  · simp +decide [unbroken_listed hpairs]

variable {name defaults : String}

/-- The lines of a struct are those of its head, of its members and of its end. -/
theorem lines_struct (hn : Unbroken name) (hd : Unbroken defaults) (parts : List String) :
    Text.lines (unlines (structHead name ++ parts ++ structTail defaults)) =
      structHead name ++ parts.flatMap Text.lines ++ structTail defaults := by
  have hname : Unbroken ("public struct " ++ name ++
      ": JsonConvertible, InternalJsonConvertible \x7b") :=
    unbroken_append.mpr ⟨unbroken_append.mpr ⟨unbroken_literal rfl, hn⟩, unbroken_literal rfl⟩
  have hinit : Unbroken ("    internal init(internalJson: JSON = " ++ defaults ++ ") \x7b") :=
    unbroken_append.mpr ⟨unbroken_append.mpr ⟨unbroken_literal rfl, hd⟩, unbroken_literal rfl⟩
  have hset : Unbroken ("        self.internalJson = " ++ defaults) :=
    unbroken_append.mpr ⟨unbroken_literal rfl, hd⟩
  have hhead : ∀ line ∈ structHead name, Unbroken line := by
    simp only [structHead, List.forall_mem_cons]
    exact ⟨hname, unbroken_literal rfl, unbroken_literal rfl, unbroken_literal rfl,
      unbroken_literal rfl, unbroken_literal rfl, unbroken_literal rfl, unbroken_literal rfl,
      by simp⟩
  have htail : ∀ line ∈ structTail defaults, Unbroken line := by
    simp only [structTail, List.forall_mem_cons]
    exact ⟨hinit, unbroken_literal rfl, unbroken_literal rfl, unbroken_literal rfl, hset,
      unbroken_literal rfl, unbroken_literal rfl, unbroken_literal rfl, unbroken_literal rfl,
      unbroken_literal rfl, unbroken_literal rfl, unbroken_literal rfl, unbroken_literal rfl,
      unbroken_literal rfl, unbroken_literal rfl, unbroken_literal rfl, by simp⟩
  rw [lines_unlines (by simp [structHead]), List.flatMap_append, List.flatMap_append,
    flatMap_lines hhead, flatMap_lines htail]

/-- The head and the end of a struct declare one public variable. -/
theorem publicVariables_struct (ls : List String) :
    (structHead name ++ ls ++ structTail defaults).filter (startsWith "    public var ") =
      "    public var json: Any \x7b" :: ls.filter (startsWith "    public var ") := by
  have hjson : startsWith "    public var " "    public var json: Any \x7b" = true :=
    startsWith_literal rfl
  have hbefore : ∀ line ∈ (structHead name).take 2, ¬ startsWith "    public var " line = true := by
    simp only [structHead, List.take_succ_cons, List.take_zero, List.forall_mem_cons,
      String.append_assoc, Bool.not_eq_true]
    exact ⟨not_startsWith_literal rfl _, startsWith_literal rfl, by simp⟩
  have hbehind : ∀ line ∈ (structHead name).drop 3, ¬ startsWith "    public var " line = true := by
    simp only [structHead, List.drop_succ_cons, List.drop_zero, List.forall_mem_cons,
      Bool.not_eq_true]
    exact ⟨startsWith_literal rfl, startsWith_literal rfl, startsWith_literal rfl,
      startsWith_literal rfl, startsWith_literal rfl, by simp⟩
  have htail : ∀ line ∈ structTail defaults, ¬ startsWith "    public var " line = true := by
    simp only [structTail, List.forall_mem_cons, String.append_assoc, Bool.not_eq_true]
    exact ⟨not_startsWith_literal rfl _, startsWith_literal rfl, startsWith_literal rfl,
      startsWith_literal rfl, not_startsWith_literal rfl _, startsWith_literal rfl,
      startsWith_literal rfl, startsWith_literal rfl, startsWith_literal rfl,
      startsWith_literal rfl, startsWith_literal rfl, startsWith_literal rfl,
      startsWith_literal rfl, startsWith_literal rfl, startsWith_literal rfl,
      startsWith_literal rfl, by simp⟩
  have hhead : structHead name = (structHead name).take 2 ++
      "    public var json: Any \x7b" :: (structHead name).drop 3 := rfl
  rw [hhead, List.filter_append, List.filter_append, List.filter_append,
    List.filter_eq_nil_iff.mpr hbefore, List.filter_cons_of_pos hjson,
    List.filter_eq_nil_iff.mpr hbehind, List.filter_eq_nil_iff.mpr htail, List.append_nil]
  rfl

/-- The head of a struct has no initializer. -/
theorem not_init_structHead :
    ∀ line ∈ structHead name, startsWith "    internal init(" line = false ∧
      startsWith "    public init(" line = false := by
  simp only [structHead, List.forall_mem_cons, String.append_assoc]
  exact ⟨⟨not_startsWith_literal rfl _, not_startsWith_literal rfl _⟩,
    ⟨startsWith_literal rfl, startsWith_literal rfl⟩,
    ⟨startsWith_literal rfl, startsWith_literal rfl⟩,
    ⟨startsWith_literal rfl, startsWith_literal rfl⟩,
    ⟨startsWith_literal rfl, startsWith_literal rfl⟩,
    ⟨startsWith_literal rfl, startsWith_literal rfl⟩,
    ⟨startsWith_literal rfl, startsWith_literal rfl⟩,
    ⟨startsWith_literal rfl, startsWith_literal rfl⟩, by simp⟩

/-- The members of a struct have no initializer. -/
theorem not_init_of_ofMember {line : String} (h : OfMember line) :
    startsWith "    internal init(" line = false ∧ startsWith "    public init(" line = false :=
  ⟨startsWith_of_ofMember h (startsWith_literal rfl) (startsWith_literal rfl)
      ⟨startsWith_literal rfl, startsWith_literal rfl⟩
      ⟨startsWith_literal rfl, startsWith_literal rfl⟩,
    startsWith_of_ofMember h (startsWith_literal rfl) (startsWith_literal rfl)
      ⟨startsWith_literal rfl, startsWith_literal rfl⟩
      ⟨startsWith_literal rfl, startsWith_literal rfl⟩⟩

theorem initialDefaults_struct {ls : List String} (h : ∀ line ∈ ls, OfMember line) :
    (structHead name ++ ls ++ structTail defaults).filterMap
      (between? "    internal init(internalJson: JSON = " ") \x7b") = [defaults] := by
  have hfront {line : String} (hl : startsWith "    internal init(" line = false) :
      startsWith "    internal init(internalJson: JSON = " line = false :=
    not_startsWith_longer (startsWith_literal rfl) hl
  have htail : ∀ line ∈ (structTail defaults).tail,
      startsWith "    internal init(" line = false := by
    simp only [structTail, List.tail_cons, List.forall_mem_cons]
    exact ⟨startsWith_literal rfl, startsWith_literal rfl, startsWith_literal rfl,
      not_startsWith_literal rfl _, startsWith_literal rfl, startsWith_literal rfl,
      startsWith_literal rfl, startsWith_literal rfl, startsWith_literal rfl,
      startsWith_literal rfl, startsWith_literal rfl, startsWith_literal rfl,
      startsWith_literal rfl, startsWith_literal rfl, startsWith_literal rfl, by simp⟩
  have hinit : structTail defaults =
      ("    internal init(internalJson: JSON = " ++ defaults ++ ") \x7b") ::
        (structTail defaults).tail := rfl
  rw [List.filterMap_append, List.filterMap_append,
    filterMap_between? _ fun line hl => hfront (not_init_structHead line hl).1,
    filterMap_between? _ fun line hl => hfront (not_init_of_ofMember (h line hl)).1, hinit,
    List.filterMap_cons_some (between?_eq_some_iff.mpr rfl),
    filterMap_between? _ fun line hl => hfront (htail line hl)]
  rfl

theorem emptyDefaults_struct {ls : List String} (h : ∀ line ∈ ls, OfMember line) :
    (linesBehind "    public init() \x7b" (structHead name ++ ls ++ structTail defaults)).filterMap
      (between? "        self.internalJson = " "") = [defaults] := by
  have hnot {lines : List String}
      (hl : ∀ line ∈ lines, startsWith "    public init() \x7b" line = false) :
      "    public init() \x7b" ∉ lines := by
    intro hm
    have hself : startsWith "    public init() \x7b" "    public init() \x7b" = true :=
      startsWith_literal rfl
    rw [hl _ hm] at hself
    cases hself
  have hfront {line : String} (hl : startsWith "    public init(" line = false) :
      startsWith "    public init() \x7b" line = false :=
    not_startsWith_longer (startsWith_literal rfl) hl
  have hbefore : "    public init() \x7b" ∉
      structHead name ++ ls ++ (structTail defaults).take 3 := by
    refine hnot ?_
    simp only [List.forall_mem_append]
    refine ⟨⟨fun line hl => hfront (not_init_structHead line hl).2,
      fun line hl => hfront (not_init_of_ofMember (h line hl)).2⟩, ?_⟩
    simp only [structTail, List.take_succ_cons, List.take_zero, List.forall_mem_cons,
      String.append_assoc]
    exact ⟨not_startsWith_literal rfl _, startsWith_literal rfl, startsWith_literal rfl, by simp⟩
  have hbehind : "    public init() \x7b" ∉ (structTail defaults).drop 4 := by
    refine hnot ?_
    simp only [structTail, List.drop_succ_cons, List.drop_zero, List.forall_mem_cons]
    exact ⟨not_startsWith_literal rfl _, startsWith_literal rfl, startsWith_literal rfl,
      startsWith_literal rfl, startsWith_literal rfl, startsWith_literal rfl,
      startsWith_literal rfl, startsWith_literal rfl, startsWith_literal rfl,
      startsWith_literal rfl, startsWith_literal rfl, startsWith_literal rfl, by simp⟩
  -- The opening of the initializer occurs once, so one line stands directly behind it.
  have hstruct : structHead name ++ ls ++ structTail defaults =
      structHead name ++ ls ++ (structTail defaults).take 3 ++
        "    public init() \x7b" :: (structTail defaults).drop 4 := by
    rw [List.append_assoc _ ((structTail defaults).take 3)]
    rfl
  have hset : (structTail defaults).drop 4 =
      ("        self.internalJson = " ++ defaults) :: (structTail defaults).drop 5 := rfl
  have hbetween : between? "        self.internalJson = " ""
      ("        self.internalJson = " ++ defaults) = some defaults :=
    between?_eq_some_iff.mpr (by rw [String.append_empty])
  rw [hstruct, linesBehind_once hbefore hbehind, hset, List.head?_cons, Option.toList_some,
    List.filterMap_cons_some hbetween, List.filterMap_nil]

/-- The struct of a type can be read back. Its public variables are the JSON value and one for each
field that is not always true; the values that a new struct starts with are the same in both
initializers and hold the fields that are. Both come in the order of the wire names. -/
theorem struct_read_back {t : TypeDef} {text : String} (h : structText c name t = .ok text)
    (hname : Unbroken name)
    (hfields : ∀ p ∈ t.fields.toList, Unbroken p.1 ∧ Unbroken p.2.type)
    (haccessors : ∀ p ∈ t.fields.toList, p.2.type ≠ "True" → Unbroken (accessorName c name p)) :
    ∃ members constants : List (String × Field),
      (members ++ constants).Perm t.fields.toList ∧
      (∀ p ∈ members, p.2.type ≠ "True") ∧ (∀ p ∈ constants, p.2.type = "True") ∧
      members.Pairwise (fun p q => p.1 < q.1) ∧ constants.Pairwise (fun p q => p.1 < q.1) ∧
      (∃ declarations,
        publicVariables text = "    public var json: Any \x7b" :: declarations ∧
        List.Forall₂
          (fun line p => Declares (Identifier.camelized (c.accessorName name p.1 p.2.type)) line)
          declarations members) ∧
      ∃ literal, initialDefaults text = [literal] ∧ emptyDefaults text = [literal] ∧
        literal = if constants = [] then "[:]"
          else "[" ++ listed (constants.map fun p => "\"" ++ p.1 ++ "\": true") ++ "]" := by
  obtain ⟨parts, hparts, rfl⟩ := structText_ok_iff.mp h
  have hsorted : ∀ p ∈ t.fields.sorted, Unbroken p.1 ∧ Unbroken p.2.type :=
    fun p hp => hfields p (Table.mem_sorted.mp hp)
  have hnames : ∀ p ∈ t.fields.sorted,
      isLiteralTrue p.2 = false → Unbroken (accessorName c name p) :=
    fun p hp ht =>
      haccessors p (Table.mem_sorted.mp hp) (by simpa [isLiteralTrue, trueType] using ht)
  obtain ⟨hdeclared, hmembers⟩ := lines_accessors hparts hsorted hnames
  have hlines := lines_struct hname (unbroken_defaultsLiteral fun p hp => (hsorted p hp).1) parts
  have hpairs := t.fields.sorted_ascending
  refine ⟨t.fields.sorted.filter fun p => !isLiteralTrue p.2,
    t.fields.sorted.filter fun p => isLiteralTrue p.2, ?_, ?_, ?_, hpairs.filter _,
    hpairs.filter _, ⟨_, ?_, hdeclared⟩, defaultsLiteral t.fields.sorted, ?_, ?_, ?_⟩
  · exact List.perm_append_comm.trans
      ((List.filter_append_perm _ _).trans (sortByKey_perm _))
  · simp [isLiteralTrue, trueType]
  · simp [isLiteralTrue, trueType]
  · rw [publicVariables, hlines, publicVariables_struct]
  · rw [initialDefaults, hlines, initialDefaults_struct hmembers]
  · rw [emptyDefaults, hlines, emptyDefaults_struct hmembers]
  · simp only [defaultsLiteral, trueDefaults, List.isEmpty_iff, List.map_eq_nil_iff]

/-- A type with a field that is always true. -/
def badge : TypeDef where
  fields := ⟨[("size", .single "Int"), ("kind", .single "True"), ("label_text", .single "String")],
    by decide⟩

/-- The struct of the type with three fields declares a variable for two of them. -/
theorem badge_read_back :
    ∃ text, structText Config.usual "Badge" badge = .ok text ∧
      ∃ declarations,
        publicVariables text = "    public var json: Any \x7b" :: declarations ∧
        declarations.length = 2 ∧ initialDefaults text = emptyDefaults text := by
  obtain ⟨text, htext⟩ : ∃ text, structText Config.usual "Badge" badge = .ok text := ⟨_, rfl⟩
  obtain ⟨members, constants, hperm, hmembers, hconstants, -, -, ⟨declarations, hvars, hdecl⟩,
    literal, hinitial, hempty, -⟩ :=
    struct_read_back htext (by decide) (by decide) (by decide)
  refine ⟨text, htext, declarations, hvars, ?_, hinitial.trans hempty.symm⟩
  have hcount := hperm.countP_eq fun p => p.2.type != "True"
  have hall : members.countP (fun p => p.2.type != "True") = members.length :=
    List.countP_eq_length.mpr fun p hp => by simp [hmembers p hp]
  have hnone : constants.countP (fun p => p.2.type != "True") = 0 :=
    List.countP_eq_zero.mpr fun p hp => by simp [hconstants p hp]
  rw [List.countP_append, hall, hnone] at hcount
  rw [hdecl.length_eq]
  exact hcount

end Structs
end Code
end ClientGen
