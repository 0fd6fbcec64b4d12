import ClientGen.Proofs.Brackets
import ClientGen.Proofs.Prediction

/-! Texts that have bytes. A text without the mark has bytes, and neither a template nor a change of
case brings the mark into the code. So the files of a schema have bytes if the mark is in no name and
no type. -/

namespace ClientGen

open Text
open Text.Utf8 (Encodable)

namespace Text

/-! ## Texts without the mark -/

/-- A text in which each character stands for itself. -/
def Unmarked (s : String) : Prop :=
  mark ∉ s.toList

instance (s : String) : Decidable (Unmarked s) :=
  inferInstanceAs (Decidable (_ ∉ _))

/-- No character is a surrogate. -/
theorem isSurrogate_toNat (c : Char) : isSurrogate c.toNat = false := by
  rw [isSurrogate_eq_false_iff]
  have hv : c.toNat < 0xD800 ∨ 0xDFFF < c.toNat ∧ c.toNat < 0x110000 := c.valid
  omega

theorem Unmarked.encodable {s : String} (h : Unmarked s) : Encodable s := by
  intro n hn
  rw [codePoints_of_not_mem h] at hn
  obtain ⟨c, -, rfl⟩ := List.mem_map.mp hn
  exact isSurrogate_toNat c

@[simp] theorem unmarked_append (a b : String) : Unmarked (a ++ b) ↔ Unmarked a ∧ Unmarked b := by
  simp [Unmarked]

/-- The mark is not in a literal if it is none of its characters. -/
theorem unmarked_literal {cs : List Char} (h : mark ∉ cs) : Unmarked (String.ofList cs) := by
  rwa [Unmarked, String.toList_ofList]

theorem unmarked_concat {ls : List String} (h : ∀ l ∈ ls, Unmarked l) : Unmarked (concat ls) := by
  intro hm
  rw [concat, String.toList_ofList] at hm
  obtain ⟨l, hl, hm⟩ := List.mem_flatMap.mp hm
  exact h l hl hm

theorem unmarked_unlines {ls : List String} (h : ∀ l ∈ ls, Unmarked l) : Unmarked (unlines ls) := by
  intro hm
  rw [unlines, String.toList_ofList] at hm
  rcases mem_join hm with hm | ⟨part, hp, hm⟩
  · exact absurd hm (by decide)
  · obtain ⟨l, hl, rfl⟩ := List.mem_map.mp hp
    exact h l hl hm

theorem unmarked_listed {ls : List String} (h : ∀ l ∈ ls, Unmarked l) : Unmarked (listed ls) := by
  induction ls with
  | nil => decide
  | cons l rest ih =>
    obtain ⟨hl, hrest⟩ := List.forall_mem_cons.mp h
    cases rest with
    | nil => exact hl
    | cons m ms =>
      rw [listed, unmarked_append, unmarked_append]
      · exact ⟨⟨hl, by decide⟩, ih hrest⟩
      · simp

theorem unmarked_indent {s : String} (h : Unmarked s) : Unmarked (indent s 1 4) := by
  rw [← unlines_lines (indent s 1 4), lines_indent]
  refine unmarked_unlines fun l hl => ?_
  obtain ⟨line, hline, rfl⟩ := List.mem_map.mp hl
  obtain ⟨part, hp, rfl⟩ := List.mem_map.mp hline
  have hpart : mark ∉ part := fun hm => h (mem_of_mem_split hp hm).1
  have hspaces : mark ∉ spaces 4 := by decide
  refine unmarked_literal ?_
  rw [String.toList_ofList, indentLine]
  split
  · exact hpart
  · simp [hpart, hspaces]

/-- A text with the mark before a character that tells a surrogate has no bytes. -/
theorem not_encodable_of_infix {s : String} {k : Char}
    (hk : isSurrogate (k.toNat - markShift) = true) (h : [mark, k] <:+: s.toList) :
    ¬ Encodable s := by
  obtain ⟨before, rest, h⟩ := h
  have hmarked : isMarked (k.toNat - markShift) = true := by simp [isMarked, hk]
  have hpoints := codePoints_append_marked before hmarked rest
  have hs : s.toList = before ++ mark :: k :: rest := by rw [← h]; simp
  intro he
  have hno := he (k.toNat - markShift) (by rw [hs, hpoints]; simp)
  rw [hk] at hno
  cases hno

theorem infix_concat {s : String} {ls : List String} (h : s ∈ ls) :
    s.toList <:+: (concat ls).toList := by
  rw [concat, String.toList_ofList, List.flatMap_def]
  exact List.infix_of_mem_flatten (List.mem_map_of_mem h)

theorem settled_mark : Settled mark :=
  settled_of_isUnmapped (by decide) (by decide) (by decide +kernel)

theorem unmarked_camelized {s : String} (h : Unmarked s) : Unmarked (Identifier.camelized s) :=
  Identifier.not_mem_camelized settled_mark h

theorem unmarked_capitalized {s : String} (h : Unmarked s) : Unmarked (Identifier.capitalized s) :=
  Identifier.not_mem_capitalized settled_mark h

end Text

namespace Code

/-! ## Accessors -/

section Templates

variable {k : Kind} {accessor key : String} {f : Field} {ls : List String}

theorem unmarked_stem {type stem : String} (h : stem? type = some stem) : Unmarked stem := by
  have hall : ∀ p ∈ scalarStems, Unmarked p.2 := by decide +kernel
  obtain ⟨front, back, hs, -⟩ := List.lookup_eq_some_iff.mp h
  exact hall (type, stem) (by simp [hs])

theorem unmarked_slot : Unmarked (Accessor.slot key) ↔ Unmarked key := by
  have hopening : Unmarked "internalJson[\"" := by decide
  have hclosing : Unmarked "\"]" := by decide
  unfold Accessor.slot
  simp only [unmarked_append, hopening, hclosing, true_and, and_true]

theorem unmarked_opened {type : String} :
    Unmarked (Accessor.opened accessor type) ↔ Unmarked accessor ∧ Unmarked type := by
  have hopening : Unmarked "public var " := by decide
  have hcolon : Unmarked ": " := by decide
  have hbrace : Unmarked " \x7b" := by decide
  unfold Accessor.opened Accessor.declared
  simp only [unmarked_append, hopening, hcolon, hbrace, true_and, and_true]

theorem unmarked_getter {body : String} : Unmarked (Accessor.getter body) ↔ Unmarked body := by
  have hopening : Unmarked "    get \x7b return " := by decide
  have hbrace : Unmarked " \x7d" := by decide
  unfold Accessor.getter
  simp only [unmarked_append, hopening, hbrace, true_and, and_true]

theorem unmarked_setter {body : String} : Unmarked (Accessor.setter body) ↔ Unmarked body := by
  have hopening : Unmarked "    set \x7b " := by decide
  have hbrace : Unmarked " \x7d" := by decide
  unfold Accessor.setter
  simp only [unmarked_append, hopening, hbrace, true_and, and_true]

theorem unmarked_storeRows (h : Unmarked key) : ∀ l ∈ Accessor.storeRows key, Unmarked l := by
  unfold Accessor.storeRows
  simp only [List.forall_mem_cons, List.not_mem_nil, false_imp_iff, implies_true, unmarked_append,
    unmarked_slot, h, and_true]
  and_intros
  all_goals exact unmarked_literal (by decide +kernel)

/-- No template brings in the mark. -/
theorem unmarked_lines (ha : Unmarked accessor) (hk : Unmarked key) (hf : Unmarked f.type)
    (h : Accessor.lines k accessor key f = .ok ls) : ∀ l ∈ ls, Unmarked l := by
  have hrows := unmarked_storeRows hk
  have hquery : Unmarked (if f.isOptional then "?" else "") := by split <;> decide
  -- Apart from the names and the types there are only literals.
  cases k with
  | scalar =>
    simp only [Accessor.lines] at h
    split at h
    · next stem hs =>
      cases h
      have hstem := unmarked_stem hs
      have hvalue : Unmarked (if f.isOptional then "" else "Value") := by split <;> decide
      unfold Accessor.scalar
      simp only [List.forall_mem_cons, List.not_mem_nil, false_imp_iff, implies_true,
        unmarked_append, unmarked_opened, unmarked_getter, unmarked_setter, unmarked_slot, ha, hk,
        hf, hquery, hstem, hvalue, and_true, true_and]
      and_intros
      all_goals exact unmarked_literal (by decide +kernel)
    · cases h
  | dateOptional =>
    cases h
    unfold Accessor.dateOptional
    simp only [List.forall_mem_cons, List.not_mem_nil, false_imp_iff, implies_true,
      unmarked_append, unmarked_opened, unmarked_slot, ha, hk, and_true, true_and]
    and_intros
    all_goals exact unmarked_literal (by decide +kernel)
  | dateRequired =>
    cases h
    unfold Accessor.dateRequired
    simp only [List.forall_mem_cons, List.not_mem_nil, false_imp_iff, implies_true,
      unmarked_append, unmarked_opened, unmarked_getter, unmarked_setter, unmarked_slot, ha, hk,
      and_true, true_and]
    and_intros
    all_goals exact unmarked_literal (by decide +kernel)
  | arrayOfArrayOptional =>
    cases h
    unfold Accessor.arrayOfArrayOptional
    simp only [List.forall_mem_cons, List.not_mem_nil, false_imp_iff, implies_true,
      unmarked_append, List.forall_mem_append, unmarked_opened, unmarked_getter, unmarked_slot,
      ha, hk, hf, and_true, true_and]
    and_intros
    any_goals exact hrows
    all_goals exact unmarked_literal (by decide +kernel)
  | arrayOfArrayRequired =>
    cases h
    unfold Accessor.arrayOfArrayRequired
    simp only [List.forall_mem_cons, List.not_mem_nil, false_imp_iff, implies_true,
      unmarked_append, List.forall_mem_append, unmarked_opened, unmarked_getter, unmarked_slot,
      ha, hk, hf, and_true, true_and]
    and_intros
    any_goals exact hrows
    all_goals exact unmarked_literal (by decide +kernel)
  | arrayOptional =>
    cases h
    unfold Accessor.arrayOptional
    simp only [List.forall_mem_cons, List.not_mem_nil, false_imp_iff, implies_true,
      unmarked_append, unmarked_opened, unmarked_getter, unmarked_setter, unmarked_slot, ha, hk,
      hf, and_true, true_and]
    and_intros
    all_goals exact unmarked_literal (by decide +kernel)
  | arrayRequired =>
    cases h
    unfold Accessor.arrayRequired
    simp only [List.forall_mem_cons, List.not_mem_nil, false_imp_iff, implies_true,
      unmarked_append, unmarked_opened, unmarked_getter, unmarked_setter, unmarked_slot, ha, hk,
      hf, and_true, true_and]
    and_intros
    all_goals exact unmarked_literal (by decide +kernel)
  | variantContent =>
    cases h
    have hstored : Unmarked (if f.isOptional then "JSON(newValue?.json ?? JSON.null)"
        else "JSON(newValue.json)") := by split <;> decide +kernel
    unfold Accessor.variantContent
    simp only [List.forall_mem_cons, List.not_mem_nil, false_imp_iff, implies_true,
      unmarked_append, unmarked_opened, unmarked_slot, ha, hk, hf, hquery, hstored, and_true,
      true_and]
    and_intros
    all_goals exact unmarked_literal (by decide +kernel)
  | selfBridging =>
    cases h
    have hinitial : Unmarked (if f.isOptional then "? = nil" else "") := by split <;> decide
    unfold Accessor.selfBridging Accessor.declared
    simp only [List.forall_mem_cons, List.not_mem_nil, false_imp_iff, implies_true,
      unmarked_append, ha, hf, hinitial, and_true]
    and_intros
    all_goals exact unmarked_literal (by decide +kernel)
  | nestedObject =>
    cases h
    unfold Accessor.nestedObject
    split
    all_goals
      simp only [List.forall_mem_cons, List.not_mem_nil, false_imp_iff, implies_true,
        unmarked_append, unmarked_opened, unmarked_getter, unmarked_setter, unmarked_slot, ha, hk,
        hf, and_true, true_and]
      and_intros
      all_goals exact unmarked_literal (by decide +kernel)

theorem unmarked_accessor {c : Config} {owner text : String} {p : String × Field}
    (ha : Unmarked (accessorName c owner p)) (hk : Unmarked p.1) (hf : Unmarked p.2.type)
    (h : Code.accessor c owner p = .ok text) : Unmarked text := by
  obtain ⟨k, ls, hls, rfl⟩ := lines_of_accessor h
  exact unmarked_indent (unmarked_unlines (unmarked_lines ha hk hf hls))

end Templates

/-! ## Structs and methods -/

/-- A field or a parameter without the mark in its name and its type. -/
def UnmarkedEntry (p : String × Field) : Prop :=
  Unmarked p.1 ∧ Unmarked p.2.type

instance (p : String × Field) : Decidable (UnmarkedEntry p) :=
  inferInstanceAs (Decidable (_ ∧ _))

/-- Settings that bring no mark into the code or into the names of its files. -/
structure UnmarkedConfig (c : Config) : Prop where
  extension : Unmarked c.fileExtension
  client : Unmarked c.clientType
  generator : Unmarked c.generatorName
  renames : ∀ r ∈ c.renameRules, Unmarked r.accessor

instance (c : Config) : Decidable (UnmarkedConfig c) :=
  decidable_of_iff (Unmarked c.fileExtension ∧ Unmarked c.clientType ∧ Unmarked c.generatorName ∧
    ∀ r ∈ c.renameRules, Unmarked r.accessor)
    ⟨fun ⟨he, hc, hg, hr⟩ => ⟨he, hc, hg, hr⟩,
      fun h => ⟨h.extension, h.client, h.generator, h.renames⟩⟩

section Structs

variable {c : Config} {name : String} {fields : List (String × Field)}

theorem unmarked_accessorName (hc : UnmarkedConfig c) {p : String × Field} (hk : Unmarked p.1) :
    Unmarked (accessorName c name p) := by
  refine unmarked_camelized ?_
  rw [Config.accessorName]
  split
  · next r hr => exact hc.renames r (List.mem_of_find?_eq_some hr)
  · exact hk

theorem unmarked_accessors (hc : UnmarkedConfig c) {members : List String}
    (hp : ∀ p ∈ fields, UnmarkedEntry p) (h : accessors c name fields = .ok members) :
    ∀ text ∈ members, Unmarked text := by
  induction fields generalizing members with
  | nil =>
    cases h
    simp
  | cons p rest ih =>
    obtain ⟨⟨hk, hf⟩, hrest⟩ := List.forall_mem_cons.mp hp
    cases ht : isLiteralTrue p.2 with
    | true =>
      rw [accessors, if_pos ht] at h
      exact ih hrest h
    | false =>
      obtain ⟨text, others, htext, hothers, rfl⟩ := (accessors_cons_ok_iff ht).mp h
      have hfirst := unmarked_accessor (unmarked_accessorName hc hk) hk hf htext
      exact List.forall_mem_cons.mpr ⟨hfirst, List.forall_mem_cons.mpr
        ⟨by decide, ih hrest hothers⟩⟩

theorem unmarked_defaultsLiteral (h : ∀ p ∈ fields, UnmarkedEntry p) :
    Unmarked (defaultsLiteral fields) := by
  have hlisted : Unmarked (listed (trueDefaults fields)) := by
    refine unmarked_listed fun l hl => ?_
    obtain ⟨p, hp, rfl⟩ := List.mem_map.mp hl
    have hkey : Unmarked p.1 := (h p (List.mem_filter.mp hp).1).1
    simp only [unmarked_append, hkey, and_true]
    and_intros
    all_goals exact unmarked_literal (by decide)
  unfold defaultsLiteral
  dsimp only
  split
  · exact unmarked_literal (by decide)
  · simp only [unmarked_append, hlisted, and_true]
    and_intros
    all_goals exact unmarked_literal (by decide)

theorem unmarked_structText (hc : UnmarkedConfig c) {t : TypeDef} {text : String}
    (hn : Unmarked name) (hp : ∀ p ∈ t.fields.toList, UnmarkedEntry p)
    (h : structText c name t = .ok text) : Unmarked text := by
  obtain ⟨members, hm, rfl⟩ := structText_ok_iff.mp h
  have hsorted : ∀ p ∈ t.fields.sorted, UnmarkedEntry p := fun p hs => hp p (Table.mem_sorted.mp hs)
  have hmembers := unmarked_accessors hc hsorted hm
  have hdefaults := unmarked_defaultsLiteral hsorted
  refine unmarked_unlines ?_
  unfold structHead structTail
  simp only [List.forall_mem_append, List.forall_mem_cons, List.not_mem_nil, false_imp_iff,
    implies_true, unmarked_append, hn, hdefaults, and_true]
  and_intros
  any_goals exact hmembers
  all_goals exact unmarked_literal (by decide +kernel)

end Structs

section Methods

variable {parameters : List (String × Field)}

theorem unmarked_pad : Unmarked pad := by decide

theorem unmarked_typeName {f : Field} (h : Unmarked f.type) : Unmarked (typeName f) := by
  have hbase : Unmarked (if isLiteralTrue f then "Bool" else f.type) := by
    split
    · decide
    · exact h
  have hquery : Unmarked (if f.isOptional then "?" else "") := by split <;> decide
  unfold typeName
  dsimp only
  rw [unmarked_append]
  refine ⟨?_, hquery⟩
  split
  · simp only [unmarked_append, hbase, and_true]
    decide
  · split
    · simp only [unmarked_append, hbase, and_true]
      decide
    · exact hbase

theorem unmarked_parameterItem {p : String × Field} (h : UnmarkedEntry p) :
    Unmarked (pad ++ parameterItem p) := by
  have hname := unmarked_camelized h.1
  have htype := unmarked_typeName h.2
  have hinitial : Unmarked (if p.2.isOptional then " = nil" else "") := by split <;> decide
  unfold parameterItem
  simp only [unmarked_append, unmarked_pad, hname, htype, hinitial, and_true, true_and]
  and_intros
  all_goals exact unmarked_literal (by decide)

theorem unmarked_bridgingPair {p : String × Field} (h : Unmarked p.1) :
    Unmarked (pad ++ bridgingPair p) := by
  have hname := unmarked_camelized h
  unfold bridgingPair
  simp only [unmarked_append, unmarked_pad, h, hname, and_true, true_and]
  and_intros
  all_goals exact unmarked_literal (by decide)

theorem unmarked_bridgingLines (h : ∀ p ∈ parameters, UnmarkedEntry p) :
    Unmarked (bridgingLines parameters) := by
  induction parameters with
  | nil => decide
  | cons p rest ih =>
    obtain ⟨hp, hrest⟩ := List.forall_mem_cons.mp h
    have hpair := unmarked_bridgingPair hp.1
    cases rest with
    | nil => exact hpair
    | cons q more =>
      rw [bridgingLines, unmarked_append, unmarked_append]
      · exact ⟨⟨hpair, by decide⟩, ih hrest⟩
      · simp

theorem unmarked_bridgingLiteral (h : ∀ p ∈ parameters, UnmarkedEntry p) :
    Unmarked (bridgingLiteral parameters) := by
  have hlines := unmarked_bridgingLines h
  unfold bridgingLiteral
  split
  · exact unmarked_literal (by decide)
  · simp only [unmarked_append, hlines, and_true]
    and_intros
    all_goals exact unmarked_literal (by decide)

theorem unmarked_methodText {name : String} {m : Method} (hn : Unmarked name)
    (hp : ∀ p ∈ m.parameters.toList, UnmarkedEntry p) (hr : Unmarked m.result.type) :
    Unmarked (methodText name m) := by
  have hsorted : ∀ p ∈ m.parameters.sorted, UnmarkedEntry p :=
    fun p hs => hp p (Table.mem_sorted.mp hs)
  have hsignature : ∀ l ∈ m.parameters.sorted.map fun p => pad ++ parameterItem p, Unmarked l := by
    refine fun l hl => ?_
    obtain ⟨p, hs, rfl⟩ := List.mem_map.mp hl
    exact unmarked_parameterItem (hsorted p hs)
  have hresult := unmarked_typeName hr
  have hliteral := unmarked_bridgingLiteral hsorted
  have hcapital := unmarked_capitalized hn
  refine unmarked_unlines ?_
  unfold methodLines completionName call
  simp only [List.forall_mem_append, List.forall_mem_cons, List.not_mem_nil, false_imp_iff,
    implies_true, unmarked_append, unmarked_pad, hn, hresult, hliteral, hcapital, and_true, true_and]
  and_intros
  any_goals exact hsignature
  all_goals exact unmarked_literal (by decide +kernel)

/-- The type of a result is spelled in the code of its method. -/
theorem infix_methodText (name : String) (m : Method) :
    (typeName m.result).toList <:+: (methodText name m).toList := by
  obtain ⟨rest, hr⟩ := unlines_cons ("    typealias " ++ completionName name ++ " = (_ result: " ++
    typeName m.result ++ ", _ error: DataTaskError?) -> ()") ((methodLines name m).tail)
  have htext : methodText name m = "    typealias " ++ completionName name ++ " = (_ result: " ++
    typeName m.result ++ ", _ error: DataTaskError?) -> ()" ++ rest := hr
  rw [htext]
  refine ⟨("    typealias " ++ completionName name ++ " = (_ result: ").toList,
    (", _ error: DataTaskError?) -> ()" ++ rest).toList, ?_⟩
  simp only [String.toList_append, List.append_assoc]

end Methods

/-! ## Files -/

section Heads

variable {c : Config}

theorem unmarked_typesHeader (h : UnmarkedConfig c) : Unmarked (typesHeader c) := by
  refine unmarked_unlines ?_
  unfold banner
  simp only [List.forall_mem_cons, List.not_mem_nil, false_imp_iff, implies_true, unmarked_append,
    h.generator, and_true]
  and_intros
  all_goals exact unmarked_literal (by decide +kernel)

theorem unmarked_methodsHeader (h : UnmarkedConfig c) : Unmarked (methodsHeader c) := by
  refine unmarked_unlines ?_
  unfold banner
  simp only [List.forall_mem_cons, List.not_mem_nil, false_imp_iff, implies_true, unmarked_append,
    h.generator, h.client, and_true]
  and_intros
  all_goals exact unmarked_literal (by decide +kernel)

end Heads

/-- A schema without the mark in its names and types. -/
structure UnmarkedSchema (schema : Schema) : Prop where
  types : ∀ p ∈ schema.types.toList, Unmarked p.1 ∧ ∀ q ∈ p.2.fields.toList, UnmarkedEntry q
  methods : ∀ p ∈ schema.methods.toList, Unmarked p.1 ∧ Unmarked p.2.result.type ∧
    ∀ q ∈ p.2.parameters.toList, UnmarkedEntry q

instance (schema : Schema) : Decidable (UnmarkedSchema schema) :=
  decidable_of_iff ((∀ p ∈ schema.types.toList, Unmarked p.1 ∧
      ∀ q ∈ p.2.fields.toList, UnmarkedEntry q) ∧
    ∀ p ∈ schema.methods.toList, Unmarked p.1 ∧ Unmarked p.2.result.type ∧
      ∀ q ∈ p.2.parameters.toList, UnmarkedEntry q)
    ⟨fun ⟨ht, hm⟩ => ⟨ht, hm⟩, fun h => ⟨h.types, h.methods⟩⟩

end Code

/-- The name and the text of a file have bytes. -/
def Writable (q : String × String) : Prop :=
  Encodable q.1 ∧ Encodable q.2

namespace Session

open FileTree Code

/-- A callback that brings no mark into the code. -/
def Callback.Unmarked : Callback → Prop
  | .type name t => Text.Unmarked name ∧ ∀ q ∈ t.fields.toList, UnmarkedEntry q
  | .method name m => Text.Unmarked name ∧ Text.Unmarked m.result.type ∧
      ∀ q ∈ m.parameters.toList, UnmarkedEntry q
  | _ => True

/-- A session without the mark in its settings and its code so far. -/
structure Unmarked (s : Session) : Prop where
  config : UnmarkedConfig s.config
  types : ∀ text ∈ s.types, Text.Unmarked text
  methods : ∀ text ∈ s.methods, Text.Unmarked text

namespace Unmarked

variable {s : Session}

theorem addType (h : s.Unmarked) {text : String} (ht : Text.Unmarked text) :
    (s.addType text).Unmarked :=
  ⟨h.config, List.forall_mem_append.mpr ⟨h.types, List.forall_mem_singleton.mpr ht⟩, h.methods⟩

theorem addMethod (h : s.Unmarked) {text : String} (ht : Text.Unmarked text) :
    (s.addMethod text).Unmarked :=
  ⟨h.config, h.types, List.forall_mem_append.mpr ⟨h.methods, List.forall_mem_singleton.mpr ht⟩⟩

theorem step (h : s.Unmarked) (d : Disk) {b : Callback} (hb : b.Unmarked) (hf : b ≠ .finish) :
    (s.step d b).session.Unmarked := by
  cases b with
  | start => exact h
  | beforeTypes => exact h.addType (unmarked_typesHeader h.config)
  | type name t =>
    simp only [Session.step]
    split
    · next text ht =>
      have hadd := h.addType (unmarked_structText h.config hb.1 hb.2 ht)
      exact ⟨hadd.config, hadd.types, hadd.methods⟩
    · exact h
  | afterTypes => exact h
  | beforeMethods => exact h.addMethod (unmarked_methodsHeader h.config)
  | method name m =>
    have hadd := h.addMethod (unmarked_methodText hb.1 hb.2.2 hb.2.1)
    exact ⟨hadd.config, hadd.types, hadd.methods⟩
  | afterMethods =>
    have hfooter : Text.Unmarked methodsFooter := by decide
    exact h.addMethod hfooter
  | finish => exact absurd rfl hf

theorem run (h : s.Unmarked) (d : Disk) {bs : List Callback} (hb : ∀ b ∈ bs, b.Unmarked)
    (hf : .finish ∉ bs) : (s.run d bs).session.Unmarked := by
  induction bs generalizing s d with
  | nil => exact h
  | cons b rest ih =>
    obtain ⟨hfirst, hrest⟩ := List.forall_mem_cons.mp hb
    have hs := h.step d hfirst fun e => hf (by simp [e])
    simp only [Session.run]
    split
    · exact hs
    · exact ih hs _ hrest fun hm => hf (by simp [hm])

/-- The files of such a session have bytes. -/
theorem writable (h : s.Unmarked) : ∀ q ∈ s.rendered, Writable q := by
  have htypes : Text.Unmarked s.config.typesFile :=
    (unmarked_append _ _).mpr ⟨by decide, h.config.extension⟩
  have hmethods : Text.Unmarked s.config.methodsFile :=
    (unmarked_append _ _).mpr ⟨by decide, h.config.extension⟩
  simp only [rendered, List.forall_mem_cons, List.not_mem_nil, false_imp_iff, implies_true, and_true]
  exact ⟨⟨htypes.encodable, (unmarked_concat h.types).encodable⟩,
    ⟨hmethods.encodable, (unmarked_concat h.methods).encodable⟩⟩

end Unmarked

theorem unmarked_of_mem_delivery {schema : Schema} (h : UnmarkedSchema schema) :
    ∀ b ∈ delivery schema false, b.Unmarked := by
  intro b hb
  simp only [delivery, List.mem_append, List.mem_cons, List.mem_map, List.not_mem_nil, or_false,
    Bool.false_eq_true, if_false] at hb
  obtain ((((rfl | rfl) | ⟨p, hp, rfl⟩) | rfl | rfl) | ⟨p, hp, rfl⟩) | rfl := hb
  · trivial
  · trivial
  · exact h.types p hp
  · trivial
  · trivial
  · exact h.methods p hp
  · trivial

end Session

namespace Pipeline

open FileTree Code

/-- The files that the code of a schema comes to. -/
def filesFor (d : Disk) (schema : Schema) (c : Config) (output : Path) : List (String × String) :=
  ((Session.new output c).deliver d schema false).session.rendered

/-- The files of a schema have bytes if the mark is in none of the names and types. -/
theorem writable_filesFor {schema : Schema} {c : Config} (hs : UnmarkedSchema schema)
    (hc : UnmarkedConfig c) (d : Disk) (output : Path) :
    ∀ q ∈ filesFor d schema c output, Writable q := by
  obtain ⟨log, he⟩ := (Session.new output c).deliver_eq d schema false
  have hnew : (Session.new output c).Unmarked := ⟨hc, by simp [Session.new], by simp [Session.new]⟩
  unfold filesFor
  rw [he]
  exact (hnew.run d (Session.unmarked_of_mem_delivery hs)
    (Session.finish_not_mem_delivery schema)).writable

end Pipeline
end ClientGen
