import ClientGen.Proofs.Brackets
import ClientGen.Proofs.Callbacks

/-! Brackets in the code. Where no bracket comes in through a name or a type, each accessor, each
struct and each method closes what it opens; only the head of the extension leaves a brace open, and
the end of the extension closes it. So the files are nested as a whole. -/

namespace ClientGen
namespace Code

open Text

/-! ## Accessors -/

section Templates

variable {k : Kind} {accessor key : String} {f : Field} {ls : List String}

theorem unbracketed_stem {type stem : String} (h : stem? type = some stem) : Unbracketed stem := by
  have hall : ∀ p ∈ scalarStems, Unbracketed p.2 := by decide
  obtain ⟨front, back, hs, -⟩ := List.lookup_eq_some_iff.mp h
  exact hall (type, stem) (by simp [hs])

theorem brackets_slot (h : Unbracketed key) : brackets (Accessor.slot key) = ['[', ']'] := by
  unfold Accessor.slot
  rw [brackets_append, brackets_append, h]
  decide

theorem brackets_opened (h : Unbracketed accessor) (type : String) :
    brackets (Accessor.opened accessor type) = brackets type ++ ['\x7b'] := by
  unfold Accessor.opened Accessor.declared
  simp only [brackets_append]
  rw [h]
  rfl

theorem brackets_getter (body : String) :
    brackets (Accessor.getter body) = '\x7b' :: (brackets body ++ ['\x7d']) := by
  unfold Accessor.getter
  simp only [brackets_append]
  rfl

theorem brackets_setter (body : String) :
    brackets (Accessor.setter body) = '\x7b' :: (brackets body ++ ['\x7d']) := by
  unfold Accessor.setter
  simp only [brackets_append]
  rfl

theorem nested_storeRows (h : Unbracketed key) :
    Nested ((Accessor.storeRows key).flatMap brackets) := by
  unfold Accessor.storeRows
  simp only [List.flatMap_cons, List.flatMap_nil, brackets_append, brackets_slot h]
  repeat rw [brackets_literal]
  decide +kernel

/-- What a template opens it closes, in each of its forms. -/
theorem nested_lines (ha : Unbracketed accessor) (hk : Unbracketed key) (hf : Unbracketed f.type)
    (h : Accessor.lines k accessor key f = .ok ls) : Nested (ls.flatMap brackets) := by
  have hslot := brackets_slot hk
  have hopened := brackets_opened ha
  have hrows := (nested_storeRows hk).awaited_eq
  have htype : brackets f.type = [] := hf
  have hmark : brackets (if f.isOptional then "?" else "") = [] := by split <;> rfl
  -- Without the names and the types only literals are left, and their brackets are a closed word.
  cases k with
  | scalar =>
    simp only [Accessor.lines] at h
    split at h
    · next stem hs =>
      cases h
      have hstem : brackets stem = [] := unbracketed_stem hs
      have hvalue : brackets (if f.isOptional then "" else "Value") = [] := by split <;> rfl
      unfold Accessor.scalar
      simp only [List.flatMap_cons, List.flatMap_nil, brackets_append, brackets_getter,
        brackets_setter, hslot, hopened, htype, hmark, hstem, hvalue]
      repeat rw [brackets_literal]
      decide +kernel
    · cases h
  | dateOptional =>
    cases h
    unfold Accessor.dateOptional
    simp only [List.flatMap_cons, List.flatMap_nil, brackets_append, hslot, hopened]
    repeat rw [brackets_literal]
    decide +kernel
  | dateRequired =>
    cases h
    unfold Accessor.dateRequired
    simp only [List.flatMap_cons, List.flatMap_nil, brackets_append, brackets_getter,
      brackets_setter, hslot, hopened]
    repeat rw [brackets_literal]
    decide +kernel
  | arrayOfArrayOptional =>
    cases h
    unfold Accessor.arrayOfArrayOptional
    simp only [nested_iff, List.flatMap_append, List.flatMap_cons, List.flatMap_nil,
      brackets_append, brackets_getter, awaited_append, hslot, hopened, htype, hrows]
    repeat rw [brackets_literal]
    decide +kernel
  | arrayOfArrayRequired =>
    cases h
    unfold Accessor.arrayOfArrayRequired
    simp only [nested_iff, List.flatMap_append, List.flatMap_cons, List.flatMap_nil,
      brackets_append, brackets_getter, awaited_append, hslot, hopened, htype, hrows]
    repeat rw [brackets_literal]
    decide +kernel
  | arrayOptional =>
    cases h
    unfold Accessor.arrayOptional
    simp only [List.flatMap_cons, List.flatMap_nil, brackets_append, brackets_getter,
      brackets_setter, hslot, hopened, htype]
    repeat rw [brackets_literal]
    decide +kernel
  | arrayRequired =>
    cases h
    unfold Accessor.arrayRequired
    simp only [List.flatMap_cons, List.flatMap_nil, brackets_append, brackets_getter,
      brackets_setter, hslot, hopened, htype]
    repeat rw [brackets_literal]
    decide +kernel
  | variantContent =>
    cases h
    have hstored : brackets (if f.isOptional then "JSON(newValue?.json ?? JSON.null)"
        else "JSON(newValue.json)") = ['(', ')'] := by split <;> decide +kernel
    unfold Accessor.variantContent
    simp only [List.flatMap_cons, List.flatMap_nil, brackets_append, hslot, hopened, htype, hmark,
      hstored]
    repeat rw [brackets_literal]
    decide +kernel
  | selfBridging =>
    cases h
    have hinitial : brackets (if f.isOptional then "? = nil" else "") = [] := by split <;> rfl
    have haccessor : brackets accessor = [] := ha
    unfold Accessor.selfBridging Accessor.declared
    simp only [List.flatMap_cons, List.flatMap_nil, brackets_append, haccessor, htype, hinitial]
    repeat rw [brackets_literal]
    decide +kernel
  | nestedObject =>
    cases h
    unfold Accessor.nestedObject
    split
    all_goals
      simp only [List.flatMap_cons, List.flatMap_nil, brackets_append, brackets_getter,
        brackets_setter, hslot, hopened, htype]
      repeat rw [brackets_literal]
      decide +kernel

theorem nested_accessor {c : Config} {owner text : String} {p : String × Field}
    (ha : Unbracketed (accessorName c owner p)) (hk : Unbracketed p.1) (hf : Unbracketed p.2.type)
    (h : Code.accessor c owner p = .ok text) : Nested (brackets text) := by
  obtain ⟨k, ls, hls, rfl⟩ := lines_of_accessor h
  rw [brackets_indent, brackets_unlines]
  exact nested_lines ha hk hf hls

end Templates

/-! ## Structs -/

/-- A field of a type that brings no bracket into the code, neither by its name nor by its type nor
by the name of its accessor, if it has one. -/
structure UnbracketedMember (c : Config) (owner : String) (p : String × Field) : Prop where
  key : Unbracketed p.1
  type : Unbracketed p.2.type
  accessor : isLiteralTrue p.2 = false → Unbracketed (accessorName c owner p)

instance (c : Config) (owner : String) (p : String × Field) :
    Decidable (UnbracketedMember c owner p) :=
  decidable_of_iff (Unbracketed p.1 ∧ Unbracketed p.2.type ∧
    (isLiteralTrue p.2 = false → Unbracketed (accessorName c owner p)))
    ⟨fun ⟨hk, ht, ha⟩ => ⟨hk, ht, ha⟩, fun h => ⟨h.key, h.type, h.accessor⟩⟩

section Structs

variable {c : Config} {name : String} {fields : List (String × Field)}

theorem nested_accessors {members : List String} (hp : ∀ p ∈ fields, UnbracketedMember c name p)
    (h : accessors c name fields = .ok members) : Nested (members.flatMap brackets) := by
  induction fields generalizing members with
  | nil =>
    cases h
    exact .nil
  | cons p rest ih =>
    obtain ⟨hfirst, hrest⟩ := List.forall_mem_cons.mp hp
    cases ht : isLiteralTrue p.2 with
    | true =>
      rw [accessors, if_pos ht] at h
      exact ih hrest h
    | false =>
      obtain ⟨text, others, htext, hothers, rfl⟩ := (accessors_cons_ok_iff ht).mp h
      simp only [List.flatMap_cons]
      exact .append (nested_accessor (hfirst.accessor ht) hfirst.key hfirst.type htext)
        (.append .nil (ih hrest hothers))

theorem brackets_defaultsLiteral (h : ∀ p ∈ fields, Unbracketed p.1) :
    brackets (defaultsLiteral fields) = ['[', ']'] := by
  have hlisted : Unbracketed (listed (trueDefaults fields)) := by
    refine unbracketed_listed fun l hl => ?_
    obtain ⟨p, hp, rfl⟩ := List.mem_map.mp hl
    have hkey : brackets p.1 = [] := h p (List.mem_filter.mp hp).1
    rw [Unbracketed, brackets_append, brackets_append, hkey]
    decide
  unfold defaultsLiteral
  dsimp only
  split
  · decide
  · rw [brackets_append, brackets_append, hlisted]
    decide

/-- The first lines of a struct leave its brace open, and the last ones close it. -/
theorem awaited_structHead (h : Unbracketed name) :
    awaited [] ((structHead name).flatMap brackets) = some ['}'] := by
  have hname : brackets name = [] := h
  unfold structHead
  simp only [List.flatMap_cons, List.flatMap_nil, brackets_append, hname]
  repeat rw [brackets_literal]
  decide +kernel

theorem awaited_structTail {defaults : String} (h : brackets defaults = ['[', ']']) :
    awaited ['}'] ((structTail defaults).flatMap brackets) = some [] := by
  unfold structTail
  simp only [List.flatMap_cons, List.flatMap_nil, brackets_append, h]
  repeat rw [brackets_literal]
  decide +kernel

theorem nested_structText {t : TypeDef} {text : String} (hn : Unbracketed name)
    (hp : ∀ p ∈ t.fields.toList, UnbracketedMember c name p) (h : structText c name t = .ok text) :
    Nested (brackets text) := by
  obtain ⟨members, hm, rfl⟩ := structText_ok_iff.mp h
  have hsorted : ∀ p ∈ t.fields.sorted, UnbracketedMember c name p :=
    fun p hs => hp p (Table.mem_sorted.mp hs)
  have hmembers := (nested_accessors hsorted hm).awaited_eq
  have hdefaults := brackets_defaultsLiteral fun p hs => (hsorted p hs).key
  rw [nested_iff, brackets_unlines, List.flatMap_append, List.flatMap_append, awaited_append,
    awaited_append, awaited_structHead hn, Option.bind_some, hmembers, Option.bind_some,
    awaited_structTail hdefaults]

end Structs

/-! ## Methods -/

/-- A spelled type has brackets for its depth only. -/
theorem nested_typeName {f : Field} (h : Unbracketed f.type) : Nested (brackets (typeName f)) := by
  have hbase : brackets (if isLiteralTrue f then "Bool" else f.type) = [] := by
    split
    · rfl
    · exact h
  have hmark : brackets (if f.isOptional then "?" else "") = [] := by split <;> rfl
  unfold typeName
  dsimp only
  rw [brackets_append, hmark, List.append_nil]
  split
  · rw [brackets_append, brackets_append, hbase]
    decide
  · split
    · rw [brackets_append, brackets_append, hbase]
      decide
    · rw [hbase]
      exact .nil

/-- A parameter or a field without brackets in its name and its type. -/
def UnbracketedEntry (p : String × Field) : Prop :=
  Unbracketed p.1 ∧ Unbracketed p.2.type

instance (p : String × Field) : Decidable (UnbracketedEntry p) :=
  inferInstanceAs (Decidable (_ ∧ _))

section Methods

variable {parameters : List (String × Field)}

theorem nested_parameterItem {p : String × Field} (h : UnbracketedEntry p) :
    Nested (brackets (pad ++ parameterItem p)) := by
  have hname : brackets (Identifier.camelized p.1) = [] := unbracketed_camelized h.1
  have hinitial : brackets (if p.2.isOptional then " = nil" else "") = [] := by split <;> rfl
  have hword : brackets (pad ++ parameterItem p) = brackets (typeName p.2) := by
    unfold parameterItem
    simp only [brackets_append, hname, hinitial, show brackets pad = [] from rfl,
      show brackets ": " = [] from rfl, show brackets "," = [] from rfl, List.nil_append,
      List.append_nil]
  rw [hword]
  exact nested_typeName h.2

theorem unbracketed_bridgingPair {p : String × Field} (h : Unbracketed p.1) :
    Unbracketed (bridgingPair p) := by
  have hkey : brackets p.1 = [] := h
  have hname : brackets (Identifier.camelized p.1) = [] := unbracketed_camelized h
  unfold bridgingPair Unbracketed
  simp only [brackets_append, hkey, hname]
  decide

theorem unbracketed_bridgingLines (h : ∀ p ∈ parameters, Unbracketed p.1) :
    Unbracketed (bridgingLines parameters) := by
  have hpad : brackets pad = [] := by decide
  have hcomma : brackets ",\n" = [] := by decide
  induction parameters with
  | nil => rfl
  | cons p rest ih =>
    obtain ⟨hp, hr⟩ := List.forall_mem_cons.mp h
    have hpair : brackets (bridgingPair p) = [] := unbracketed_bridgingPair hp
    have hrest : brackets (bridgingLines rest) = [] := ih hr
    cases rest with
    | nil => rw [bridgingLines, Unbracketed, brackets_append, hpad, hpair, List.append_nil]
    | cons q more =>
      rw [bridgingLines, Unbracketed, brackets_append, brackets_append, brackets_append, hpad,
        hpair, hcomma, hrest]
      · rfl
      · simp

theorem brackets_bridgingLiteral (h : ∀ p ∈ parameters, Unbracketed p.1) :
    brackets (bridgingLiteral parameters) = ['[', ']'] := by
  have hlines : brackets (bridgingLines parameters) = [] := unbracketed_bridgingLines h
  unfold bridgingLiteral
  split
  · decide
  · rw [brackets_append, brackets_append, hlines]
    decide

/-- A call leaves its list of arguments open. -/
theorem brackets_call {request name literal : String} (hr : Unbracketed request)
    (hn : Unbracketed name) (hl : brackets literal = ['[', ']']) :
    brackets (call request name literal) = ['(', '[', ']', '[', ']'] := by
  have hrequest : brackets request = [] := hr
  have hname : brackets name = [] := hn
  unfold call
  simp only [brackets_append, hrequest, hname, hl]
  repeat rw [brackets_literal]
  decide +kernel

theorem unbracketed_completionName {name : String} (h : Unbracketed name) :
    Unbracketed (completionName name) := by
  have hname : brackets (Identifier.capitalized name) = [] := unbracketed_capitalized h
  rw [Unbracketed, completionName, brackets_append, hname]
  decide

theorem nested_methodText {name : String} {m : Method} (hn : Unbracketed name)
    (hp : ∀ p ∈ m.parameters.toList, UnbracketedEntry p) (hr : Unbracketed m.result.type) :
    Nested (brackets (methodText name m)) := by
  have hsorted : ∀ p ∈ m.parameters.sorted, UnbracketedEntry p :=
    fun p hs => hp p (Table.mem_sorted.mp hs)
  have hsignature : Nested ((m.parameters.sorted.map fun p => pad ++ parameterItem p).flatMap
      brackets) := by
    refine nested_flatMap fun l hl => ?_
    obtain ⟨p, hs, rfl⟩ := List.mem_map.mp hl
    exact nested_parameterItem (hsorted p hs)
  have hresult := nested_typeName hr
  have hliteral := brackets_bridgingLiteral fun p hs => (hsorted p hs).1
  have hname : brackets name = [] := hn
  have hcompletion : brackets (completionName name) = [] := unbracketed_completionName hn
  have hsync := brackets_call (show Unbracketed "requestSync" from rfl) hn hliteral
  have hasync := brackets_call (show Unbracketed "requestAsync" from rfl) hn hliteral
  rw [nested_iff, methodText, brackets_unlines]
  unfold methodLines
  simp only [List.flatMap_append, List.flatMap_cons, List.flatMap_nil, brackets_append,
    awaited_append, hsignature.awaited_eq, hresult.awaited_eq, hname, hcompletion, hsync, hasync]
  repeat rw [brackets_literal]
  decide +kernel

end Methods

/-! ## Files -/

/-- No bracket comes into the code by a name or a type. -/
structure UnbracketedSchema (schema : Schema) (c : Config) : Prop where
  client : Unbracketed c.clientType
  generator : Unbracketed c.generatorName
  types : ∀ p ∈ schema.types.toList, Unbracketed p.1 ∧
    ∀ q ∈ p.2.fields.toList, UnbracketedMember c p.1 q
  methods : ∀ p ∈ schema.methods.toList, Unbracketed p.1 ∧ Unbracketed p.2.result.type ∧
    ∀ q ∈ p.2.parameters.toList, UnbracketedEntry q

instance (schema : Schema) (c : Config) : Decidable (UnbracketedSchema schema c) :=
  decidable_of_iff (Unbracketed c.clientType ∧ Unbracketed c.generatorName ∧
    (∀ p ∈ schema.types.toList, Unbracketed p.1 ∧
      ∀ q ∈ p.2.fields.toList, UnbracketedMember c p.1 q) ∧
    ∀ p ∈ schema.methods.toList, Unbracketed p.1 ∧ Unbracketed p.2.result.type ∧
      ∀ q ∈ p.2.parameters.toList, UnbracketedEntry q)
    ⟨fun ⟨hc, hg, ht, hm⟩ => ⟨hc, hg, ht, hm⟩, fun h => ⟨h.client, h.generator, h.types, h.methods⟩⟩

theorem brackets_banner {c : Config} (h : Unbracketed c.generatorName) :
    brackets (banner c) = [] := by
  have hname : brackets c.generatorName = [] := h
  unfold banner
  rw [brackets_append, hname, brackets_literal]
  decide

theorem brackets_typesHeader {c : Config} (h : Unbracketed c.generatorName) :
    brackets (typesHeader c) = [] := by
  unfold typesHeader
  rw [brackets_unlines]
  simp only [List.flatMap_cons, List.flatMap_nil, brackets_banner h]
  decide

/-- The head of the extension opens a brace. -/
theorem brackets_methodsHeader {c : Config} (hg : Unbracketed c.generatorName)
    (hc : Unbracketed c.clientType) : brackets (methodsHeader c) = ['\x7b'] := by
  have hclient : brackets c.clientType = [] := hc
  unfold methodsHeader
  rw [brackets_unlines]
  simp only [List.flatMap_cons, brackets_append, brackets_banner hg, hclient]
  repeat rw [brackets_literal]
  decide +kernel

theorem brackets_methodsFooter : brackets methodsFooter = ['\x7d'] := by
  decide

namespace UnbracketedSchema

variable {schema : Schema} {c : Config}

theorem nested_struct (h : UnbracketedSchema schema c) {p : String × TypeDef}
    (hp : p ∈ schema.types.toList) {text : String} (ht : structText c p.1 p.2 = .ok text) :
    Nested (brackets text) :=
  nested_structText (h.types p hp).1 (h.types p hp).2 ht

theorem nested_method (h : UnbracketedSchema schema c) {p : String × Method}
    (hp : p ∈ schema.methods.toList) : Nested (brackets (methodText p.1 p.2)) := by
  obtain ⟨hname, hresult, hparameters⟩ := h.methods p hp
  exact nested_methodText hname hparameters hresult

/-- The structs of a schema one behind the other. -/
theorem nested_structs (h : UnbracketedSchema schema c) :
    Nested (brackets (concat (schema.types.toList.flatMap fun p =>
      (structText c p.1 p.2).toOption.toList))) := by
  rw [brackets_concat]
  refine nested_flatMap fun text hm => ?_
  obtain ⟨p, hp, hm⟩ := List.mem_flatMap.mp hm
  cases ht : structText c p.1 p.2 with
  | error f => simp [ht, Except.toOption] at hm
  | ok piece =>
    have he : text = piece := by simpa [ht, Except.toOption] using hm
    exact he ▸ h.nested_struct hp ht

/-- The methods of a schema one behind the other. -/
theorem nested_methods (h : UnbracketedSchema schema c) :
    Nested (brackets (concat (schema.methods.toList.map fun p => methodText p.1 p.2))) := by
  rw [brackets_concat]
  refine nested_flatMap fun text hm => ?_
  obtain ⟨p, hp, rfl⟩ := List.mem_map.mp hm
  exact h.nested_method hp

end UnbracketedSchema

end Code

namespace Session

open FileTree Text Code

/-- Where no bracket comes in through a name or a type, the files of a schema are nested, and so is
the code of each type and of each method. The head of the extension opens a brace; its end closes
this one, since what stands between them is nested. -/
theorem output_nested (directory : Path) {c : Config} (d : Disk) {schema : Schema} {write : Bool}
    (h : UnbracketedSchema schema c)
    (hf : ((Session.new directory c).deliver d schema write).fault = none) :
    let s := ((Session.new directory c).deliver d schema write).session
    Nested (brackets s.typesText) ∧ Nested (brackets s.methodsText) ∧
    (∀ p ∈ schema.types.toList, ∃ text, structText c p.1 p.2 = .ok text ∧ text ∈ s.types ∧
      Nested (brackets text)) ∧
    (∀ p ∈ schema.methods.toList, methodText p.1 p.2 ∈ s.methods ∧
      Nested (brackets (methodText p.1 p.2))) ∧
    ∃ inner, s.methodsText = methodsHeader c ++ inner ++ methodsFooter ∧
      brackets (methodsHeader c) = ['\x7b'] ∧ Nested (brackets inner) ∧
      brackets methodsFooter = ['\x7d'] := by
  intro s
  obtain ⟨htypes, hmethods, hrendered⟩ := deliver_pieces hf
  have hheader := brackets_methodsHeader h.generator h.client
  have htext : s.methodsText = methodsHeader c ++
      concat (schema.methods.toList.map fun p => methodText p.1 p.2) ++ methodsFooter := by
    rw [methodsText, hmethods]
    simp [concat_append, concat_cons, String.append_assoc, show concat [] = "" from rfl]
  refine ⟨?_, ?_, fun p hp => ?_, fun p hp => ⟨?_, h.nested_method hp⟩, _, htext, hheader,
    h.nested_methods, brackets_methodsFooter⟩
  · rw [typesText, htypes, concat_cons, brackets_append, brackets_typesHeader h.generator]
    exact h.nested_structs
  · rw [htext, brackets_append, brackets_append, hheader, brackets_methodsFooter]
    exact .pair (by decide) h.nested_methods .nil
  · obtain ⟨text, ht⟩ := hrendered p hp
    refine ⟨text, ht, ?_, h.nested_struct hp ht⟩
    rw [htypes]
    exact List.mem_cons_of_mem _ (List.mem_flatMap.mpr ⟨p, hp, by simp [ht, Except.toOption]⟩)
  · rw [hmethods]
    exact List.mem_append_left _ (List.mem_cons_of_mem _ (List.mem_map.mpr ⟨p, hp, rfl⟩))

/-- A type with fields of several shapes and a method with parameters of two. -/
def album : Schema where
  types := ⟨[("Album", ⟨⟨[("ok", .single "True"), ("rows", ⟨"Photo", false, true, true⟩),
    ("tags", ⟨"Tag", true, false, false⟩), ("date", ⟨"Date", false, false, true⟩)], by simp⟩⟩)],
    by simp⟩
  methods := ⟨[("sendAlbum", ⟨⟨[("chat_id", .single "Int"), ("rows", ⟨"Photo", false, true, true⟩)],
    by simp⟩, ⟨"Photo", true, false, false⟩⟩)], by simp⟩
  sourceFile := none

theorem album_nested :
    let o := (Session.new ⟨false, ["out"]⟩ Config.usual).deliver documentDisk album false
    UnbracketedSchema album Config.usual ∧ o.fault = none ∧
      Nested (brackets o.session.typesText) ∧ Nested (brackets o.session.methodsText) := by
  have h : UnbracketedSchema album Config.usual := by decide +kernel
  have hf : ((Session.new ⟨false, ["out"]⟩ Config.usual).deliver documentDisk album
      false).fault = none := by decide +kernel
  obtain ⟨htypes, hmethods, -⟩ := output_nested ⟨false, ["out"]⟩ documentDisk h hf
  exact ⟨h, hf, htypes, hmethods⟩

end Session
end ClientGen
