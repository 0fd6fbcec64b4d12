import ClientGen.Validation.Full

/-! Fields that no template is for. The validator looks for them under strict settings of its own,
the renderer under the given ones; both find the same fields in the same order. -/

namespace ClientGen
namespace Code

/-- The fields of a type that need an accessor but have no template. -/
def untemplated (c : Config) (owner : String) (fields : List (String × Field)) : List Unsupported :=
  (fields.filter fun p => !isLiteralTrue p.2 && (kind? c p.2).isNone).map fun p => ⟨owner, p.1, p.2⟩

/-- The fields without template in a schema, type by type. -/
def untemplatedIn (s : Schema) (c : Config) : List Unsupported :=
  s.types.toList.flatMap fun p => untemplated c p.1 p.2.fields.sorted

/-- The fault that ends rendering when it meets these fields in order. -/
def stop (c : Config) (us : List Unsupported) : Option Fault :=
  if c.strict then us.head?.map .unsupported else none

/-- The warnings that rendering gives when it meets these fields in order. -/
def complaints (c : Config) (us : List Unsupported) : List Log.Record :=
  if c.strict then [] else us.map Unsupported.warning

/-- The fault of a part that cannot be rendered. -/
def faultOf {α : Type} : Except Fault α → Option Fault
  | .ok _ => none
  | .error e => some e

@[simp] theorem stop_nil (c : Config) : stop c [] = none := by simp [stop]

@[simp] theorem complaints_nil (c : Config) : complaints c [] = [] := by simp [complaints]

theorem stop_append (c : Config) (us vs : List Unsupported) :
    stop c (us ++ vs) = (stop c us).or (stop c vs) := by
  cases us <;> by_cases h : c.strict <;> simp [stop, h]

theorem complaints_append (c : Config) (us vs : List Unsupported) :
    complaints c (us ++ vs) = complaints c us ++ complaints c vs := by
  by_cases h : c.strict <;> simp [complaints, h]

@[simp] theorem untemplated_nil (c : Config) (owner : String) : untemplated c owner [] = [] := rfl

theorem untemplated_cons_true {c : Config} {owner : String} {p : String × Field}
    (rest : List (String × Field)) (h : isLiteralTrue p.2 = true) :
    untemplated c owner (p :: rest) = untemplated c owner rest := by
  simp [untemplated, h]

theorem untemplated_cons_some {c : Config} {owner : String} {p : String × Field} {k : Kind}
    (rest : List (String × Field)) (h : kind? c p.2 = some k) :
    untemplated c owner (p :: rest) = untemplated c owner rest := by
  simp [untemplated, h]

theorem untemplated_cons_none {c : Config} {owner : String} {p : String × Field}
    (rest : List (String × Field)) (ht : isLiteralTrue p.2 = false) (h : kind? c p.2 = none) :
    untemplated c owner (p :: rest) = ⟨owner, p.1, p.2⟩ :: untemplated c owner rest := by
  simp [untemplated, ht, h]

@[simp] theorem probe_strict (c : Config) : c.probe.strict = true := rfl

/-- Strictness decides what becomes of a field without template, not which fields have one. -/
@[simp] theorem kind?_probe (c : Config) (f : Field) : kind? c.probe f = kind? c f := rfl

theorem classify_of_some {c : Config} {f : Field} {k : Kind} (owner name : String)
    (h : kind? c f = some k) : classify c owner name f = .ok k := by
  simp [classify, h]

theorem classify_of_none {c : Config} {f : Field} (owner name : String) (h : kind? c f = none) :
    classify c owner name f = if c.strict then .error ⟨owner, name, f⟩ else .ok .nestedObject := by
  simp [classify, h]

/-- What the classification has found out about a field for which it chooses a template. -/
def Kind.Fits (f : Field) : Kind → Prop
  | .scalar => f.isSequence = false ∧ (stem? f.type).isSome = true
  | .dateOptional => f.isSequence = false ∧ f.type = dateType ∧ f.isOptional = true
  | .dateRequired => f.isSequence = false ∧ f.type = dateType ∧ f.isOptional = false
  | .arrayOfArrayOptional => f.isNested = true ∧ isNamedType f.type = true ∧ f.isOptional = true
  | .arrayOfArrayRequired => f.isNested = true ∧ isNamedType f.type = true ∧ f.isOptional = false
  | .arrayOptional =>
    f.isNested = false ∧ f.isArray = true ∧ isNamedType f.type = true ∧ f.isOptional = true
  | .arrayRequired =>
    f.isNested = false ∧ f.isArray = true ∧ isNamedType f.type = true ∧ f.isOptional = false
  | .variantContent | .selfBridging => f.isSequence = false
  | .nestedObject => f.isSequence = false ∧ isNamedType f.type = true

theorem fits_of_sequence {c : Config} {f : Field} {k : Kind} (hs : f.isSequence = true)
    (h : kind? c f = some k) : k.Fits f := by
  have hnamed : isNamedType f.type = true := by
    cases hn : isNamedType f.type with
    | true => rfl
    | false => simp [kind?, hs, hn] at h
  have hdepth : f.isNested = false → f.isArray = true := by
    intro hn
    simpa [Field.isSequence, hn] using hs
  simp only [kind?, hs, hnamed, if_true, Option.some.injEq] at h
  subst h
  cases hn : f.isNested with
  | true =>
    cases ho : f.isOptional with
    | true => exact ⟨hn, hnamed, ho⟩
    | false => exact ⟨hn, hnamed, ho⟩
  | false =>
    cases ho : f.isOptional with
    | true => exact ⟨hn, hdepth hn, hnamed, ho⟩
    | false => exact ⟨hn, hdepth hn, hnamed, ho⟩

theorem fits_of_single {c : Config} {f : Field} {k : Kind} (hs : f.isSequence = false)
    (h : kind? c f = some k) : k.Fits f := by
  simp only [kind?, hs, Bool.false_eq_true, if_false] at h
  split at h
  · next hstem =>
    obtain rfl := Option.some.inj h
    exact ⟨hs, hstem⟩
  split at h
  · next hdate =>
    have hdate : f.type = dateType := by simpa using hdate
    obtain rfl := Option.some.inj h
    cases ho : f.isOptional with
    | true => exact ⟨hs, hdate, ho⟩
    | false => exact ⟨hs, hdate, ho⟩
  split at h
  · obtain rfl := Option.some.inj h
    exact hs
  split at h
  · obtain rfl := Option.some.inj h
    exact hs
  split at h
  · next hnamed =>
    obtain rfl := Option.some.inj h
    exact ⟨hs, hnamed⟩
  · cases h

/-- A template is chosen only for the fields that it is for. -/
theorem fits_of_kind? {c : Config} {f : Field} {k : Kind} (h : kind? c f = some k) : k.Fits f := by
  cases hs : f.isSequence with
  | true => exact fits_of_sequence hs h
  | false => exact fits_of_single hs h

/-- A template that is chosen for a field can be filled in. -/
theorem text_of_kind {c : Config} {f : Field} {k : Kind} (accessor key : String)
    (h : kind? c f = some k) : ∃ s, Accessor.text k accessor key f = .ok s := by
  cases k with
  | scalar =>
    obtain ⟨stem, hs⟩ := Option.isSome_iff_exists.mp (fits_of_kind? h).2
    exact ⟨_, by simp only [Accessor.text, Accessor.lines, hs]; rfl⟩
  | _ => exact ⟨_, rfl⟩

theorem accessor_of_some {c : Config} (owner : String) {p : String × Field} {k : Kind}
    (h : kind? c p.2 = some k) : ∃ s, accessor c owner p = .ok s := by
  obtain ⟨s, hs⟩ := text_of_kind (accessorName c owner p) p.1 h
  exact ⟨s, by simp only [accessor, classify_of_some owner p.1 h, hs]⟩

theorem accessor_of_lenient {c : Config} (owner : String) {p : String × Field}
    (hc : c.strict = false) (h : kind? c p.2 = none) : ∃ s, accessor c owner p = .ok s := by
  have hk : classify c owner p.1 p.2 = .ok .nestedObject := by simp [classify_of_none, h, hc]
  exact ⟨_, by simp only [accessor, hk, Accessor.text, Accessor.lines]; rfl⟩

theorem accessor_of_strict {c : Config} (owner : String) {p : String × Field}
    (hc : c.strict = true) (h : kind? c p.2 = none) :
    accessor c owner p = .error (.unsupported ⟨owner, p.1, p.2⟩) := by
  have hk : classify c owner p.1 p.2 = .error ⟨owner, p.1, p.2⟩ := by
    simp [classify_of_none, h, hc]
  simp only [accessor, hk]

/-- A rendered accessor is the lines of a template, moved into the struct. -/
theorem lines_of_accessor {c : Config} {owner s : String} {p : String × Field}
    (h : accessor c owner p = .ok s) :
    ∃ k ls, Accessor.lines k (accessorName c owner p) p.1 p.2 = .ok ls ∧
      s = Text.indent (Text.unlines ls) 1 4 := by
  simp only [accessor, Accessor.text] at h
  split at h
  · cases h
  · next k _ =>
    split at h
    · next ls hls =>
      cases h
      exact ⟨k, ls, hls, rfl⟩
    · cases h

/-- The accessors of a type are rendered if the first one is and the others are. -/
theorem accessors_cons_ok_iff {c : Config} {owner : String} {p : String × Field}
    {rest : List (String × Field)} {parts : List String} (ht : isLiteralTrue p.2 = false) :
    accessors c owner (p :: rest) = .ok parts ↔
      ∃ s others, accessor c owner p = .ok s ∧ accessors c owner rest = .ok others ∧
        parts = s :: "" :: others := by
  simp only [accessors, ht, Bool.false_eq_true, if_false]
  cases accessor c owner p with
  | error e => simp
  | ok s =>
    cases accessors c owner rest with
    | error e => simp
    | ok others => simp [eq_comm]

/-- An accessor that can be rendered leaves the outcome to the fields behind it. -/
theorem faultOf_accessors_cons {c : Config} {owner : String} {p : String × Field} {s : String}
    (rest : List (String × Field)) (ht : isLiteralTrue p.2 = false)
    (h : accessor c owner p = .ok s) :
    faultOf (accessors c owner (p :: rest)) = faultOf (accessors c owner rest) := by
  simp only [accessors, ht, h, Bool.false_eq_true, if_false]
  cases accessors c owner rest <;> rfl

/-- Rendering the accessors of a type ends at the first field without template, if the settings are
strict, and else not at all. -/
theorem faultOf_accessors (c : Config) (owner : String) (fields : List (String × Field)) :
    faultOf (accessors c owner fields) = stop c (untemplated c owner fields) := by
  induction fields with
  | nil => simp [accessors, faultOf]
  | cons p rest ih =>
    cases ht : isLiteralTrue p.2 with
    | true => rw [untemplated_cons_true rest ht, ← ih, accessors, if_pos ht]
    | false =>
      cases hk : kind? c p.2 with
      | some k =>
        obtain ⟨s, hs⟩ := accessor_of_some owner hk
        rw [faultOf_accessors_cons rest ht hs, untemplated_cons_some rest hk, ih]
      | none =>
        rw [untemplated_cons_none rest ht hk]
        cases hc : c.strict with
        | true =>
          have ha := accessor_of_strict owner hc hk
          simp [accessors, ht, ha, faultOf, stop, hc]
        | false =>
          obtain ⟨s, hs⟩ := accessor_of_lenient owner hc hk
          rw [faultOf_accessors_cons rest ht hs, ih]
          simp [stop, hc]

/-- A struct is rendered if its accessors are. -/
theorem structText_ok_iff {c : Config} {name text : String} {t : TypeDef} :
    structText c name t = .ok text ↔
      ∃ members, accessors c name t.fields.sorted = .ok members ∧
        text = Text.unlines
          (structHead name ++ members ++ structTail (defaultsLiteral t.fields.sorted)) := by
  rw [structText]
  cases accessors c name t.fields.sorted with
  | error e => simp
  | ok members => simp [eq_comm]

theorem faultOf_structText (c : Config) (name : String) (t : TypeDef) :
    faultOf (structText c name t) = stop c (untemplated c name t.fields.sorted) := by
  rw [← faultOf_accessors, structText]
  cases accessors c name t.fields.sorted <;> rfl

end Code

namespace Log

/-- The records that are warnings. -/
def warnings (records : List Record) : List Record :=
  records.filter fun r => r.level == .warning

@[simp] theorem warnings_nil : warnings [] = [] := rfl

@[simp] theorem warnings_append (a b : List Record) :
    warnings (a ++ b) = warnings a ++ warnings b := by
  simp [warnings]

end Log

namespace Code

@[simp] theorem warnings_warning_cons (u : Unsupported) (log : List Log.Record) :
    Log.warnings (u.warning :: log) = u.warning :: Log.warnings log := by
  simp [Log.warnings, Unsupported.warning]

theorem warnings_accessorLog (c : Config) (owner name type : String) :
    Log.warnings (c.accessorLog owner name type) = [] := by
  unfold Config.accessorLog
  split <;> rfl

/-- Rendering the accessors of a type warns of each field without template under lenient settings,
and else of none. -/
theorem warnings_accessorsLog (c : Config) (owner : String) (fields : List (String × Field)) :
    Log.warnings (accessorsLog c owner fields) = complaints c (untemplated c owner fields) := by
  induction fields with
  | nil => simp [accessorsLog]
  | cons p rest ih =>
    cases ht : isLiteralTrue p.2 with
    | true => rw [untemplated_cons_true rest ht, ← ih, accessorsLog, if_pos ht]
    | false =>
      cases hk : kind? c p.2 with
      | some k =>
        rw [untemplated_cons_some rest hk, ← ih]
        simp [accessorsLog, ht, classifyLog, hk, classify_of_some, warnings_accessorLog]
      | none =>
        rw [untemplated_cons_none rest ht hk]
        cases hc : c.strict with
        | true => simp [accessorsLog, ht, classifyLog, hk, classify_of_none, hc, complaints]
        | false =>
          simp only [complaints, hc, Bool.false_eq_true, if_false] at ih
          simp [accessorsLog, ht, classifyLog, hk, classify_of_none, hc, complaints, ih,
            warnings_accessorLog]

theorem warnings_structLog (c : Config) (name : String) (t : TypeDef) :
    Log.warnings (structLog c name t) = complaints c (untemplated c name t.fields.sorted) := by
  rw [structLog, Log.warnings_append, warnings_accessorsLog]
  cases structText c name t <;> simp [Log.warnings]

end Code

namespace Validation

theorem shapeIssues_eq (c : Config) (type : String) (t : TypeDef) :
    shapeIssues c type t =
      (Code.untemplated c type t.fields.sorted).map (Issue.unsupported c.strict) := by
  unfold shapeIssues accessible
  generalize t.fields.sorted = fields
  induction fields with
  | nil => rfl
  | cons p rest ih =>
    cases ht : Code.isLiteralTrue p.2 with
    | true => simp [Code.untemplated_cons_true rest ht, ht, ih]
    | false =>
      cases hk : Code.kind? c p.2 with
      | some k =>
        have hi : shapeIssue? c type p = none := by
          simp [shapeIssue?, Code.classify_of_some, hk]
        simp [Code.untemplated_cons_some rest hk, ht, hi, ih]
      | none =>
        have hi : shapeIssue? c type p = some (.unsupported c.strict ⟨type, p.1, p.2⟩) := by
          simp [shapeIssue?, Code.classify_of_none, hk]
        simp [Code.untemplated_cons_none rest ht hk, ht, hi, ih]

/-- The validator's issues about shapes are the fields that rendering has no template for. -/
theorem fieldShapeIssues_eq (s : Schema) (c : Config) :
    fieldShapeIssues s c = (Code.untemplatedIn s c).map (Issue.unsupported c.strict) := by
  simp only [fieldShapeIssues, Code.untemplatedIn, List.map_flatMap, shapeIssues_eq]

end Validation
end ClientGen
