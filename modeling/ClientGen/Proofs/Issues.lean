import ClientGen.Validation.Full

/-! What the checks of a validation speak of, and what a schema satisfies once they find no
error. -/

namespace ClientGen
namespace Validation

/-- What is gathered from the entries of a table and comes from one entry only is what comes from that
one. -/
theorem filterMap_flatMap_of_mem {α β γ : Type} {t : Table α} {k : String} {a : α}
    {f : String × α → List β} {g : β → Option γ} (h : (k, a) ∈ t.toList)
    (hother : ∀ p : String × α, p.1 ≠ k → (f p).filterMap g = []) :
    (t.toList.flatMap f).filterMap g = (f (k, a)).filterMap g := by
  have hd := t.nodup
  obtain ⟨before, after, hs⟩ := List.append_of_mem h
  rw [hs, List.map_append, List.map_cons, List.nodup_append] at hd
  obtain ⟨-, hafter, hbefore⟩ := hd
  have hnone {ps : List (String × α)} (hk : k ∉ ps.map Prod.fst) :
      (ps.flatMap f).filterMap g = [] := by
    rw [List.filterMap_flatMap, List.flatMap_eq_nil_iff]
    exact fun p hp => hother p fun e => hk (List.mem_map.mpr ⟨p, hp, e⟩)
  rw [hs, List.flatMap_append, List.flatMap_cons, List.filterMap_append, List.filterMap_append,
    hnone fun hk => hbefore k hk k (by simp) rfl, hnone (List.nodup_cons.mp hafter).1,
    List.nil_append, List.append_nil]

/-- What an issue is about. -/
inductive Topic
  | typeName | accessor | shape | method
  deriving DecidableEq

def Issue.topic : Issue → Topic
  | .typeInvalid _ | .typeReserved _ | .typeBuiltin _ => .typeName
  | .accessorInvalid .. | .accessorReserved .. | .accessorCollision .. => .accessor
  | .unsupported .. => .shape
  | _ => .method

/-- Among the codes of findings that of a missing template is one of its own. -/
theorem code_eq_unsupported_iff (i : Issue) : i.code = "FIELD_UNSUPPORTED" ↔ i.topic = .shape := by
  cases i <;> simp [Issue.code, Issue.topic]

theorem topic_typeNameIssues {s : Schema} {i : Issue} (h : i ∈ typeNameIssues s) :
    i.topic = .typeName := by
  obtain ⟨name, -, hi⟩ := List.mem_filterMap.mp h
  unfold typeNameIssue? at hi
  repeat' split at hi
  all_goals cases hi
  all_goals rfl

/-- The issue with the accessor of a field is that it is no identifier or a keyword. -/
theorem accessorIssue_cases {c : Config} {type : String} {p : String × Field} {i : Issue}
    (h : accessorIssue? c type p = some i) :
    i = .accessorInvalid type p.1 (Code.accessorName c type p) ∨
      i = .accessorReserved type p.1 (Code.accessorName c type p) := by
  unfold accessorIssue? at h
  dsimp only at h
  split at h
  · cases h
    exact .inl rfl
  · split at h <;> cases h
    exact .inr rfl

theorem topic_fieldNameIssues {s : Schema} {c : Config} {i : Issue}
    (h : i ∈ fieldNameIssues s c) : i.topic = .accessor := by
  obtain ⟨p, -, hi⟩ := List.mem_flatMap.mp h
  rcases List.mem_append.mp hi with hi | hi
  · obtain ⟨q, -, hq⟩ := List.mem_filterMap.mp hi
    rcases accessorIssue_cases hq with rfl | rfl <;> rfl
  · obtain ⟨q, -, rfl⟩ := List.mem_map.mp hi
    rfl

theorem topic_fieldShapeIssues {s : Schema} {c : Config} {i : Issue}
    (h : i ∈ fieldShapeIssues s c) : i.topic = .shape := by
  obtain ⟨p, -, hi⟩ := List.mem_flatMap.mp h
  obtain ⟨q, -, hq⟩ := List.mem_filterMap.mp hi
  unfold shapeIssue? at hq
  split at hq
  · cases hq
  · cases hq
    rfl

/-- The method that an issue is about. -/
def Issue.method? : Issue → Option String
  | .methodInvalid m | .parameterInvalid m _ _ | .parameterReserved m _ _
  | .parameterCollision m _ _ _ | .parameterUnknown m _ _ | .resultUnknown m _ => some m
  | _ => none

theorem topic_of_method? {i : Issue} {method : String} (h : i.method? = some method) :
    i.topic = .method := by
  cases i <;> first | rfl | cases h

section Methods

variable {s : Schema} {c : Config} {method : String} {i : Issue}

/-- The issue with what a parameter is called in the code is that it is no identifier or a keyword. -/
theorem parameterNameIssue_cases {name : String} (h : parameterNameIssue? method name = some i) :
    i = .parameterInvalid method name (Identifier.camelized name) ∨
      i = .parameterReserved method name (Identifier.camelized name) := by
  unfold parameterNameIssue? at h
  dsimp only at h
  split at h
  · cases h
    exact .inl rfl
  · split at h <;> cases h
    exact .inr rfl

theorem parameterTypeIssue?_eq_some_iff {p : String × Field} :
    parameterTypeIssue? s c method p = some i ↔
      isKnown s c p.2.type = false ∧ .parameterUnknown method p.1 p.2.type = i := by
  simp [parameterTypeIssue?]

theorem resultIssue?_eq_some_iff {result : Field} : resultIssue? s c method result = some i ↔
    isKnown s c result.type = false ∧ .resultUnknown method result.type = i := by
  simp [resultIssue?]

theorem methodNameIssue?_eq_some_iff : methodNameIssue? method = some i ↔
    Identifier.isIdentifier method = false ∧ .methodInvalid method = i := by
  simp [methodNameIssue?]

theorem method?_parameterIssues {before : List String} {ps : List (String × Field)}
    (h : i ∈ parameterIssues s c method before ps) : i.method? = some method := by
  induction ps generalizing before with
  | nil => simp [parameterIssues] at h
  | cons p rest ih =>
    simp only [parameterIssues, List.mem_append, Option.mem_toList] at h
    rcases h with ((h | h) | h) | h
    · rcases parameterNameIssue_cases h with rfl | rfl <;> rfl
    · obtain ⟨b, -, rfl⟩ := Option.map_eq_some_iff.mp h
      rfl
    · obtain ⟨-, rfl⟩ := parameterTypeIssue?_eq_some_iff.mp h
      rfl
    · exact ih h

theorem method?_methodIssues {m : Method} (h : i ∈ methodIssues s c method m) :
    i.method? = some method := by
  simp only [methodIssues, List.mem_append, Option.mem_toList] at h
  rcases h with (h | h) | h
  · obtain ⟨-, rfl⟩ := methodNameIssue?_eq_some_iff.mp h
    rfl
  · exact method?_parameterIssues h
  · obtain ⟨-, rfl⟩ := resultIssue?_eq_some_iff.mp h
    rfl

theorem topic_allMethodIssues (h : i ∈ allMethodIssues s c) : i.topic = .method := by
  obtain ⟨p, -, hi⟩ := List.mem_flatMap.mp h
  exact topic_of_method? (method?_methodIssues hi)

end Methods

/-- Of a schema only the names of its types tell which types are known. -/
theorem isKnown_congr {s z : Schema} (c : Config) (h : s.types.names = z.types.names) :
    isKnown s c = isKnown z c := by
  funext type
  rw [isKnown, isKnown, h]

/-- Of the schema around it and of the settings the check of a method reads only which types are
known. -/
theorem methodIssues_congr {s z : Schema} {c k : Config} (h : isKnown s c = isKnown z k)
    (name : String) (m : Method) : methodIssues s c name m = methodIssues z k name m := by
  have hparameters (before : List String) (ps : List (String × Field)) :
      parameterIssues s c name before ps = parameterIssues z k name before ps := by
    induction ps generalizing before with
    | nil => rfl
    | cons p rest ih => simp only [parameterIssues, parameterTypeIssue?, h, ih]
  simp only [methodIssues, hparameters, resultIssue?, h]

/-- The issues about missing templates are those of the check for them. -/
theorem filter_issues_shape (s : Schema) (c : Config) :
    (issues s c).filter (fun i => i.code == "FIELD_UNSUPPORTED") = fieldShapeIssues s c := by
  have other {is : List Issue} {t : Topic} (ht : t ≠ .shape) (h : ∀ i ∈ is, i.topic = t) :
      is.filter (fun i => i.code == "FIELD_UNSUPPORTED") = [] := by
    apply List.filter_eq_nil_iff.mpr
    intro i hi hc
    have := (code_eq_unsupported_iff i).mp (by simpa using hc)
    exact ht ((h i hi).symm.trans this)
  have own : (fieldShapeIssues s c).filter (fun i => i.code == "FIELD_UNSUPPORTED") =
      fieldShapeIssues s c := by
    apply List.filter_eq_self.mpr
    intro i hi
    simpa using (code_eq_unsupported_iff i).mpr (topic_fieldShapeIssues hi)
  have names : (typeNameIssues s).filter (fun i => i.code == "FIELD_UNSUPPORTED") = [] :=
    other (by decide) fun _ => topic_typeNameIssues
  have accessors : (fieldNameIssues s c).filter (fun i => i.code == "FIELD_UNSUPPORTED") = [] :=
    other (by decide) fun _ => topic_fieldNameIssues
  have methods : (allMethodIssues s c).filter (fun i => i.code == "FIELD_UNSUPPORTED") = [] :=
    other (by decide) fun _ => topic_allMethodIssues
  simp [issues, own, names, accessors, methods]

theorem isValid_iff (s : Schema) (c : Config) :
    (findings s c).isValid = true ↔ ∀ i ∈ issues s c, i.severity = .warning := by
  have he (i : Issue) : i.finding.isError = false ↔ i.severity = .warning := by
    unfold Finding.isError Issue.finding
    cases i.severity <;> simp
  simp [Findings.isValid, Findings.errors, findings, List.filter_eq_nil_iff, he]

section Accepted

variable {s : Schema} {c : Config}

/-- A name whose malformation is an error is well formed in a schema without errors. -/
theorem isIdentifier_of_isValid {name : String} (h : (findings s c).isValid = true)
    (he : Identifier.isIdentifier name = false → ∃ i ∈ issues s c, i.severity = .error) :
    Identifier.isIdentifier name = true := by
  cases hn : Identifier.isIdentifier name with
  | true => rfl
  | false =>
    obtain ⟨i, hi, hs⟩ := he hn
    rw [(isValid_iff s c).mp h i hi] at hs
    cases hs

theorem isIdentifier_typeName (h : (findings s c).isValid = true) {name : String}
    (hn : name ∈ s.types.names) : Identifier.isIdentifier name = true := by
  refine isIdentifier_of_isValid h fun hi => ⟨.typeInvalid name, ?_, rfl⟩
  have hm : Issue.typeInvalid name ∈ typeNameIssues s :=
    List.mem_filterMap.mpr ⟨name, hn, by simp [typeNameIssue?, hi]⟩
  simp [issues, hm]

theorem isIdentifier_accessor (h : (findings s c).isValid = true) {type : String} {t : TypeDef}
    (ht : (type, t) ∈ s.types.toList) {p : String × Field} (hp : p ∈ accessible t) :
    Identifier.isIdentifier (Code.accessorName c type p) = true := by
  refine isIdentifier_of_isValid h fun hi =>
    ⟨.accessorInvalid type p.1 (Code.accessorName c type p), ?_, rfl⟩
  have hm : Issue.accessorInvalid type p.1 (Code.accessorName c type p) ∈ memberIssues c type t :=
    List.mem_append_left _ (List.mem_filterMap.mpr ⟨p, hp, by simp [accessorIssue?, hi]⟩)
  have hf : _ ∈ fieldNameIssues s c := List.mem_flatMap.mpr ⟨(type, t), ht, hm⟩
  simp [issues, hf]

theorem isIdentifier_methodName (h : (findings s c).isValid = true) {name : String} {m : Method}
    (hm : (name, m) ∈ s.methods.toList) : Identifier.isIdentifier name = true := by
  refine isIdentifier_of_isValid h fun hi => ⟨.methodInvalid name, ?_, rfl⟩
  have hn : Issue.methodInvalid name ∈ methodIssues s c name m := by
    simp [methodIssues, methodNameIssue?, hi]
  have hf : _ ∈ allMethodIssues s c := List.mem_flatMap.mpr ⟨(name, m), hm, hn⟩
  simp [issues, hf]

/-- The checks of a parameter's name and type do not depend on the parameters before it. -/
theorem mem_parameterIssues {method : String} {before : List String} {ps : List (String × Field)}
    {p : String × Field} {i : Issue} (hp : p ∈ ps)
    (hi : parameterNameIssue? method p.1 = some i ∨ parameterTypeIssue? s c method p = some i) :
    i ∈ parameterIssues s c method before ps := by
  induction ps generalizing before with
  | nil => simp at hp
  | cons q rest ih =>
    rcases List.mem_cons.mp hp with rfl | hp
    · rcases hi with hi | hi <;> simp [parameterIssues, hi]
    · simp [parameterIssues, ih hp]

theorem isIdentifier_parameter (h : (findings s c).isValid = true) {name : String} {m : Method}
    (hm : (name, m) ∈ s.methods.toList) {p : String × Field} (hp : p ∈ m.parameters.sorted) :
    Identifier.isIdentifier (Identifier.camelized p.1) = true := by
  refine isIdentifier_of_isValid h fun hi =>
    ⟨.parameterInvalid name p.1 (Identifier.camelized p.1), ?_, rfl⟩
  have hn : Issue.parameterInvalid name p.1 (Identifier.camelized p.1) ∈
      parameterIssues s c name [] m.parameters.sorted :=
    mem_parameterIssues hp (.inl (by simp [parameterNameIssue?, hi]))
  have hi' : Issue.parameterInvalid name p.1 (Identifier.camelized p.1) ∈
      methodIssues s c name m := by
    simp [methodIssues, hn]
  have hf : _ ∈ allMethodIssues s c := List.mem_flatMap.mpr ⟨(name, m), hm, hi'⟩
  simp [issues, hf]

end Accepted

end Validation
end ClientGen
