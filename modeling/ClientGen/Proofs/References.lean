import ClientGen.Proofs.Sequences

/-! References to types. Where a validation finds nothing, all types that methods refer to are known.
Fields of structs get templates whose code names the type of the field, but whether there is such a
struct is asked of no field, so a schema may refer to structs that nothing defines. -/

namespace ClientGen

namespace Code

/-- Whether the template names the type of its field as that of a struct. -/
def Kind.namesStruct : Kind → Bool
  | .arrayOfArrayOptional | .arrayOfArrayRequired | .arrayOptional | .arrayRequired
  | .nestedObject => true
  | _ => false

/-- Such a template is for types only that a struct can have. -/
theorem isNamedType_of_namesStruct {c : Config} {f : Field} {k : Kind} (h : kind? c f = some k)
    (hk : k.namesStruct = true) : isNamedType f.type = true := by
  have hfits : k.Fits f := fits_of_kind? h
  cases k with
  | arrayOfArrayOptional => exact hfits.2.1
  | arrayOfArrayRequired => exact hfits.2.1
  | arrayOptional => exact hfits.2.2.1
  | arrayRequired => exact hfits.2.2.1
  | nestedObject => exact hfits.2
  | _ => cases hk

end Code

namespace Validation

open Code

/-- The type of a struct that the generated code can use: the schema defines it, or the settings say
that it is made elsewhere. -/
def Provided (s : Schema) (c : Config) (type : String) : Prop :=
  type ∈ s.types.names ∨ type ∈ c.selfBridging

instance (s : Schema) (c : Config) (type : String) : Decidable (Provided s c type) :=
  inferInstanceAs (Decidable (_ ∨ _))

/-- The types that parameters and results of methods have. -/
inductive MethodReference (s : Schema) : String → Prop
  | parameter {name : String} {m : Method} {p : String × Field}
      (hm : (name, m) ∈ s.methods.toList) (hp : p ∈ m.parameters.toList) :
      MethodReference s p.2.type
  | result {name : String} {m : Method} (hm : (name, m) ∈ s.methods.toList) :
      MethodReference s m.result.type

/-- The field `p` of the struct `type` is rendered by a template that names its type. -/
structure Refers (s : Schema) (c : Config) (type : String) (t : TypeDef) (p : String × Field)
    (k : Kind) : Prop where
  mem_types : (type, t) ∈ s.types.toList
  mem_fields : p ∈ t.fields.toList
  not_true : isLiteralTrue p.2 = false
  classified : classify c type p.1 p.2 = .ok k
  namesStruct : k.namesStruct = true

theorem isKnown_iff {s : Schema} {c : Config} {type : String} :
    isKnown s c type = true ↔ isBuiltin type = true ∨ Provided s c type := by
  simp only [isKnown, Provided, Bool.or_eq_true, List.contains_eq_mem, decide_eq_true_eq, or_assoc]

/-- The check of a parameter's type, whatever has the parameter. -/
theorem parameterTypeIssue?_eq_none_iff {s : Schema} {c : Config} {owner : String}
    {p : String × Field} :
    parameterTypeIssue? s c owner p = none ↔ isKnown s c p.2.type = true := by
  unfold parameterTypeIssue?
  split <;> simp_all

theorem findings_eq_nil_iff {s : Schema} {c : Config} :
    findings s c = [] ↔ typeNameIssues s = [] ∧ fieldNameIssues s c = [] ∧
      fieldShapeIssues s c = [] ∧ allMethodIssues s c = [] := by
  simp [findings, issues]

/-- The schema of one type. -/
def only (type : String) (t : TypeDef) : Schema where
  types := ⟨[(type, t)], by simp⟩
  methods := .empty
  sourceFile := none

section Clean

variable {s : Schema} {c : Config}

/-- A method without issues refers to known types. -/
theorem isKnown_of_methodReference (h : allMethodIssues s c = []) {type : String}
    (hr : MethodReference s type) : isKnown s c type = true := by
  have hmethod {name : String} {m : Method} (hm : (name, m) ∈ s.methods.toList) :
      methodIssues s c name m = [] := List.flatMap_eq_nil_iff.mp h (name, m) hm
  cases hr with
  | @parameter name m p hm hp =>
    by_contra hn
    have hi : parameterTypeIssue? s c name p = some (.parameterUnknown name p.1 p.2.type) := by
      simp [parameterTypeIssue?, hn]
    have hmem : _ ∈ parameterIssues s c name [] m.parameters.sorted :=
      mem_parameterIssues (Table.mem_sorted.mpr hp) (.inr hi)
    have hnone : parameterIssues s c name [] m.parameters.sorted = [] := by
      have := hmethod hm
      simp only [methodIssues, List.append_eq_nil_iff] at this
      exact this.1.2
    simp [hnone] at hmem
  | @result name m hm =>
    by_contra hn
    have hi : resultIssue? s c name m.result = some (.resultUnknown name m.result.type) := by
      simp [resultIssue?, hn]
    have := hmethod hm
    simp [methodIssues, hi] at this

/-- A field that has an accessor in a schema without issues is rendered by a template. -/
theorem exists_template (h : fieldShapeIssues s c = []) {type : String} {t : TypeDef}
    {p : String × Field} (ht : (type, t) ∈ s.types.toList) (hp : p ∈ t.fields.toList)
    (hf : isLiteralTrue p.2 = false) : ∃ k, classify c type p.1 p.2 = .ok k ∧
      accessor c type p = Accessor.text k (accessorName c type p) p.1 p.2 ∧
      (k.namesStruct = true → isNamedType p.2.type = true) := by
  rw [fieldShapeIssues_eq, List.map_eq_nil_iff] at h
  obtain ⟨k, hk⟩ : ∃ k, kind? c p.2 = some k := by
    refine Option.ne_none_iff_exists'.mp fun hn => ?_
    have hu : (⟨type, p.1, p.2⟩ : Unsupported) ∈ untemplatedIn s c :=
      mem_untemplatedIn_iff.mpr ⟨t, ht, hp, hf, hn⟩
    simp [h] at hu
  have hclass := classify_of_some type p.1 hk
  exact ⟨k, hclass, by simp only [accessor, hclass], isNamedType_of_namesStruct hk⟩

/-- The check of a parameter's type would tell whether the struct that a field names is provided. -/
theorem provided_iff_of_refers (h : fieldShapeIssues s c = []) {type : String} {t : TypeDef}
    {p : String × Field} {k : Kind} (hr : Refers s c type t p k) :
    Provided s c p.2.type ↔ parameterTypeIssue? s c type p = none := by
  obtain ⟨k', hclass, -, hnamed⟩ := exists_template h hr.mem_types hr.mem_fields hr.not_true
  obtain rfl : k = k' := Except.ok.inj (hr.classified.symm.trans hclass)
  have hbuiltin : isBuiltin p.2.type = false := by
    have hn := hnamed hr.namesStruct
    simp only [isNamedType, Bool.and_eq_true, Bool.not_eq_true'] at hn
    exact hn.2
  rw [parameterTypeIssue?_eq_none_iff, isKnown_iff, hbuiltin]
  simp

/-- Where nothing is found in a schema, nothing is found in one of its types by itself. -/
theorem findings_only (h : findings s c = []) {type : String} {t : TypeDef}
    (ht : (type, t) ∈ s.types.toList) : findings (only type t) c = [] := by
  obtain ⟨hnames, hfields, hshapes, -⟩ := findings_eq_nil_iff.mp h
  have hname : typeNameIssue? type = none :=
    List.filterMap_eq_nil_iff.mp hnames type (List.mem_map_of_mem ht)
  have hmembers : memberIssues c type t = [] := List.flatMap_eq_nil_iff.mp hfields (type, t) ht
  have hshape : shapeIssues c type t = [] := List.flatMap_eq_nil_iff.mp hshapes (type, t) ht
  refine findings_eq_nil_iff.mpr ⟨?_, ?_, ?_, rfl⟩
  · simp [typeNameIssues, only, Table.names, hname]
  · simp [fieldNameIssues, only, hmembers]
  · simp [fieldShapeIssues, only, hshape]

/-- A reference to another struct is left without it if the rest of the schema is taken away. -/
theorem refers_only {type : String} {t : TypeDef} {p : String × Field} {k : Kind}
    (hr : Refers s c type t p k) : Refers (only type t) c type t p k ∧
      (Provided (only type t) c p.2.type ↔ p.2.type = type ∨ p.2.type ∈ c.selfBridging) :=
  ⟨⟨by simp [only], hr.mem_fields, hr.not_true, hr.classified, hr.namesStruct⟩,
    by simp [Provided, only, Table.names]⟩

/-- Where nothing is found, the types of parameters and results are built in or provided. Each field
with an accessor is rendered by a template, and where this one names a struct, the type of the field is
the name of one. The struct is provided for all of these fields just if the check that parameters
undergo has no objection to them, which validation does not ask: it finds nothing in a type either if
no other type is there, and all references from it to others are without their structs. -/
theorem references_provided_iff (h : findings s c = []) :
    (∀ type, MethodReference s type → isBuiltin type = true ∨ Provided s c type) ∧
    (∀ type t p, (type, t) ∈ s.types.toList → p ∈ t.fields.toList → isLiteralTrue p.2 = false →
      ∃ k, classify c type p.1 p.2 = .ok k ∧
        accessor c type p = Accessor.text k (accessorName c type p) p.1 p.2 ∧
        (k.namesStruct = true → isNamedType p.2.type = true)) ∧
    ((∀ type t p k, Refers s c type t p k → Provided s c p.2.type) ↔
      ∀ type t p k, Refers s c type t p k → parameterTypeIssue? s c type p = none) ∧
    ∀ type t, (type, t) ∈ s.types.toList → findings (only type t) c = [] ∧
      ∀ p k, Refers s c type t p k → Refers (only type t) c type t p k ∧
        (Provided (only type t) c p.2.type ↔ p.2.type = type ∨ p.2.type ∈ c.selfBridging) := by
  obtain ⟨-, -, hshapes, hmethods⟩ := findings_eq_nil_iff.mp h
  refine ⟨fun type hr => isKnown_iff.mp (isKnown_of_methodReference hmethods hr),
    fun type t p => exists_template hshapes, ?_,
    fun type t ht => ⟨findings_only h ht, fun p k => refers_only⟩⟩
  constructor
  · intro hall type t p k hr
    exact (provided_iff_of_refers hshapes hr).mp (hall type t p k hr)
  · intro hall type t p k hr
    exact (provided_iff_of_refers hshapes hr).mpr (hall type t p k hr)

end Clean

/-- A message from a user, and methods that take and give what the schema has. -/
def inbox : Schema where
  types := ⟨[("User", ⟨⟨[("id", ⟨"Int64", false, false, false⟩)], by simp⟩⟩),
    ("Message", ⟨⟨[("from", ⟨"User", false, false, true⟩),
      ("text", ⟨"String", false, false, false⟩)], by simp⟩⟩)], by simp⟩
  methods := ⟨[("getMe", ⟨.empty, ⟨"User", false, false, false⟩⟩),
    ("getUpdates", ⟨⟨[("limit", ⟨"Int", false, false, true⟩)], by simp⟩,
      ⟨"Message", true, false, false⟩⟩)], by simp⟩
  sourceFile := none

theorem references_of_inbox :
    findings inbox .usual = [] ∧ Provided inbox .usual "Message" ∧
      ∃ t, ("Message", t) ∈ inbox.types.toList ∧ findings (only "Message" t) .usual = [] ∧
        ¬ Provided (only "Message" t) .usual "User" := by
  have hclean : findings inbox .usual = [] := by rfl
  obtain ⟨methods, -, -, alone⟩ := references_provided_iff hclean
  have hmethod : ("getUpdates", ⟨⟨[("limit", ⟨"Int", false, false, true⟩)], by simp⟩,
      ⟨"Message", true, false, false⟩⟩) ∈ inbox.methods.toList := by simp [inbox]
  have hresult : MethodReference inbox "Message" := .result hmethod
  have hmessage : ("Message", ⟨⟨[("from", ⟨"User", false, false, true⟩),
      ("text", ⟨"String", false, false, false⟩)], by simp⟩⟩) ∈ inbox.types.toList := by simp [inbox]
  obtain ⟨hfound, hrefs⟩ := alone "Message" _ hmessage
  have hfrom := hrefs ("from", ⟨"User", false, false, true⟩) .nestedObject
    ⟨hmessage, by simp, by decide, by rfl, rfl⟩
  refine ⟨hclean, (methods "Message" hresult).resolve_left (by decide), _, hmessage, hfound, ?_⟩
  exact fun hp => absurd (hfrom.2.mp hp) (by decide)

/-- A message from a user that the schema does not define. -/
def orphan : Schema :=
  only "Message" ⟨⟨[("from", ⟨"User", false, false, true⟩)], by simp⟩⟩

/-- Nothing is found in a schema that refers to a struct that nothing defines. -/
theorem references_not_all_provided :
    ¬ ∀ (s : Schema) (c : Config), c.strict = true → findings s c = [] →
      (∀ type t p k, Refers s c type t p k → Provided s c p.2.type) ∧
        ∀ type, MethodReference s type → isBuiltin type = true ∨ Provided s c type := by
  intro h
  have hrefers : Refers orphan .usual "Message" ⟨⟨[("from", ⟨"User", false, false, true⟩)], by simp⟩⟩
      ("from", ⟨"User", false, false, true⟩) .nestedObject :=
    ⟨by simp [orphan, only], by simp, by decide, by rfl, rfl⟩
  exact absurd ((h orphan .usual rfl (by rfl)).1 _ _ _ _ hrefers) (by decide)

end Validation
end ClientGen
