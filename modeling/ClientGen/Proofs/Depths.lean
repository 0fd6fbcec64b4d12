import ClientGen.Pipeline.Run
import ClientGen.Proofs.Issues
import ClientGen.Proofs.Templates

/-! The two marks of a sequence. A sequence of sequences is one whether or not it is also marked as a
plain sequence, so setting that mark in a whole schema shows nowhere: not in the short forms, not in
a validation, and not in the code or in what is told about it. -/

namespace ClientGen

/-! ## Marking a schema -/

/-- The field with the mark of a sequence set, if it is a sequence of sequences. -/
def Field.marked (f : Field) : Field :=
  if f.isNested then { f with isArray := true } else f

namespace Table

variable {α β : Type}

/-- The table with `f` applied to its entries. -/
def map (f : α → β) (t : Table α) : Table β :=
  ⟨t.toList.map fun p => (p.1, f p.2), by
    rw [List.map_map]
    exact t.nodup⟩

@[simp] theorem names_map (f : α → β) (t : Table α) : (t.map f).names = t.names := by
  simp [names, map, Function.comp_def]

@[simp] theorem size_map (f : α → β) (t : Table α) : (t.map f).size = t.size := by
  simp [size, map]

@[simp] theorem sorted_map (f : α → β) (t : Table α) :
    (t.map f).sorted = t.sorted.map fun p => (p.1, f p.2) :=
  Text.sortByKey_map f t.toList

end Table

def TypeDef.marked (t : TypeDef) : TypeDef :=
  ⟨t.fields.map Field.marked⟩

def Method.marked (m : Method) : Method :=
  ⟨m.parameters.map Field.marked, m.result.marked⟩

/-- The schema with each of its fields, parameters and results marked. -/
def Schema.marked (s : Schema) : Schema :=
  ⟨s.types.map TypeDef.marked, s.methods.map Method.marked, s.sourceFile⟩

/-! ## Fields -/

namespace Field

variable (f : Field)

theorem marked_cases : f.marked = f ∨ f.isNested = true ∧ f.marked = { f with isArray := true } := by
  cases h : f.isNested with
  | true => exact .inr ⟨rfl, by simp [marked, h]⟩
  | false => exact .inl (by simp [marked, h])

@[simp] theorem type_marked : f.marked.type = f.type := by
  rcases f.marked_cases with h | ⟨-, h⟩ <;> rw [h]

@[simp] theorem isNested_marked : f.marked.isNested = f.isNested := by
  rcases f.marked_cases with h | ⟨-, h⟩ <;> rw [h]

@[simp] theorem isOptional_marked : f.marked.isOptional = f.isOptional := by
  rcases f.marked_cases with h | ⟨-, h⟩ <;> rw [h]

@[simp] theorem isSequence_marked : f.marked.isSequence = f.isSequence := by
  rcases f.marked_cases with h | ⟨hn, h⟩
  · rw [h]
  · simp [h, isSequence, hn]

/-- The depth is told by the mark of a sequence of sequences first. -/
@[simp] theorem shorthand_marked : f.marked.shorthand = f.shorthand := by
  rcases f.marked_cases with h | ⟨hn, h⟩
  · rw [h]
  · simp [h, shorthand, hn]

example : (⟨"Photo", false, true, true⟩ : Field).marked.shorthand = "[[Photo]]?" := by decide

end Field

/-! ## Code -/

namespace Code

variable (c : Config) (owner key : String) (f : Field)

@[simp] theorem isLiteralTrue_marked : isLiteralTrue f.marked = isLiteralTrue f := by
  rw [isLiteralTrue, isLiteralTrue, f.type_marked]

@[simp] theorem typeName_marked : typeName f.marked = typeName f := by
  rcases f.marked_cases with h | ⟨hn, h⟩
  · rw [h]
  · simp [h, typeName, isLiteralTrue, hn]

@[simp] theorem kind?_marked : kind? c f.marked = kind? c f := by
  simp only [kind?, f.isSequence_marked, f.type_marked, f.isNested_marked, f.isOptional_marked]

/-- A template writes a field by its type and by whether it may be absent. -/
@[simp] theorem lines_marked (k : Kind) (accessor : String) :
    Accessor.lines k accessor key f.marked = Accessor.lines k accessor key f := by
  cases k <;>
    simp only [Accessor.lines, Accessor.scalar, Accessor.arrayOfArrayOptional,
      Accessor.arrayOfArrayRequired, Accessor.arrayOptional, Accessor.arrayRequired,
      Accessor.variantContent, Accessor.selfBridging, Accessor.nestedObject, f.type_marked,
      f.isOptional_marked]

/-- The complaint about a field, with the field marked. -/
def Unsupported.marked (u : Unsupported) : Unsupported :=
  { u with field := u.field.marked }

def Fault.marked : Fault → Fault
  | .unsupported u => .unsupported u.marked
  | .noScalar type => .noScalar type

@[simp] theorem owner_marked (u : Unsupported) : u.marked.owner = u.owner := rfl

@[simp] theorem fieldName_marked (u : Unsupported) : u.marked.fieldName = u.fieldName := rfl

@[simp] theorem shape_marked (u : Unsupported) : u.marked.field.shorthand = u.field.shorthand :=
  u.field.shorthand_marked

theorem reason_marked (u : Unsupported) : u.marked.reason = u.reason := by
  simp only [Unsupported.reason, Unsupported.marked, objection, Field.isSequence_marked,
    Field.type_marked]

theorem message_marked (u : Unsupported) : u.marked.message = u.message := by
  have hs : u.marked.field.shorthand = u.field.shorthand := shape_marked u
  unfold Unsupported.message
  rw [reason_marked, hs, owner_marked, fieldName_marked]

theorem warning_marked (u : Unsupported) : u.marked.warning = u.warning := by
  simp only [Unsupported.warning, reason_marked, owner_marked, fieldName_marked, shape_marked]

theorem classify_marked :
    classify c owner key f.marked = (classify c owner key f).mapError Unsupported.marked := by
  rw [classify, classify, kind?_marked]
  cases kind? c f with
  | some k => rfl
  | none => cases hc : c.strict <;> rfl

theorem classifyLog_marked : classifyLog c owner key f.marked = classifyLog c owner key f := by
  rw [classifyLog, classifyLog, kind?_marked]
  have hw := warning_marked ⟨owner, key, f⟩
  rw [Unsupported.marked] at hw
  rw [hw]

/-- A template has no fault but a type that it is not for, and marking leaves the type as it is. -/
theorem text_marked (k : Kind) (accessor : String) :
    Accessor.text k accessor key f.marked =
      (Accessor.text k accessor key f).mapError Fault.marked := by
  rw [Accessor.text, Accessor.text, lines_marked]
  cases k with
  | scalar =>
    simp only [Accessor.lines]
    cases stem? f.type <;> rfl
  | _ => rfl

theorem accessor_marked (p : String × Field) :
    accessor c owner (p.1, p.2.marked) = (accessor c owner p).mapError Fault.marked := by
  have hname : accessorName c owner (p.1, p.2.marked) = accessorName c owner p := by
    simp [accessorName]
  simp only [accessor, hname, classify_marked, text_marked]
  cases classify c owner p.1 p.2 <;> rfl

/-- The entries of a table with their fields marked. -/
def markedEntries (fields : List (String × Field)) : List (String × Field) :=
  fields.map fun p => (p.1, p.2.marked)

theorem accessors_marked (fields : List (String × Field)) :
    accessors c owner (markedEntries fields) =
      (accessors c owner fields).mapError Fault.marked := by
  induction fields with
  | nil => rfl
  | cons p rest ih =>
    rw [markedEntries] at ih ⊢
    simp only [List.map_cons, accessors, isLiteralTrue_marked, accessor_marked, ih]
    cases isLiteralTrue p.2 with
    | true => rfl
    | false =>
      cases accessor c owner p with
      | error e => rfl
      | ok s => cases accessors c owner rest <;> rfl

theorem accessorsLog_marked (fields : List (String × Field)) :
    accessorsLog c owner (markedEntries fields) = accessorsLog c owner fields := by
  induction fields with
  | nil => rfl
  | cons p rest ih =>
    rw [markedEntries] at ih ⊢
    simp only [List.map_cons, accessorsLog, isLiteralTrue_marked, classifyLog_marked,
      classify_marked, Field.type_marked, ih]
    cases classify c owner p.1 p.2 <;> rfl

theorem trueDefaults_marked (fields : List (String × Field)) :
    trueDefaults (markedEntries fields) = trueDefaults fields := by
  simp [trueDefaults, markedEntries, List.filter_map, Function.comp_def]

theorem fields_marked (t : TypeDef) : t.marked.fields.sorted = markedEntries t.fields.sorted :=
  t.fields.sorted_map Field.marked

theorem parameters_marked (m : Method) :
    m.marked.parameters.sorted = markedEntries m.parameters.sorted :=
  m.parameters.sorted_map Field.marked

theorem structText_marked (name : String) (t : TypeDef) :
    structText c name t.marked = (structText c name t).mapError Fault.marked := by
  rw [structText, structText, fields_marked, accessors_marked, defaultsLiteral, defaultsLiteral,
    trueDefaults_marked]
  cases accessors c name t.fields.sorted <;> rfl

theorem structLog_marked (name : String) (t : TypeDef) :
    structLog c name t.marked = structLog c name t := by
  have hsize : t.marked.fields.size = t.fields.size := t.fields.size_map Field.marked
  rw [structLog, structLog, fields_marked, accessorsLog_marked, structText_marked,
    trueDefaults_marked, hsize]
  cases structText c name t <;> rfl

theorem bridgingLiteral_marked (parameters : List (String × Field)) :
    bridgingLiteral (markedEntries parameters) = bridgingLiteral parameters := by
  have hlines : bridgingLines (markedEntries parameters) = bridgingLines parameters := by
    induction parameters with
    | nil => rfl
    | cons p rest ih =>
      cases rest with
      | nil => rfl
      | cons q rest =>
        simp only [markedEntries, List.map_cons] at ih ⊢
        simp only [bridgingLines, bridgingPair, ih]
  rw [bridgingLiteral, bridgingLiteral, hlines]
  simp [markedEntries]

theorem methodText_marked (name : String) (m : Method) :
    methodText name m.marked = methodText name m := by
  have hresult : typeName m.marked.result = typeName m.result := typeName_marked m.result
  have hsignature (ps : List (String × Field)) :
      (markedEntries ps).map (fun p => pad ++ parameterItem p) =
        ps.map fun p => pad ++ parameterItem p := by
    simp [markedEntries, parameterItem]
  simp only [methodText, methodLines, parameters_marked, hresult, hsignature,
    bridgingLiteral_marked]

theorem methodLog_marked (name : String) (m : Method) :
    methodLog name m.marked = methodLog name m := by
  have hsize : m.marked.parameters.size = m.parameters.size :=
    m.parameters.size_map Field.marked
  rw [methodLog, methodLog, hsize]

end Code

/-! ## Validation -/

namespace Validation

variable (s : Schema) (c : Config)

theorem accessible_marked (t : TypeDef) :
    accessible t.marked = Code.markedEntries (accessible t) := by
  rw [accessible, accessible, Code.fields_marked, Code.markedEntries, Code.markedEntries,
    List.filter_map]
  simp [Function.comp_def]

theorem memberIssues_marked (type : String) (t : TypeDef) :
    memberIssues c type t.marked = memberIssues c type t := by
  have hissue (p : String × Field) :
      accessorIssue? c type (p.1, p.2.marked) = accessorIssue? c type p := by
    simp only [accessorIssue?, Code.accessorName, Field.type_marked]
    rfl
  have hclaims : memberClaims c type t.marked = memberClaims c type t := by
    simp [memberClaims, accessible_marked, Code.markedEntries, Code.accessorName]
  rw [memberIssues, memberIssues, hclaims, accessible_marked, Code.markedEntries,
    List.filterMap_map]
  simp only [Function.comp_def, hissue]

/-- The complaint about a missing template names the field by its short form. -/
theorem finding_unsupported_marked (strict : Bool) (u : Code.Unsupported) :
    (Issue.unsupported strict u.marked).finding = (Issue.unsupported strict u).finding := by
  have hmessage : (Issue.unsupported strict u.marked).message =
      (Issue.unsupported strict u).message := Code.message_marked u
  have hsubjects : (Issue.unsupported strict u.marked).subjects =
      (Issue.unsupported strict u).subjects := by
    simp only [Issue.subjects, Code.owner_marked, Code.fieldName_marked, Code.shape_marked]
  have hseverity : (Issue.unsupported strict u.marked).severity =
      (Issue.unsupported strict u).severity := rfl
  have hcode : (Issue.unsupported strict u.marked).code =
      (Issue.unsupported strict u).code := rfl
  rw [Issue.finding, Issue.finding, hseverity, hcode, hmessage, hsubjects]

theorem findings_shapeIssues_marked (type : String) (t : TypeDef) :
    (shapeIssues c type t.marked).map Issue.finding =
      (shapeIssues c type t).map Issue.finding := by
  have hissue (p : String × Field) :
      (shapeIssue? c type (p.1, p.2.marked)).map Issue.finding =
        (shapeIssue? c type p).map Issue.finding := by
    rw [shapeIssue?, shapeIssue?, Code.classify_marked]
    cases Code.classify c.probe type p.1 p.2 with
    | ok k => rfl
    | error u => exact congrArg some (finding_unsupported_marked c.strict u)
  rw [shapeIssues, shapeIssues, accessible_marked, Code.markedEntries, List.filterMap_map,
    List.map_filterMap, List.map_filterMap]
  simp only [Function.comp_def, hissue]

theorem typeNames_marked : s.marked.types.names = s.types.names :=
  s.types.names_map TypeDef.marked

theorem methodIssues_marked (name : String) (m : Method) :
    methodIssues s.marked c name m.marked = methodIssues s c name m := by
  have hparameters (before : List String) (ps : List (String × Field)) :
      parameterIssues s c name before (Code.markedEntries ps) =
        parameterIssues s c name before ps := by
    rw [Code.markedEntries]
    induction ps generalizing before with
    | nil => rfl
    | cons p rest ih =>
      simp only [List.map_cons, parameterIssues, parameterTypeIssue?, Field.type_marked, ih]
  have hresult : m.marked.result.type = m.result.type := m.result.type_marked
  rw [methodIssues_congr (isKnown_congr c (typeNames_marked s)), methodIssues, methodIssues,
    Code.parameters_marked, hparameters, resultIssue?, resultIssue?, hresult]

theorem findings_marked : findings s.marked c = findings s c := by
  have hnames : typeNameIssues s.marked = typeNameIssues s := by
    rw [typeNameIssues, typeNameIssues, typeNames_marked]
  have hmembers : fieldNameIssues s.marked c = fieldNameIssues s c := by
    simp only [fieldNameIssues, Schema.marked, Table.map, List.flatMap_map, memberIssues_marked]
  have hshapes : (fieldShapeIssues s.marked c).map Issue.finding =
      (fieldShapeIssues s c).map Issue.finding := by
    simp only [fieldShapeIssues, Schema.marked, Table.map, List.flatMap_map, List.map_flatMap,
      findings_shapeIssues_marked]
  have hmethods : allMethodIssues s.marked c = allMethodIssues s c := by
    rw [allMethodIssues, allMethodIssues, show s.marked.methods.toList =
      s.methods.toList.map fun p => (p.1, p.2.marked) from rfl, List.flatMap_map]
    simp only [methodIssues_marked]
  simp only [findings, issues, List.map_append, hnames, hmembers, hshapes, hmethods]

theorem log_marked : log s.marked c = log s c := by
  have htypes : s.marked.types.size = s.types.size := s.types.size_map _
  have hmethods : s.marked.methods.size = s.methods.size := s.methods.size_map _
  rw [log, log, findings_marked, htypes, hmethods]

end Validation

/-! ## Sessions and runs -/

namespace Session

open FileTree

def Callback.marked : Callback → Callback
  | .type name t => .type name t.marked
  | .method name m => .method name m.marked
  | b => b

def Fault.marked : Fault → Fault
  | .code f => .code f.marked
  | .file f => .file f

/-- The outcome with the field that it complains of marked. -/
def Outcome.marked (o : Outcome Fault) : Outcome Fault :=
  { o with fault := o.fault.map Fault.marked }

theorem announcement_marked (b : Callback) : b.marked.announcement = b.announcement := by
  cases b <;> rfl

/-- A callback comes to the same with its fields marked. -/
theorem step_marked (s : Session) (d : Disk) (b : Callback) :
    s.step d b.marked = (s.step d b).marked := by
  cases b with
  | type name t =>
    simp only [step, Callback.marked, Code.structText_marked, Code.structLog_marked]
    cases Code.structText s.config name t <;> rfl
  | method name m =>
    simp only [step, Callback.marked, Code.methodText_marked, Code.methodLog_marked]
    rfl
  | finish =>
    simp only [step, Callback.marked, Outcome.marked]
    cases (s.finish d).fault <;> rfl
  | _ => rfl

theorem run_marked (s : Session) (d : Disk) (bs : List Callback) :
    s.run d (bs.map Callback.marked) = (s.run d bs).marked := by
  induction bs generalizing s d with
  | nil => rfl
  | cons b rest ih =>
    simp only [List.map_cons, run, step_marked, announcement_marked, Outcome.marked] at ih ⊢
    cases (s.step d b).fault with
    | some f => rfl
    | none => simp only [Option.map_none, ih]

theorem delivery_marked (schema : Schema) (write : Bool) :
    delivery schema.marked write = (delivery schema write).map Callback.marked := by
  cases write <;>
    simp [delivery, Schema.marked, Table.map, Callback.marked, Function.comp_def]

theorem deliver_marked (s : Session) (d : Disk) (schema : Schema) (write : Bool) :
    s.deliver d schema.marked write = (s.deliver d schema write).marked := by
  rw [deliver, deliver, delivery_marked, run_marked]
  simp only [Outcome.marked]
  cases hf : (s.run d (delivery schema write)).fault with
  | some f => simp [hf]
  | none => simp

end Session

namespace Pipeline

open FileTree

/-- The text of a fault names the field by its short form. -/
@[simp] theorem generationError_marked (f : Session.Fault) :
    generationError f.marked = generationError f := by
  rcases f with (u | type) | f
  · exact Code.message_marked u
  · rfl
  · rfl

theorem withCode_marked (r : Report) (s : Session) (fault : Option Session.Fault) :
    withCode r s (fault.map Session.Fault.marked) = withCode r s fault := by
  cases fault <;> simp [withCode]

theorem generate_marked (d : Disk) (o : Options) (s : Schema) (c : Config) (output : Path)
    (r : Report) : generate d o s.marked c output r = generate d o s c output r := by
  rw [generate, generate, Session.deliver_marked]
  simp only [Session.Outcome.marked, withCode_marked]
  cases ((Session.new output c).deliver d s false).fault with
  | none => rfl
  | some f => simp

theorem run_marked (d : Disk) (o : Options) (s : Schema) (c : Config) (output : Option Path) :
    run d o s.marked c output = run d o s c output := by
  simp only [run, generateFrom, Validation.findings_marked, Validation.log_marked,
    generate_marked]

end Pipeline

/-- Marking every sequence of sequences in a schema as a sequence too changes nothing that can be seen.
Fields have the same short forms. A validation finds the same. A session comes to the same texts, files
and records, and if it stops then with a fault of the same text; and so does a run. -/
theorem marked_same_output (s : Schema) :
    (∀ f : Field, f.marked.shorthand = f.shorthand) ∧
    (∀ c, Validation.findings s.marked c = Validation.findings s c) ∧
    (∀ (g : Session) (d : FileTree.Disk) (write : Bool),
      let marked := g.deliver d s.marked write
      let plain := g.deliver d s write
      marked.disk = plain.disk ∧ marked.session = plain.session ∧ marked.log = plain.log ∧
        marked.fault.map Pipeline.generationError = plain.fault.map Pipeline.generationError) ∧
    ∀ d o c output, Pipeline.run d o s.marked c output = Pipeline.run d o s c output := by
  refine ⟨Field.shorthand_marked, Validation.findings_marked s, ?_,
    fun d o c output => Pipeline.run_marked d o s c output⟩
  intro g d write
  have h := Session.deliver_marked g d s write
  refine ⟨by rw [h]; rfl, by rw [h]; rfl, by rw [h]; rfl, ?_⟩
  have htext : Pipeline.generationError ∘ Session.Fault.marked = Pipeline.generationError :=
    funext Pipeline.generationError_marked
  rw [h, Session.Outcome.marked, Option.map_map, htext]

end ClientGen
