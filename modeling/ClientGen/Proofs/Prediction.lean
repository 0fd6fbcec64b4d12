import ClientGen.CommandLine.Command
import ClientGen.Proofs.Issues
import ClientGen.Proofs.Templates

/-! Validation predicts rendering: strict rendering fails at the first field that validation finds
no template for, and lenient rendering warns of just these fields. So a run that passed a strict
validation has no error of rendering left. -/

namespace ClientGen

open FileTree

namespace Session

open Code (stop complaints)

/-- The fields without template that a callback brings. -/
def Callback.untemplated (c : Config) : Callback → List Code.Unsupported
  | .type name t => Code.untemplated c name t.fields.sorted
  | _ => []

theorem step_config {b : Callback} (s : Session) (d : Disk) (h : b ≠ .finish) :
    (s.step d b).session.config = s.config := by
  cases b with
  | type name t =>
    simp only [step]
    split <;> rfl
  | finish => exact absurd rfl h
  | _ => rfl

/-- A callback fails at the first field without template that it brings, under strict settings. -/
theorem step_fault {b : Callback} (s : Session) (d : Disk) (h : b ≠ .finish) :
    (s.step d b).fault = (stop s.config (b.untemplated s.config)).map .code := by
  cases b with
  | type name t =>
    simp only [step, Callback.untemplated, ← Code.faultOf_structText]
    cases Code.structText s.config name t <;> rfl
  | finish => exact absurd rfl h
  | _ => simp [step, Callback.untemplated]

theorem step_warnings {b : Callback} (s : Session) (d : Disk) (h : b ≠ .finish) :
    Log.warnings (s.step d b).log = complaints s.config (b.untemplated s.config) := by
  cases b with
  | type name t =>
    rw [Callback.untemplated, ← Code.warnings_structLog]
    simp only [step]
    split <;> rfl
  | finish => exact absurd rfl h
  | _ => simp [step, Callback.untemplated, Code.methodLog, Log.warnings]

@[simp] theorem warnings_announcement (b : Callback) : Log.warnings b.announcement = [] := by
  cases b <;> rfl

/-- A run fails at the first field without template among all that its callbacks bring. -/
theorem run_fault (s : Session) (d : Disk) {bs : List Callback} (h : .finish ∉ bs) :
    (s.run d bs).fault =
      (stop s.config (bs.flatMap (Callback.untemplated s.config))).map .code := by
  induction bs generalizing s d with
  | nil => simp [run]
  | cons b rest ih =>
    have hb : b ≠ .finish := fun e => h (by simp [e])
    have hf := step_fault s d hb
    have hr := ih (s.step d b).session (s.step d b).disk (fun m => h (by simp [m]))
    rw [step_config s d hb] at hr
    simp only [run, List.flatMap_cons, Code.stop_append]
    cases hs : stop s.config (b.untemplated s.config) with
    | some e => simp [hf, hs]
    | none => simp [hf, hs, hr]

theorem run_warnings (s : Session) (d : Disk) {bs : List Callback} (h : .finish ∉ bs) :
    Log.warnings (s.run d bs).log =
      complaints s.config (bs.flatMap (Callback.untemplated s.config)) := by
  induction bs generalizing s d with
  | nil => simp [run]
  | cons b rest ih =>
    have hb : b ≠ .finish := fun e => h (by simp [e])
    have hw := step_warnings s d hb
    have hf := step_fault s d hb
    have hr := ih (s.step d b).session (s.step d b).disk (fun m => h (by simp [m]))
    rw [step_config s d hb] at hr
    simp only [run, List.flatMap_cons, Code.complaints_append]
    cases hs : stop s.config (b.untemplated s.config) with
    | none => simp [hf, hs, hr, hw]
    | some e =>
      have hc : s.config.strict = true := by
        by_cases hc : s.config.strict <;> simp_all [stop]
      simp [hf, hs, hw, complaints, hc]

theorem finish_not_mem_delivery (schema : Schema) : .finish ∉ delivery schema false := by
  simp [delivery]

/-- The files are written behind all other callbacks. -/
theorem delivery_eq (schema : Schema) (write : Bool) :
    delivery schema write = delivery schema false ++ if write then [.finish] else [] := by
  cases write <;> simp [delivery]

theorem untemplated_delivery (schema : Schema) (c : Config) :
    (delivery schema false).flatMap (Callback.untemplated c) = Code.untemplatedIn schema c := by
  have hm : (schema.methods.toList.map fun p => Callback.method p.1 p.2).flatMap
      (Callback.untemplated c) = [] := by
    simp [List.flatMap_map, Callback.untemplated]
  simp only [delivery, List.flatMap_append, hm, List.flatMap_map]
  simp [Code.untemplatedIn, Callback.untemplated]

/-- A delivery that writes nothing fails at the first field of the schema without template. -/
theorem deliver_fault (s : Session) (d : Disk) (schema : Schema) :
    (s.deliver d schema false).fault =
      (stop s.config (Code.untemplatedIn schema s.config)).map .code := by
  rw [← untemplated_delivery, ← run_fault s d (finish_not_mem_delivery schema)]
  unfold deliver
  dsimp only
  split
  · rfl
  · next hn => simp [hn]

theorem deliver_warnings (s : Session) (d : Disk) (schema : Schema) :
    Log.warnings (s.deliver d schema false).log =
      complaints s.config (Code.untemplatedIn schema s.config) := by
  rw [← untemplated_delivery, ← run_warnings s d (finish_not_mem_delivery schema)]
  unfold deliver
  dsimp only
  split
  · rfl
  · simp [closingLog, Log.warnings]

/-- A delivery is the run of its callbacks, but for what is told at the end. -/
theorem deliver_eq (s : Session) (d : Disk) (schema : Schema) (write : Bool) :
    ∃ log, s.deliver d schema write = { s.run d (delivery schema write) with log := log } := by
  unfold deliver
  dsimp only
  split
  · exact ⟨_, rfl⟩
  · exact ⟨_, rfl⟩

end Session
namespace Validation

/-- The findings about missing templates are those for the fields without one, in their order. -/
theorem findings_unsupported (s : Schema) (c : Config) :
    (findings s c).filter (fun f => f.code == "FIELD_UNSUPPORTED") =
      (Code.untemplatedIn s c).map fun u => (Issue.unsupported c.strict u).finding := by
  rw [findings, List.filter_map]
  have hc : ((fun f : Finding => f.code == "FIELD_UNSUPPORTED") ∘ Issue.finding) =
      fun i => i.code == "FIELD_UNSUPPORTED" := rfl
  rw [hc, filter_issues_shape, fieldShapeIssues_eq, List.map_map]
  rfl

theorem find_unsupported (s : Schema) (c : Config) :
    (findings s c).find? (fun f => f.code == "FIELD_UNSUPPORTED") =
      (Code.untemplatedIn s c).head?.map fun u => (Issue.unsupported c.strict u).finding := by
  rw [← List.head?_filter, findings_unsupported, List.head?_map]

theorem exists_unsupported_iff (s : Schema) (c : Config) :
    (∃ f ∈ findings s c, f.code = "FIELD_UNSUPPORTED") ↔ Code.untemplatedIn s c ≠ [] := by
  have h := findings_unsupported s c
  constructor
  · rintro ⟨f, hf, hc⟩ he
    have hm : f ∈ (findings s c).filter fun f => f.code == "FIELD_UNSUPPORTED" := by
      simp [hf, hc]
    simp [h, he] at hm
  · intro he
    obtain ⟨u, us, hu⟩ := List.exists_cons_of_ne_nil he
    have hm : (Issue.unsupported c.strict u).finding ∈
        (findings s c).filter fun f => f.code == "FIELD_UNSUPPORTED" := by
      simp [h, hu]
    exact ⟨_, (List.mem_filter.mp hm).1, rfl⟩

/-- A schema without errors stops no rendering. -/
theorem stop_of_isValid {s : Schema} {c : Config} (h : (findings s c).isValid = true) :
    Code.stop c (Code.untemplatedIn s c) = none := by
  cases hc : c.strict with
  | false => simp [Code.stop, hc]
  | true =>
    cases hu : Code.untemplatedIn s c with
    | nil => simp
    | cons u us =>
      have hm : Issue.unsupported true u ∈ issues s c := by
        simp [issues, fieldShapeIssues_eq, hu, hc]
      have hs := (isValid_iff s c).mp h _ hm
      cases hs

end Validation

namespace Pipeline

@[simp] theorem after_result (log : List Log.Record) (o : Outcome) :
    (o.after log).result = o.result := rfl

@[simp] theorem after_disk (log : List Log.Record) (o : Outcome) :
    (o.after log).disk = o.disk := rfl

@[simp] theorem generationErrors_addStep (r : Report) (name : String) (success : Bool)
    (detail : String) : (r.addStep name success detail).generationErrors = r.generationErrors := rfl

section Results

variable {d : Disk} {o : Options} {schema : Schema} {c : Config} {output : Path} {r r' : Report}

theorem write_disk (d : Disk) (s : Session) (r : Report) :
    (write d s r).disk = (s.finish d).disk := by
  unfold write
  dsimp only
  split
  · rfl
  · split <;> rfl

/-- The report of a writing. -/
theorem write_result {s : Session} (h : (write d s r).result = .ok r') :
    r' = (withFiles r (s.finish d).session (s.finish d).fault).finished := by
  unfold write at h
  dsimp only at h
  split at h
  · next hf =>
    cases h
    rw [hf]
  · next f hf =>
    split at h
    · cases h
    · cases h
      rw [hf]

/-- A writing has no report just where its fault is of a text. -/
theorem write_error_iff {s : Session} {e : Escape} : (write d s r).result = .error e ↔
    ∃ f t, (s.finish d).fault = some f ∧ f.problem = .text t ∧ e = .text t := by
  unfold write
  dsimp only
  cases hf : (s.finish d).fault with
  | none => simp
  | some f => cases hp : f.problem <;> simp [hp, eq_comm]

/-- The report of a rendering that fails or is not to be written, or that of the writing after it. -/
theorem generate_result (h : (generate d o schema c output r).result = .ok r') :
    let out := (Session.new output c).deliver d schema false
    ((out.fault ≠ none ∨ o.dryRun = true) ∧ r' = (withCode r out.session out.fault).finished) ∨
      (out.fault = none ∧ o.dryRun = false ∧
        (write out.disk out.session (withCode r out.session none)).result = .ok r') := by
  unfold generate at h
  dsimp only at h ⊢
  split at h
  · next f hf =>
    cases h
    exact .inl ⟨.inl (by simp [hf]), rfl⟩
  · next hf =>
    rw [hf] at h ⊢
    split at h
    · next ho =>
      cases h
      exact .inl ⟨.inr ho, rfl⟩
    · next ho =>
      rw [after_result] at h
      exact .inr ⟨rfl, by simpa using ho, h⟩

/-- The report of a validation that ends the run, or that of the rendering after it. -/
theorem generateFrom_result (h : (generateFrom d o schema c output r).result = .ok r') :
    let fs := Validation.findings schema c
    let report := withFindings { r with outputDirectory := (d.resolve output).text } o fs
    (passes o fs = false ∧ r' = report.finished) ∨
      (passes o fs = true ∧ (generate d o schema c output report).result = .ok r') := by
  unfold generateFrom at h
  split at h
  · cases h
  · dsimp only at h ⊢
    split at h
    · next hp =>
      rw [after_result] at h
      exact .inr ⟨hp, h⟩
    · next hp =>
      cases h
      exact .inl ⟨by simpa using hp, rfl⟩

/-- A finished report that holds no error of rendering. -/
def Clean (r : Report) : Prop :=
  r.generationErrors = [] ∧ ∃ q : Report, r = q.finished

theorem write_clean {s : Session} (h : r.generationErrors = [])
    (hr : (write d s r).result = .ok r') : Clean r' := by
  rw [write_result hr]
  exact ⟨h, _, rfl⟩

theorem generate_clean (h : Code.stop c (Code.untemplatedIn schema c) = none)
    (hr : (generate d o schema c output r).result = .ok r') : Clean r' := by
  have hf : ((Session.new output c).deliver d schema false).fault = none := by
    rw [Session.deliver_fault]
    simp [Session.new, h]
  rcases generate_result hr with ⟨-, rfl⟩ | ⟨-, -, hwrite⟩
  · exact ⟨by simp [Report.finished, withCode, hf], _, rfl⟩
  · exact write_clean (by simp [withCode]) hwrite

/-- A run that validates strictly has no error of rendering. -/
theorem generateFrom_clean (ho : o.strict = true) (h : r.generationErrors = [])
    (hr : (generateFrom d o schema c output r).result = .ok r') : Clean r' := by
  rcases generateFrom_result hr with ⟨-, rfl⟩ | ⟨hp, hgenerate⟩
  · exact ⟨h, _, rfl⟩
  · have hv : (Validation.findings schema c).isValid = true := by
      simp only [passes, ho, Bool.not_true, Bool.false_or, Bool.and_eq_true] at hp
      exact hp.1
    exact generate_clean (Validation.stop_of_isValid hv) hgenerate

end Results

/-- A run for a file fails while it loads or parses, or has no error of rendering. -/
theorem runFile_clean {d : Disk} {o : Options} {p : Path} {output : Option Path} {settings : Value}
    {r : Report} (ho : o.strict = true)
    (hr : (runFile d o p output settings).result = .ok r) :
    Clean r ∨ (∃ message, r = failed (Report.blank o.dryRun) .load message) ∨
      ∃ detail message,
        r = failed ((Report.blank o.dryRun).addStep Stage.load.title true detail) .parse
          message := by
  unfold runFile at hr
  dsimp only at hr
  split at hr
  · split at hr <;> cases hr
    exact .inr (.inl ⟨_, rfl⟩)
  · unfold Outcome.after runDocument at hr
    dsimp only at hr
    split at hr
    · cases hr
    · split at hr
      · cases hr
        exact .inr (.inr ⟨_, _, rfl⟩)
      · rw [after_result] at hr
        exact .inl (generateFrom_clean ho (by simp [Report.blank]) hr)

end Pipeline

namespace CommandLine

open Pipeline

/-- The ends of a generation for which a schema was read. -/
def afterReading : List Exit :=
  [.success, .validationError, .exportError]

/-- A report at its end without an error of rendering is a success, or has an error of the validation or
of writing. -/
theorem exitOf_clean {r : Report} (h : Clean r) : exitOf r ∈ afterReading := by
  obtain ⟨hg, q, rfl⟩ := h
  have hs : q.finished.success = (q.finished.validationErrors.isEmpty && true &&
      q.finished.exportErrors.isEmpty) := by
    rw [← show q.finished.generationErrors.isEmpty = true by rw [hg]; rfl]
    rfl
  unfold exitOf
  rw [hs]
  cases q.finished.validationErrors.isEmpty <;> cases q.finished.exportErrors.isEmpty <;>
    simp [afterReading]

theorem exitOf_failed_load (dry : Bool) (message : String) :
    exitOf (failed (Report.blank dry) .load message) = .inputError := rfl

theorem exitOf_failed_parse (dry : Bool) (detail message : String) :
    exitOf (failed ((Report.blank dry).addStep Stage.load.title true detail) .parse message) =
      .inputError := rfl

/-- Generating for a file ends with no error of rendering. -/
theorem generate_ending (d : Disk) (a : Arguments) (p : Path) (stated : Value) :
    (generate d a p stated).ending ≠ .ok .generationError := by
  unfold generate
  split
  · simp
  · dsimp only
    split
    · simp
    · next r hr =>
      have ho : (Options.mk true a.failOnWarnings a.dryRun).strict = true := rfl
      have hc := runFile_clean ho hr
      rcases hc with hc | ⟨message, rfl⟩ | ⟨detail, message, rfl⟩
      · intro he
        have hmem := exitOf_clean hc
        rw [Except.ok.inj he] at hmem
        exact absurd hmem (by decide)
      · simp [exitOf_failed_load]
      · simp [exitOf_failed_parse]

theorem validateOnly_ending (d : Disk) (p : Path) (stated : Value) :
    (validateOnly d p stated).ending ≠ .ok .generationError := by
  unfold validateOnly
  dsimp only
  repeat' split
  all_goals simp

/-- What comes of the arguments: nothing but an error of the input where no file has the given name, and
for a file its validation or the generation. -/
theorem work_cases (d : Disk) (schema : String) (a : Arguments) :
    let p := d.resolve (Path.ofString schema)
    (∃ t, (Path.ofString schema).fault? = some t ∧
      work d schema a = ⟨d, "", [], .error (.text t)⟩) ∨
    ((Path.ofString schema).fault? = none ∧ d.file? p = none ∧
      ∃ log, work d schema a = ⟨d, "", log, .ok .inputError⟩) ∨
    ((Path.ofString schema).fault? = none ∧ (d.file? p).isSome = true ∧
      work d schema a =
        if a.validateOnly then validateOnly d p (settings a) else generate d a p (settings a)) := by
  intro p
  unfold Disk.file?
  cases hn : (Path.ofString schema).fault? with
  | some t => exact .inl ⟨t, rfl, by simp [work, hn]⟩
  | none =>
    cases he : d.entry? p with
    | none => exact .inr (.inl ⟨rfl, rfl, _, by simp [work, hn, p, he]; rfl⟩)
    | some entry =>
      cases entry with
      | dir es => exact .inr (.inl ⟨rfl, rfl, _, by simp [work, hn, p, he]; rfl⟩)
      | file content => exact .inr (.inr ⟨rfl, rfl, by simp [work, hn, p, he]⟩)

theorem work_ending (d : Disk) (schema : String) (a : Arguments) :
    (work d schema a).ending ≠ .ok .generationError := by
  rcases work_cases d schema a with ⟨t, -, hw⟩ | ⟨-, -, log, hw⟩ | ⟨-, -, hw⟩
  · simp [hw]
  · simp [hw]
  · rw [hw]
    split
    · exact validateOnly_ending d _ _
    · exact generate_ending d a _ _

theorem run_ending (d : Disk) (time : String) (arguments : List String) :
    (run d time arguments).ending ≠ .ok .generationError := by
  unfold run
  split
  · simp
  · simp
  · simp
  · next schema a _ => exact work_ending d schema a

end CommandLine

/-- Strict rendering fails just when validation finds a field without template, with the message of
the first such finding; lenient rendering never fails and warns of the fields of these findings in
their order. Therefore no run that validates strictly has an error of rendering once its document is
read, and no command ends with one. -/
theorem validation_predicts_rendering :
    (∀ (schema : Schema) (g : Session) (d : Disk), g.config.strict = true →
      ((g.deliver d schema false).fault.isSome = true ↔
        ∃ f ∈ Validation.findings schema g.config, f.code = "FIELD_UNSUPPORTED") ∧
      ∀ e, (g.deliver d schema false).fault = some e →
        ∃ u f, e = .code (.unsupported u) ∧ f.message = u.message ∧
          (Validation.findings schema g.config).find? (fun f => f.code == "FIELD_UNSUPPORTED") =
            some f) ∧
    (∀ (schema : Schema) (g : Session) (d : Disk), g.config.strict = false →
      (g.deliver d schema false).fault = none ∧
      ∃ us : List Code.Unsupported,
        Log.warnings (g.deliver d schema false).log = us.map Code.Unsupported.warning ∧
        (Validation.findings schema g.config).filter (fun f => f.code == "FIELD_UNSUPPORTED") =
          us.map fun u => (Validation.Issue.unsupported false u).finding) ∧
    (∀ (d : Disk) (o : Pipeline.Options) (schema : Schema) (c : Config) (output : Option Path)
      (r : Pipeline.Report), o.strict = true →
      (Pipeline.run d o schema c output).result = .ok r → r.generationErrors = []) ∧
    (∀ (d : Disk) (o : Pipeline.Options) (p : Path) (output : Option Path) (settings : Value)
      (r : Pipeline.Report), o.strict = true →
      (Pipeline.runFile d o p output settings).result = .ok r →
      (∃ step ∈ r.steps, step.name = Pipeline.Stage.parse.title ∧ step.success = true) →
      r.generationErrors = []) ∧
    ∀ (d : Disk) (time : String) (arguments : List String),
      (CommandLine.run d time arguments).ending ≠ .ok .generationError := by
  refine ⟨?_, ?_, ?_, ?_, CommandLine.run_ending⟩
  · intro schema g d hc
    rw [Session.deliver_fault, Validation.exists_unsupported_iff, Validation.find_unsupported]
    cases hu : Code.untemplatedIn schema g.config with
    | nil => simp
    | cons u us =>
      refine ⟨by simp [Code.stop, hc], fun e he => ?_⟩
      simp only [Code.stop, hc, if_true, List.head?_cons, Option.map_some, Option.some.injEq] at he
      exact ⟨u, _, he.symm, rfl, rfl⟩
  · intro schema g d hc
    have hw := Session.deliver_warnings g d schema
    have hf := Validation.findings_unsupported schema g.config
    simp only [Code.complaints, hc, Bool.false_eq_true, if_false] at hw
    rw [hc] at hf
    exact ⟨by simp [Session.deliver_fault, Code.stop, hc], _, hw, hf⟩
  · intro d o schema c output r ho hr
    exact (Pipeline.generateFrom_clean ho rfl hr).1
  · rintro d o p output settings r ho hr ⟨step, hs, hn, hok⟩
    rcases Pipeline.runFile_clean ho hr with hc | ⟨message, rfl⟩ | ⟨detail, message, rfl⟩
    · exact hc.1
    · simp [Pipeline.failed, Pipeline.Report.finished, Pipeline.Report.addStep,
        Pipeline.Report.blank] at hs
      simp [hs] at hok
    · simp only [Pipeline.failed, Pipeline.Report.finished, Pipeline.Report.addStep,
        Pipeline.Report.blank, List.nil_append, List.mem_append, List.mem_singleton] at hs
      rcases hs with rfl | rfl
      · simp [Pipeline.Stage.title] at hn
      · simp at hok

/-- A type with a list of plain texts, which no template is for. -/
def poll : Schema where
  types := ⟨[("Poll", ⟨⟨[("options", ⟨"String", true, false, false⟩)], by simp⟩⟩)], by simp⟩
  methods := .empty
  sourceFile := none

/-- A disk with the document `{"types":{}}`. -/
def documentDisk : Disk :=
  ⟨.dir [("s.json", .file [123, 34, 116, 121, 112, 101, 115, 34, 58, 123, 125, 125])], []⟩

theorem poll_predicted :
    let lenient : Config := { Config.usual with strict := false }
    let g (c : Config) : Session := Session.new ⟨false, ["out"]⟩ c
    ((g Config.usual).deliver documentDisk poll false).fault.isSome = true ∧
    ((g lenient).deliver documentDisk poll false).fault = none ∧
    (∃ r, (Pipeline.run documentDisk ⟨true, false, true⟩ poll lenient none).result = .ok r ∧
      r.generationErrors = []) ∧
    ∃ r, (Pipeline.runFile documentDisk ⟨true, false, true⟩ ⟨false, ["s.json"]⟩ none .null).result =
        .ok r ∧ r.generationErrors = [] := by
  obtain ⟨strict, lenient, run, runFile, -⟩ := validation_predicts_rendering
  refine ⟨(strict poll _ documentDisk rfl).1.mpr ?_, (lenient poll _ documentDisk rfl).1,
    ⟨_, rfl, run documentDisk ⟨true, false, true⟩ poll { Config.usual with strict := false } none
      _ rfl rfl⟩, ?_⟩
  · exact (Validation.exists_unsupported_iff poll Config.usual).mpr (by decide)
  · have h : ((Pipeline.runFile documentDisk ⟨true, false, true⟩ ⟨false, ["s.json"]⟩ none
        .null).result.toOption.any fun r => r.steps.any fun step =>
          step.name == Pipeline.Stage.parse.title && step.success) = true := by decide +kernel
    cases hr : (Pipeline.runFile documentDisk ⟨true, false, true⟩ ⟨false, ["s.json"]⟩ none
        .null).result with
    | error e => simp [hr, Except.toOption] at h
    | ok r =>
      have hs : ∃ step ∈ r.steps, step.name = Pipeline.Stage.parse.title ∧ step.success = true := by
        simpa [hr, Except.toOption] using h
      exact ⟨r, rfl, runFile documentDisk ⟨true, false, true⟩ _ none .null r rfl hr hs⟩

end ClientGen
