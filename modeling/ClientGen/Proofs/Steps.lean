import ClientGen.Proofs.Refusals

/-! The steps of a run and its status. A report holds its errors in three lists and marks each step as
done or failed on its own. The two agree, except where warnings count as errors: these are put among the
errors when the step of the validation is already marked. -/

namespace ClientGen

open FileTree

namespace Pipeline

namespace Report

/-- The report has no error in any of its lists. -/
def errorFree (r : Report) : Bool :=
  r.validationErrors.isEmpty && r.generationErrors.isEmpty && r.exportErrors.isEmpty

theorem errorFree_iff {r : Report} : r.errorFree = true ↔
    r.validationErrors = [] ∧ r.generationErrors = [] ∧ r.exportErrors = [] := by
  simp [errorFree, and_assoc]

end Report

/-- The report of a run on its way. Its steps are the given stages, and it has errors just if a step has
failed or the run is `strained`, that is, an error is held that belongs to no step. -/
structure Tallied (stages : List Stage) (strained : Bool) (r : Report) : Prop where
  titles : r.steps.map Step.name = stages.map Stage.title
  errorFree : r.errorFree = (r.steps.all Step.success && !strained)

/-- The report is one of a success just if its steps are, and else one of them has failed. -/
structure Agrees (r : Report) : Prop where
  success : r.success = true ↔ ∀ step ∈ r.steps, step.success = true
  failed : r.success = false → ∃ step ∈ r.steps, step.success = false

/-- The status of a finished report. The steps are the first of the stages, and the run is a success
just if all of them are and the run is not strained. So status and steps agree unless the run is
strained and no step has failed. -/
structure Status (stages : List Stage) (strained : Prop) (r : Report) : Prop where
  titles : r.steps.map Step.name <+: stages.map Stage.title
  success : r.success = true ↔ (∀ step ∈ r.steps, step.success = true) ∧ ¬ strained
  agrees : Agrees r ↔ ¬ (strained ∧ ∀ step ∈ r.steps, step.success = true)

variable {stages : List Stage} {strained : Bool} {r : Report}

theorem agrees_iff {cause : Prop}
    (h : r.success = true ↔ (∀ step ∈ r.steps, step.success = true) ∧ ¬ cause) :
    Agrees r ↔ ¬ (cause ∧ ∀ step ∈ r.steps, step.success = true) := by
  constructor
  · rintro ⟨hsuccess, -⟩ ⟨hcause, hall⟩
    exact (h.mp (hsuccess.mpr hall)).2 hcause
  · intro hn
    have hsuccess : r.success = true ↔ ∀ step ∈ r.steps, step.success = true :=
      ⟨fun hs => (h.mp hs).1, fun hall => h.mpr ⟨hall, fun hcause => hn ⟨hcause, hall⟩⟩⟩
    refine ⟨hsuccess, fun hf => ?_⟩
    rw [← Bool.not_eq_true, hsuccess] at hf
    simpa using hf

theorem tallied_blank (dry : Bool) : Tallied [] false (Report.blank dry) :=
  ⟨rfl, rfl⟩

namespace Tallied

/-- The step lemma of the tally. A further step, which fails just if it brings errors, keeps it; and so
does a further strain that brings errors. -/
theorem addStep {next : Report} {stage : Stage} {success more : Bool} (h : Tallied stages strained r)
    (hsteps : next.steps = r.steps) (hfree : next.errorFree = (r.errorFree && (success && !more)))
    (detail : String) :
    Tallied (stages ++ [stage]) (strained || more) (next.addStep stage.title success detail) where
  titles := by simp [Report.addStep, hsteps, h.titles]
  errorFree := by
    show next.errorFree = ((next.steps ++ [_]).all Step.success && _)
    rw [hfree, hsteps, h.errorFree, List.all_append]
    simp only [List.all_cons, List.all_nil, Bool.and_true, Bool.not_or]
    ac_rfl

theorem addDone (h : Tallied stages strained r) (stage : Stage) (detail : String) :
    Tallied (stages ++ [stage]) strained (r.addStep stage.title true detail) := by
  have hstep : Tallied (stages ++ [stage]) (strained || false) (r.addStep stage.title true detail) :=
    h.addStep rfl (by simp) detail
  simpa using hstep

/-- A report ends with the status that its tally tells. -/
theorem finished (h : Tallied stages strained r) {cause : Prop} (hcause : strained = true ↔ cause)
    (rest : List Stage) :
    Status (stages ++ rest) cause r.finished := by
  have hsteps : r.finished.steps = r.steps := rfl
  have hsuccess : r.finished.success = true ↔
      (∀ step ∈ r.finished.steps, step.success = true) ∧ ¬ cause := by
    rw [show r.finished.success = (r.steps.all Step.success && !strained) from h.errorFree, hsteps,
      ← hcause]
    simp
  refine ⟨?_, hsuccess, agrees_iff hsuccess⟩
  rw [hsteps, h.titles]
  exact (List.prefix_append stages rest).map _

end Tallied

/-! ## From the validation on -/

variable {d : Disk} {o : Options} {schema : Schema} {c : Config} {output : Path}

/-- The step of the validation is marked by the errors it has found, so warnings that count as errors
are a strain. -/
theorem tallied_withFindings (h : Tallied stages strained r) (hv : r.validationErrors = [])
    (fs : Validation.Findings) :
    Tallied (stages ++ [.validate]) (strained || warningsFail o fs) (withFindings r o fs) := by
  refine h.addStep ?_ ?_ _
  · rfl
  -- the mark looks at the errors found; the list also takes the message on the warnings
  · simp only [Report.errorFree, hv, Validation.Findings.isValid]
    cases fs.errors <;> cases warningsFail o fs <;> simp

theorem tallied_withCode (h : Tallied stages strained r) (hg : r.generationErrors = []) (s : Session)
    (fault : Option Session.Fault) :
    Tallied (stages ++ [.generate]) strained (withCode r s fault) := by
  rw [← Bool.or_false strained]
  refine h.addStep ?_ ?_ _
  · rfl
  · simp only [Report.errorFree, hg]
    cases fault <;> simp

theorem tallied_withFiles (h : Tallied stages strained r) (hx : r.exportErrors = []) (s : Session)
    (fault : Option FileTree.Fault) :
    Tallied (stages ++ [.write]) strained (withFiles r s fault) := by
  rw [← Bool.or_false strained]
  refine h.addStep ?_ ?_ _
  · rfl
  · simp only [Report.errorFree, hx]
    cases fault <;> simp

variable {cause : Prop} {done : Report}

theorem write_status {s : Session} (h : Tallied stages strained r) (hx : r.exportErrors = [])
    (hcause : strained = true ↔ cause) (hr : (write d s r).result = .ok done) :
    Status (stages ++ [.write]) cause done := by
  rw [write_result hr]
  simpa using (tallied_withFiles h hx (s.finish d).session (s.finish d).fault).finished hcause []

theorem generate_status (h : Tallied stages strained r) (hg : r.generationErrors = [])
    (hx : r.exportErrors = []) (hcause : strained = true ↔ cause)
    (hr : (generate d o schema c output r).result = .ok done) :
    Status (stages ++ [.generate, .write]) cause done := by
  have htally := tallied_withCode h hg ((Session.new output c).deliver d schema false).session
  rw [show stages ++ [.generate, .write] = stages ++ [.generate] ++ [.write] by simp]
  rcases generate_result hr with ⟨-, rfl⟩ | ⟨-, -, hwrite⟩
  · exact (htally _).finished hcause _
  · exact write_status (htally none) hx hcause hwrite

/-- The run lemma: from the validation on, a report without errors so far ends with the status that its
steps tell, strained just by warnings that count as errors. -/
theorem generateFrom_status (h : Tallied stages false r) (hc : r.errorFree = true)
    (hr : (generateFrom d o schema c output r).result = .ok done) :
    Status (stages ++ [.validate, .generate, .write])
      (warningsFail o (Validation.findings schema c) = true) done := by
  obtain ⟨hv, hg, hx⟩ := Report.errorFree_iff.mp hc
  have htally := tallied_withFindings (o := o)
    (r := { r with outputDirectory := (d.resolve output).text }) ⟨h.titles, h.errorFree⟩ hv
    (Validation.findings schema c)
  rw [Bool.false_or] at htally
  rw [show stages ++ [.validate, .generate, .write] =
    stages ++ [.validate] ++ [.generate, .write] by simp]
  rcases generateFrom_result hr with ⟨-, rfl⟩ | ⟨-, hgenerate⟩
  · exact htally.finished Iff.rfl _
  · exact generate_status htally hg hx Iff.rfl hgenerate

/-! ## Runs for files -/

/-- A report that ends with the failure of a step before the validation. -/
theorem failed_status (h : Tallied stages false r) (stage : Stage) (message : String)
    (rest : List Stage) (hn : ¬ cause) :
    Status (stages ++ [stage] ++ rest) cause (failed r stage message) := by
  have htally : Tallied (stages ++ [stage]) (false || false)
      ({ r with generationErrors := [message] }.addStep stage.title false message) := by
    refine h.addStep ?_ ?_ _
    · rfl
    · simp [Report.errorFree]
  exact htally.finished (iff_of_false Bool.false_ne_true hn) rest

variable {p : Path} {settings : Value}

/-- Warnings count as errors, and the file has a schema with some warnings, but no errors. -/
def Strained (d : Disk) (o : Options) (p : Path) (settings : Value) : Prop :=
  ∃ schema c, source? d p settings = some (schema, c) ∧
    warningsFail o (Validation.findings schema c) = true

theorem strained_iff (h : source? d p settings = some (schema, c)) (o : Options) :
    Strained d o p settings ↔ warningsFail o (Validation.findings schema c) = true := by
  simp [Strained, h]

theorem not_strained (h : source? d p settings = none) (o : Options) : ¬ Strained d o p settings := by
  simp [Strained, h]

theorem runDocument_status {own : Source.Document} (h : Tallied stages false r)
    (hc : r.errorFree = true) (hl : Source.load d p = .ok own) (given : Option Path)
    (hr : (runDocument d o own p.text given settings r).result = .ok done) :
    Status (stages ++ [.parse, .validate, .generate, .write]) (Strained d o p settings) done := by
  have hstages : stages ++ [.parse, .validate, .generate, .write] =
      stages ++ [.parse] ++ [.validate, .generate, .write] := by simp
  rw [hstages]
  unfold runDocument at hr
  cases ho : override own settings with
  | error e =>
    rw [ho] at hr
    cases hr
  | ok doc =>
    simp only [ho] at hr
    cases hp : Source.parse doc (.text p.text) with
    | error f =>
      have hsource : source? d p settings = none := by simp [source?, hl, ho, hp, Except.toOption]
      rw [hp] at hr
      cases hr
      exact failed_status h .parse _ _ (not_strained hsource o)
    | ok read =>
      obtain ⟨schema, c⟩ := read
      have hsource : source? d p settings = some (schema, c) :=
        source?_eq_some_iff.mpr ⟨own, doc, hl, ho, hp⟩
      simp only [hp, after_result] at hr
      rw [strained_iff hsource]
      exact generateFrom_status (h.addDone .parse _) hc hr

theorem runFile_status (o : Options) (given : Option Path)
    (hr : (runFile d o p given settings).result = .ok done) :
    Status [.load, .parse, .validate, .generate, .write] (Strained d o p settings) done := by
  have hblank := tallied_blank o.dryRun
  unfold runFile at hr
  cases hl : Source.load d p with
  | error f =>
    have hsource : source? d p settings = none := by simp [source?, hl, Except.toOption]
    simp only [hl] at hr
    split at hr
    · cases hr
      exact failed_status hblank .load _ _ (not_strained hsource o)
    · cases hr
  | ok own =>
    simp only [hl, after_result] at hr
    exact runDocument_status (hblank.addDone .load _) rfl hl given hr

/-- The status of a report is that of its steps, whatever the run is for: they are the first of the
stages, and if it is no success one of them has failed. Only a run for which warnings count as errors,
and that has found nothing else, is none although all of its steps are. -/
theorem status_of_steps (d : Disk) (o : Options) (given : Option Path) :
    (∀ (schema : Schema) (c : Config) (r : Report), (run d o schema c given).result = .ok r →
      Status [.validate, .generate, .write]
        (warningsFail o (Validation.findings schema c) = true) r) ∧
    ∀ (p : Path) (settings : Value) (r : Report), (runFile d o p given settings).result = .ok r →
      Status [.load, .parse, .validate, .generate, .write] (Strained d o p settings) r := by
  refine ⟨?_, ?_⟩
  · intro schema c r hr
    exact generateFrom_status (tallied_blank o.dryRun) rfl hr
  · intro p settings r hr
    exact runFile_status o given hr

/-- The poll is rendered with lenient settings, but with a warning. -/
theorem poll_status :
    let lenient : Config := { Config.usual with strict := false }
    (∃ r, (run documentDisk ⟨true, true, true⟩ poll lenient none).result = .ok r ∧
      Status [.validate, .generate, .write]
        (warningsFail ⟨true, true, true⟩ (Validation.findings poll lenient) = true) r) ∧
    ∃ r, (runFile documentDisk ⟨true, true, true⟩ ⟨true, ["s.json"]⟩ none .null).result = .ok r ∧
      Status [.load, .parse, .validate, .generate, .write]
        (Strained documentDisk ⟨true, true, true⟩ ⟨true, ["s.json"]⟩ .null) r := by
  obtain ⟨ofSchema, ofFile⟩ := status_of_steps documentDisk ⟨true, true, true⟩ none
  refine ⟨⟨_, rfl, ofSchema poll { Config.usual with strict := false } _ rfl⟩, ?_⟩
  have hreport : (runFile documentDisk ⟨true, true, true⟩ ⟨true, ["s.json"]⟩ none
      .null).result.toOption.isSome = true := by decide +kernel
  cases hr : (runFile documentDisk ⟨true, true, true⟩ ⟨true, ["s.json"]⟩ none .null).result with
  | error e => simp [hr, Except.toOption] at hreport
  | ok r => exact ⟨r, rfl, ofFile _ .null r hr⟩

/-- With warnings that count as errors a report may tell of no success, and of no step that failed. -/
theorem status_not_always_of_steps :
    ¬ ∀ (d : Disk) (o : Options) (schema : Schema) (c : Config) (given : Option Path) (r : Report),
      (run d o schema c given).result = .ok r → Agrees r := by
  intro h
  have hagrees := h documentDisk ⟨true, true, true⟩ poll { Config.usual with strict := false } none
    _ rfl
  have hsteps := hagrees.success
  revert hsteps
  decide +kernel

end Pipeline
end ClientGen
