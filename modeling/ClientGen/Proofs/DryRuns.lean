import ClientGen.Proofs.Reports
import Mathlib.Data.List.TakeWhile

/-! Dry runs and real ones. Up to the writing of the files both do the same, so the report of a dry
run tells what the real one comes to, unless the files cannot be written. It does not tell that a file
has no bytes, and with such a file the real run has no report. -/

namespace ClientGen

open FileTree
open Text.Utf8 (bytes)

namespace Pipeline

namespace Report

/-- The report of the same run in the other mode, as long as nothing is written. -/
def inMode (r : Report) (dry : Bool) : Report :=
  { r with dryRun := dry }

/-- A step of the run was to write the files. -/
def Wrote (r : Report) : Prop :=
  ∃ step ∈ r.steps, step.name = Stage.write.title

/-- A step of the run was to render the code, and it did. -/
def Generated (r : Report) : Prop :=
  ∃ step ∈ r.steps, step.name = Stage.generate.title ∧ step.success = true

/-- No step of the run was to render the code or to write the files. -/
def Early (r : Report) : Prop :=
  ∀ step ∈ r.steps, step.name ≠ Stage.generate.title ∧ step.name ≠ Stage.write.title

variable {r : Report}

theorem Early.not_generated (h : r.Early) : ¬ r.Generated := by
  rintro ⟨step, hs, hg, -⟩
  exact (h step hs).1 hg

theorem Early.not_wrote (h : r.Early) : ¬ r.Wrote := by
  rintro ⟨step, hs, hw⟩
  exact (h step hs).2 hw

theorem wrote_addStep {stage : Stage} (success : Bool) (detail : String) :
    (r.addStep stage.title success detail).Wrote ↔ r.Wrote ∨ stage = .write := by
  have htitle : stage.title = Stage.write.title ↔ stage = .write := by
    cases stage <;> decide
  simp [Wrote, addStep, or_and_right, exists_or, htitle]

theorem generated_addStep {stage : Stage} (success : Bool) (detail : String) :
    (r.addStep stage.title success detail).Generated ↔
      r.Generated ∨ (stage = .generate ∧ success = true) := by
  have htitle : stage.title = Stage.generate.title ↔ stage = .generate := by
    cases stage <;> decide
  simp [Generated, addStep, or_and_right, exists_or, htitle]

theorem takeWhile_steps (h : ¬ r.Wrote) :
    r.steps.takeWhile (fun step => step.name ≠ Stage.write.title) = r.steps :=
  List.takeWhile_eq_self_iff.mpr fun step hs => decide_eq_true fun he => h ⟨step, hs, he⟩

/-- Before the step of writing stand the steps that were before it. -/
theorem takeWhile_steps_write (h : ¬ r.Wrote) (success : Bool) (detail : String) :
    (r.addStep Stage.write.title success detail).steps.takeWhile
      (fun step => step.name ≠ Stage.write.title) = r.steps := by
  show (r.steps ++ [_]).takeWhile _ = r.steps
  have hbefore : ∀ step ∈ r.steps, decide (step.name ≠ Stage.write.title) = true :=
    fun step hs => decide_eq_true fun he => h ⟨step, hs, he⟩
  rw [List.takeWhile_append_of_pos hbefore, List.takeWhile_cons_of_neg (by simp), List.append_nil]

end Report

/-- What the report of a dry run tells of the real run and of the disk behind it. Both have the same
code, the same findings and the same steps up to the writing. The real run writes just if the dry
one has rendered the code. Then it is as good, if no error of writing comes up, and the files hold
the texts of the dry run; else it is as good in any case. -/
structure Predicted (c : Config) (output : Path) (dry real : Report) (after : Disk) : Prop where
  rendered : real.rendered = dry.rendered
  totalTypes : real.totalTypes = dry.totalTypes
  totalMethods : real.totalMethods = dry.totalMethods
  totalLines : real.totalLines = dry.totalLines
  validationErrors : real.validationErrors = dry.validationErrors
  validationWarnings : real.validationWarnings = dry.validationWarnings
  generationErrors : real.generationErrors = dry.generationErrors
  steps : real.steps.takeWhile (fun step => step.name ≠ Stage.write.title) = dry.steps
  writes : real.Wrote ↔ dry.Generated
  stopped : ¬ real.Wrote → real.success = dry.success
  written : real.Wrote → real.exportErrors = [] → real.success = dry.success ∧
    dry.rendered.map Prod.fst = [c.typesFile, c.methodsFile] ∧
    ∀ q ∈ dry.rendered, after.Holds (output.child q.1) q.2
  failed : real.exportErrors ≠ [] → real.success = false

/-- What the report of a dry run tells of a real run that has the given files to write, with a report or
without. Only a real run that has come to a file without bytes has none, and the dry run has rendered
that file. -/
structure Foretold (o : Options) (c : Config) (output : Path) (files : List (String × String)) (d : Disk)
    (dry : Report) (real : Outcome) : Prop where
  report : ∀ r, real.result = .ok r → Predicted c output dry r real.disk
  escape : ∀ e, real.result = .error e → dry.Generated ∧ dry.rendered = files ∧
    ∃ done, Interrupted o c output d real.disk e files done

variable {o : Options} {c : Config} {output : Path} {files : List (String × String)} {d : Disk}

theorem Foretold.after {dry : Report} {real : Outcome} (h : Foretold o c output files d dry real)
    (log : List Log.Record) : Foretold o c output files d dry (real.after log) :=
  ⟨h.report, h.escape⟩

/-- A run that ends before the code is rendered comes to the same in both modes. -/
theorem predicted_of_stopped {r : Report} (hg : ¬ r.Generated) (hw : ¬ r.Wrote)
    (hx : r.exportErrors = []) (after : Disk) :
    Predicted c output r.finished (r.inMode false).finished after where
  rendered := rfl
  totalTypes := rfl
  totalMethods := rfl
  totalLines := rfl
  validationErrors := rfl
  validationWarnings := rfl
  generationErrors := rfl
  steps := Report.takeWhile_steps hw
  writes := iff_of_false hw hg
  stopped := fun _ => rfl
  written := fun h => absurd h hw
  failed := fun h => absurd hx h

theorem foretold_of_stopped {r : Report} (hg : ¬ r.Generated) (hw : ¬ r.Wrote)
    (hx : r.exportErrors = []) (after : Disk) (log : List Log.Record) :
    Foretold o c output files d r.finished ⟨after, log, .ok (r.inMode false).finished⟩ where
  report q hq := by
    cases hq
    exact predicted_of_stopped hg hw hx after
  escape e he := by cases he

section Write

variable {s : Session} {r : Report}

/-- A run that has rendered the code writes what the dry run has rendered. -/
theorem predicted_of_written (hc : s.config.PlainExtension) (hr : r.rendered = s.rendered)
    (hg : r.Generated) (hw : ¬ r.Wrote) (hx : r.exportErrors = []) :
    Predicted s.config s.directory r.finished
      (withFiles (r.inMode false) (s.finish d).session (s.finish d).fault).finished
      (s.finish d).disk := by
  have hwrote : (withFiles (r.inMode false) (s.finish d).session (s.finish d).fault).Wrote :=
    (Report.wrote_addStep _ _).mpr (.inr rfl)
  have herrors : (withFiles (r.inMode false) (s.finish d).session
      (s.finish d).fault).finished.exportErrors = ((s.finish d).fault.map exportError).toList := rfl
  have hsuccess : (withFiles (r.inMode false) (s.finish d).session
      (s.finish d).fault).finished.success = (r.validationErrors.isEmpty &&
        r.generationErrors.isEmpty && ((s.finish d).fault.map exportError).toList.isEmpty) := rfl
  have hdry : r.finished.success = (r.validationErrors.isEmpty && r.generationErrors.isEmpty &&
      r.exportErrors.isEmpty) := rfl
  refine ⟨rfl, rfl, rfl, rfl, rfl, rfl, rfl,
    Report.takeWhile_steps_write (r := r.inMode false) hw _ _, iff_of_true hwrote hg,
    fun h => absurd hwrote h, fun _ he => ?_, fun he => ?_⟩
  · have hf : (s.finish d).fault = none := by
      rw [herrors] at he
      simpa using he
    obtain ⟨done, hfirst⟩ := s.writeFiles_first d s.rendered
    obtain rfl := hfirst.all.mp hf
    refine ⟨?_, ?_, fun q hq => hfirst.holds (Session.nodup_places hc d.cwd) (hr ▸ hq)⟩
    · rw [hsuccess, hdry, hf, hx]
      rfl
    · show r.rendered.map Prod.fst = _
      rw [hr]
      rfl
  · rw [herrors] at he
    rw [hsuccess, List.isEmpty_eq_false_iff.mpr he, Bool.and_false]

/-- What the dry run tells of the writing, if it has rendered the code. -/
theorem write_foretold (ho : o.dryRun = false) (hc : s.config.PlainExtension)
    (hd : s.directory.fault? = none) (hr : r.rendered = s.rendered) (hg : r.Generated) (hw : ¬ r.Wrote)
    (hx : r.exportErrors = []) :
    Foretold o s.config s.directory s.rendered d r.finished (write d s (r.inMode false)) := by
  refine ⟨fun q hq => ?_, fun e he => ⟨hg, hr, interrupted_of_write hc hd ho he⟩⟩
  rw [write_result hq, write_disk]
  exact predicted_of_written hc hr hg hw hx

end Write

variable {schema : Schema} {r : Report}

theorem wrote_withCode (s : Session) (fault : Option Session.Fault) :
    (withCode r s fault).Wrote ↔ r.Wrote := by
  unfold withCode
  rw [Report.wrote_addStep]
  simp [Report.Wrote]

theorem generated_withCode (h : ¬ r.Generated) (s : Session) (fault : Option Session.Fault) :
    (withCode r s fault).Generated ↔ fault = none := by
  unfold withCode
  rw [Report.generated_addStep]
  exact (or_iff_right h).trans (by simp)

/-- Rendering with a report that tells of no rendering yet. -/
theorem generate_foretold (hc : c.PlainExtension) (hout : output.fault? = none) (hr : r.Early)
    (hx : r.exportErrors = []) (d : Disk) (o : Options) (schema : Schema) :
    let dry := generate d { o with dryRun := true } schema c output r
    let real := generate d { o with dryRun := false } schema c output (r.inMode false)
    dry.disk = d ∧ ∃ q, dry.result = .ok q ∧
      Foretold { o with dryRun := false } c output (filesFor d schema c output) d q real := by
  have hi := Session.deliver_idle (Session.new output c) d schema
  unfold filesFor
  generalize hdelivered : (Session.new output c).deliver d schema false = out at hi
  have hwrote (fault : Option Session.Fault) : ¬ (withCode r out.session fault).Wrote :=
    (wrote_withCode _ _).not.mpr hr.not_wrote
  have hgenerated := generated_withCode hr.not_generated out.session
  simp only [generate, hdelivered]
  cases hf : out.fault with
  | some f =>
    have hstopped : ¬ (withCode r out.session (some f)).Generated := by simp [hgenerated]
    exact ⟨hi.disk, _, rfl, foretold_of_stopped hstopped (hwrote _) hx _ _⟩
  | none =>
    have hconfig : out.session.config = c := hi.config
    have hdirectory : out.session.directory = output := hi.directory
    have hwritten := write_foretold (o := { o with dryRun := false }) (s := out.session)
      (d := out.disk) (r := withCode r out.session none) rfl (by rwa [hconfig])
      (by rwa [hdirectory]) rfl ((hgenerated none).mpr rfl) (hwrote none) hx
    rw [hconfig, hdirectory] at hwritten
    rw [hi.disk] at hwritten ⊢
    exact ⟨rfl, _, rfl, hwritten.after _⟩

theorem early_withFindings (h : r.Early) (o : Options) (fs : Validation.Findings) :
    (withFindings r o fs).Early := by
  intro step hs
  rcases List.mem_append.mp hs with hs | hs
  · exact h step hs
  · rw [List.mem_singleton.mp hs]
    exact ⟨by simp [Stage.title], by simp [Stage.title]⟩

/-- The run from the validation on, in both modes. -/
theorem generateFrom_foretold (hc : c.PlainExtension) (hout : output.fault? = none)
    (hr : r.Early) (hx : r.exportErrors = []) (d : Disk) (o : Options) (schema : Schema) :
    let dry := generateFrom d { o with dryRun := true } schema c output r
    let real := generateFrom d { o with dryRun := false } schema c output (r.inMode false)
    dry.disk = d ∧ ∃ q, dry.result = .ok q ∧
      Foretold { o with dryRun := false } c output (filesFor d schema c output) d q real := by
  have hearly := early_withFindings (r := { r with outputDirectory := (d.resolve output).text })
    hr o (Validation.findings schema c)
  simp only [generateFrom, hout]
  cases hp : passes o (Validation.findings schema c) with
  | true =>
    have hmode (dry : Bool) :
        passes { o with dryRun := dry } (Validation.findings schema c) = true := hp
    obtain ⟨hdisk, q, hq, hreal⟩ := generate_foretold hc hout hearly hx d o schema
    simp only [hmode, if_true]
    exact ⟨hdisk, q, hq, hreal.after _⟩
  | false =>
    have hmode (dry : Bool) :
        passes { o with dryRun := dry } (Validation.findings schema c) = false := hp
    simp only [hmode, Bool.false_eq_true, if_false]
    exact ⟨trivial, _, rfl, foretold_of_stopped hearly.not_generated hearly.not_wrote hx _ _⟩

/-- A dry run leaves the disk as it is, and its report predicts that of the real run, whatever the
schema and the other options are. Where the directory has a name that none can have, there is no report
in either mode; else the dry run has one, and the real run has one unless it comes to a file without
bytes. There is no such file if the mark is in no name, no type and no setting. -/
theorem dry_run_predicts (hc : c.PlainExtension) (d : Disk) (o : Options) (schema : Schema)
    (given : Option Path) :
    let output := outputPath given c
    let dry := run d { o with dryRun := true } schema c given
    let real := run d { o with dryRun := false } schema c given
    dry.disk = d ∧
    (∀ t, output.fault? = some t → dry.result = .error (.text t) ∧ real.result = .error (.text t) ∧
      real.disk = d) ∧
    (output.fault? = none → ∃ r, dry.result = .ok r ∧
      Foretold { o with dryRun := false } c output (filesFor d schema c output) d r real ∧
      ((∀ q ∈ filesFor d schema c output, Writable q) → ∃ r', real.result = .ok r')) ∧
    (Code.UnmarkedSchema schema → Code.UnmarkedConfig c →
      ∀ q ∈ filesFor d schema c output, Writable q) := by
  intro output dry real
  have hwritable (hs : Code.UnmarkedSchema schema) (hu : Code.UnmarkedConfig c) :=
    writable_filesFor hs hu d output
  cases hout : output.fault? with
  | some t =>
    have hescape (o : Options) : run d o schema c given = ⟨d, [], .error (.text t)⟩ := by
      rw [run, generateFrom, hout]
    refine ⟨by simp only [dry, hescape], fun t' ht => ?_, fun hn => (by cases hn), hwritable⟩
    cases ht
    simp only [dry, real, hescape, and_self]
  | none =>
    have hblank : (Report.blank true).Early := fun step hs => by cases hs
    obtain ⟨hdisk, r, hr, h⟩ := generateFrom_foretold hc hout hblank rfl d o schema
    refine ⟨hdisk, fun t ht => (by cases ht), fun _ => ⟨r, hr, h, fun hw => ?_⟩, hwritable⟩
    cases hreal : real.result with
    | ok r' => exact ⟨r', rfl⟩
    | error e =>
      obtain ⟨-, -, done, hdone⟩ := h.escape e hreal
      exact absurd hw hdone.not_writable

/-- With lenient settings the poll is rendered, so the real run comes to writing. -/
theorem poll_dry_run :
    let c : Config := { Config.usual with strict := false }
    c.PlainExtension ∧ ∃ r r',
      (run documentDisk ⟨true, false, true⟩ poll c none).result = .ok r ∧
      (run documentDisk ⟨true, false, false⟩ poll c none).result = .ok r' ∧
      r.Generated ∧ r'.Wrote := by
  intro c
  have hc : c.PlainExtension := ⟨by decide, by decide⟩
  have hout : (outputPath none c).fault? = none := by decide +kernel
  obtain ⟨-, -, hreports, hwritable⟩ :=
    dry_run_predicts hc documentDisk ⟨true, false, false⟩ poll none
  obtain ⟨r, hr, h, hreal⟩ := hreports hout
  obtain ⟨r', hr'⟩ := hreal (hwritable (by decide +kernel) (by decide +kernel))
  have hsteps : ((run documentDisk ⟨true, false, true⟩ poll c none).result.toOption.any fun r =>
      r.steps.any fun step => step.name == Stage.generate.title && step.success) = true := by
    decide +kernel
  have hgenerated : r.Generated := by
    rw [show (run documentDisk ⟨true, false, true⟩ poll c none).result = .ok r from hr] at hsteps
    simpa [Except.toOption, Report.Generated] using hsteps
  exact ⟨hc, r, r', hr, hr', hgenerated, (h.report r' hr').writes.mpr hgenerated⟩

/-- A real run may have no report where the dry run has one. -/
theorem dry_run_not_always_predicts :
    ¬ ∀ (d : Disk) (o : Options) (schema : Schema) (c : Config) (given : Option Path),
      c.PlainExtension → (outputPath given c).fault? = none →
      ∀ r, (run d { o with dryRun := true } schema c given).result = .ok r →
        let real := run d { o with dryRun := false } schema c given
        ∃ r', real.result = .ok r' ∧ Predicted c (outputPath given c) r r' real.disk := by
  intro h
  let o : Options := ⟨true, false, false⟩
  have hc : Config.usual.PlainExtension := ⟨by decide, by decide⟩
  have houtput : outputPath none Config.usual = ⟨false, ["generated"]⟩ := by decide +kernel
  have hfault : (⟨false, ["generated"]⟩ : Path).fault? = none := by decide
  have hrun (o : Options) : run strayDisk o stray Config.usual none =
      generateFrom strayDisk o stray Config.usual ⟨false, ["generated"]⟩ (Report.blank o.dryRun) := by
    rw [run, houtput]
  obtain ⟨-, r, hr, -⟩ := generateFrom_foretold (r := Report.blank true) hc hfault
    (fun step hs => by cases hs) rfl strayDisk o stray
  obtain ⟨⟨g, hreal⟩, -⟩ := stray_run (o := o) (by decide +kernel) rfl (Report.blank false)
  obtain ⟨r', hr', -⟩ := h strayDisk o stray Config.usual none hc (houtput ▸ hfault) r
    ((congrArg Outcome.result (hrun _)).trans hr)
  cases ((congrArg Outcome.result (hrun _)).trans hreal).symm.trans hr'

end Pipeline
end ClientGen
