import ClientGen.Proofs.Refusals
import ClientGen.Proofs.Switches

/-! Validating only, and generating without writing. Both modes judge a file alike, except where
warnings count as errors, which only the second one looks at, and where the directory for the files is
none that can have a place. -/

namespace ClientGen

open FileTree

namespace CommandLine

open Pipeline (source? Refused)
open Validation (findings)

variable {d : Disk} {p : Path} {schema : Schema} {c : Config}

/-! ## How the modes end -/

/-- A report at its end tells of a success or of errors of the validation, if it holds no others. -/
theorem exitOf_finished {r : Pipeline.Report} (hg : r.generationErrors = [])
    (hx : r.exportErrors = []) :
    exitOf r.finished = if r.validationErrors.isEmpty then .success else .validationError := by
  unfold exitOf
  have hs : r.finished.success = r.validationErrors.isEmpty := by
    simp [Pipeline.Report.finished, hg, hx]
  rw [hs]
  show (if _ then _ else if !r.validationErrors.isEmpty then _ else _) = _
  cases r.validationErrors.isEmpty <;> rfl

/-- A dry run without errors so far ends in a report without any. -/
theorem generate_dry (d : Disk) (output : Path) {o : Pipeline.Options} (ho : o.dryRun = true)
    (h : Code.stop c (Code.untemplatedIn schema c) = none) (r : Pipeline.Report) :
    ∃ q : Pipeline.Report, (Pipeline.generate d o schema c output r).result = .ok q.finished ∧
      q.generationErrors = [] ∧ q.validationErrors = r.validationErrors ∧
      q.exportErrors = r.exportErrors := by
  have hf : ((Session.new output c).deliver d schema false).fault = none := by
    rw [Session.deliver_fault]
    simp [Session.new, h]
  simp only [Pipeline.generate, hf, ho, if_true]
  exact ⟨_, rfl, by simp [Pipeline.withCode], rfl, rfl⟩

/-- How a dry run that validates strictly ends once a schema is read. -/
theorem generateFrom_dry {o : Pipeline.Options} {output : Path} {r : Pipeline.Report}
    (hs : o.strict = true) (ho : o.dryRun = true) (hr : Pipeline.Unwritten r)
    (hg : r.generationErrors = []) :
    (Pipeline.generateFrom d o schema c output r).result.map exitOf =
      match output.fault? with
      | some t => .error (.text t)
      | none => .ok (if Pipeline.passes o (findings schema c) then .success else .validationError) := by
  let report := Pipeline.withFindings { r with outputDirectory := (d.resolve output).text } o
    (findings schema c)
  have hgen : report.generationErrors = [] := hg
  have hexp : report.exportErrors = [] := hr.exportErrors
  have hpass : Pipeline.passes o (findings schema c) = true ↔ report.validationErrors = [] := by
    rw [Pipeline.passes_iff]
    exact ⟨fun h => h hs, fun h _ => h⟩
  unfold Pipeline.generateFrom
  cases output.fault? with
  | some t => rfl
  | none =>
    dsimp only
    split
    · next hp =>
      have hv : (findings schema c).isValid = true := by
        simp only [Pipeline.passes, hs, Bool.not_true, Bool.false_or, Bool.and_eq_true] at hp
        exact hp.1
      obtain ⟨q, hq, hqgen, hqval, hqexp⟩ := generate_dry d output ho
        (Validation.stop_of_isValid hv) report
      rw [Pipeline.after_result, hq, Except.map, exitOf_finished hqgen (hqexp.trans hexp), hqval,
        hpass.mp hp]
      rfl
    · next hp =>
      rw [hpass] at hp
      rw [Except.map, exitOf_finished (r := report) hgen hexp, if_neg (by simpa using hp)]

/-- How validating ends once a schema is read. -/
theorem validateOnly_source {settings : Value} (h : source? d p settings = some (schema, c)) :
    (validateOnly d p settings).ending =
      .ok (if (findings schema c).isValid then .success else .validationError) := by
  obtain ⟨own, doc, hl, ho, hp⟩ := Pipeline.source?_eq_some_iff.mp h
  simp only [validateOnly, hl, ho, hp]

theorem generate_dry_source {a : Arguments} (ha : a.dryRun = true) {settings : Value}
    (h : source? d p settings = some (schema, c)) :
    (generate d a p settings).ending =
      match ((outputPath a).bind Path.fault?).or
        (Pipeline.outputPath ((outputPath a).map d.resolve) c).fault? with
      | some t => .error (.text t)
      | none => .ok (if Pipeline.passes ⟨true, a.failOnWarnings, true⟩ (findings schema c) then .success
        else .validationError) := by
  obtain ⟨steps, hrun⟩ := Pipeline.runFile_source h ⟨true, a.failOnWarnings, true⟩
    ((outputPath a).map d.resolve)
  rw [generate_ending_eq, ha, hrun, generateFrom_dry rfl rfl ⟨rfl, rfl, rfl⟩ rfl]
  cases (outputPath a).bind Path.fault? with
  | some t => rfl
  | none => rfl

/-! ## Where they differ -/

/-- The modes disagree on the file: the directory for the files is none that can have a place, or the
validation finds warnings only and these count as errors. -/
def Discord (d : Disk) (schema : String) (a : Arguments) : Prop :=
  (Path.ofString schema).fault? = none ∧
    (d.file? (d.resolve (Path.ofString schema))).isSome = true ∧
    (((outputPath a).bind Path.fault?).isSome = true ∨
      ∃ s c, source? d (d.resolve (Path.ofString schema)) (settings a) = some (s, c) ∧
        ((Pipeline.outputPath ((outputPath a).map d.resolve) c).fault?.isSome = true ∨
          a.failOnWarnings = true ∧ (findings s c).isValid = true ∧ (findings s c).warnings ≠ []))

/-- No refusal is the fault of a name. -/
theorem endingOf_ne_text (f : Pipeline.Refusal) (t : TextFault) :
    endingOf f ≠ .error (.text t) := by
  unfold endingOf
  split
  · simp
  · cases f <;> simp [Pipeline.Refusal.escape]

theorem code_eq_error_iff {e : Pipeline.Escape} (x : Except Pipeline.Escape Exit) :
    x.map Exit.code = .error e ↔ x = .error e := by
  cases x <;> simp [Except.map]

/-- On its findings a validation judges as a strict run does, unless warnings count as errors and there
are no errors but some warnings. -/
theorem judged_alike_iff (w : Bool) (fs : Validation.Findings) :
    Exit.code (if fs.isValid then .success else .validationError) =
        Exit.code (if Pipeline.passes ⟨true, w, true⟩ fs then .success else .validationError) ↔
      ¬ (w = true ∧ fs.isValid = true ∧ fs.warnings ≠ []) := by
  unfold Pipeline.passes Pipeline.warningsFail
  generalize fs.isValid = valid
  cases valid with
  | false => simp
  | true =>
    cases w with
    | false => simp
    | true => cases fs.warnings <;> simp [Exit.code]

/-- On a file the two modes end with the same number just if they do not disagree. -/
theorem file_modes_iff (d : Disk) (p : Path) (a : Arguments) :
    (validateOnly d p (settings a)).ending.map Exit.code =
        (generate d a.trying p (settings a)).ending.map Exit.code ↔
      ¬ (((outputPath a).bind Path.fault?).isSome = true ∨
        ∃ s c, source? d p (settings a) = some (s, c) ∧
          ((Pipeline.outputPath ((outputPath a).map d.resolve) c).fault?.isSome = true ∨
            a.failOnWarnings = true ∧ (findings s c).isValid = true ∧
              (findings s c).warnings ≠ [])) := by
  obtain ⟨stated, hs⟩ : ∃ stated, settings a = .map stated := ⟨_, rfl⟩
  have hout : outputPath a.trying = outputPath a := rfl
  have hwarn : a.trying.failOnWarnings = a.failOnWarnings := rfl
  rw [hs]
  rcases Pipeline.refused_or_source d p stated with ⟨f, hr⟩ | ⟨s, c, hsource⟩
  · rw [validateOnly_refused hr, generate_refused hr, hout, hr.source?_eq_none]
    cases (outputPath a).bind Path.fault? with
    | some t =>
      have hne : (endingOf f).map Exit.code ≠ .error (.text t) :=
        mt (code_eq_error_iff _).mp (endingOf_ne_text f t)
      exact iff_of_false hne (fun h => h (.inl rfl))
    | none => simp
  · rw [validateOnly_source hsource, generate_dry_source rfl hsource, hsource, hout, hwarn]
    cases (outputPath a).bind Path.fault? with
    | some t => simp [Except.map]
    | none =>
      cases hfault : (Pipeline.outputPath ((outputPath a).map d.resolve) c).fault? with
      | some t => simp [Except.map, hfault]
      | none =>
        have hjudged := judged_alike_iff a.failOnWarnings (findings s c)
        simpa [Except.map, hfault] using hjudged

/-- What is asked for in the two modes ends with the same number just if the modes do not disagree. -/
theorem work_modes_iff {schema : String} {a : Arguments} (hv : a.validateOnly = false) :
    (work d schema a.validating).ending.map Exit.code = (work d schema a.trying).ending.map Exit.code ↔
      ¬ Discord d schema a := by
  have hsv : settings a.validating = settings a := rfl
  have hst : settings a.trying = settings a := rfl
  rw [work_ending_eq, work_ending_eq, Discord, hsv, hst, show a.validating.validateOnly = true from rfl,
    show a.trying.validateOnly = false from hv]
  cases (Path.ofString schema).fault? with
  | some t => simp
  | none =>
    cases d.file? (d.resolve (Path.ofString schema)) with
    | none => simp
    | some content =>
      simpa using file_modes_iff d (d.resolve (Path.ofString schema)) a

/-- Where the arguments already ask for validating only, a further mode changes nothing. -/
theorem work_modes_of_validateOnly (d : Disk) (schema : String) {a : Arguments}
    (hv : a.validateOnly = true) :
    (work d schema a.validating).ending = (work d schema a.trying).ending := by
  have hs : settings a.validating = settings a.trying := rfl
  rw [work_ending_eq, work_ending_eq, show a.validating.validateOnly = true from rfl,
    show a.trying.validateOnly = true from hv, hs, if_pos rfl, if_pos rfl]

/-- How a command ends whose arguments ask for this. -/
def endingFor (d : Disk) : Except Fault Request → Except Pipeline.Escape Exit
  | .error _ => .ok .usageError
  | .ok .help | .ok .version => .ok .success
  | .ok (.work schema a) => (work d schema a).ending

theorem run_ending_eq (d : Disk) (time : String) (arguments : List String) :
    (run d time arguments).ending = endingFor d (request arguments) := by
  unfold run
  cases request arguments with
  | error f => rfl
  | ok r => cases r <;> rfl

/-- Answers that are alike lead to ends that are alike, unless they ask for work on which the modes
disagree. -/
theorem alike_modes_iff {q r : Except Fault Request} (h : Alike q r) :
    (endingFor d q).map Exit.code = (endingFor d r).map Exit.code ↔
      ¬ ∃ schema a, r = .ok (.work schema a) ∧ a.validateOnly = false ∧ Discord d schema a := by
  cases h with
  | refused f g => simp [endingFor]
  | asked r =>
    cases r with
    | help => simp [endingFor, Request.mark]
    | version => simp [endingFor, Request.mark]
    | work schema a =>
      show (work d schema a.validating).ending.map Exit.code =
        (work d schema a.trying).ending.map Exit.code ↔ _
      cases hv : a.validateOnly with
      | true =>
        rw [work_modes_of_validateOnly d schema hv]
        simp only [true_iff, not_exists, not_and]
        rintro s b hb hvb -
        obtain ⟨rfl, rfl⟩ : schema = s ∧ a.trying = b := by simpa [Request.mark] using hb
        exact Bool.false_ne_true (hvb.symm.trans hv)
      | false =>
        rw [work_modes_iff hv, not_iff_not]
        constructor
        · exact fun hd => ⟨schema, a.trying, rfl, hv, hd⟩
        · rintro ⟨s, b, hb, -, hd⟩
          obtain ⟨rfl, rfl⟩ : schema = s ∧ a.trying = b := by simpa [Request.mark] using hb
          exact hd

end CommandLine

open CommandLine (Discord Exit request run)

/-- Whatever the other arguments are, a command that only validates ends with the same number as one
that writes nothing, unless the modes disagree on an existing file: by warnings that count as errors, or
by a directory for the files that can have no place. -/
theorem modes_agree_iff (d : Disk) (time : String) (before after : List String) :
    (run d time (before ++ "--validate-only" :: after)).ending.map Exit.code =
        (run d time (before ++ "--dry-run" :: after)).ending.map Exit.code ↔
      ¬ ∃ schema a, request (before ++ "--dry-run" :: after) = .ok (.work schema a) ∧
        a.validateOnly = false ∧ Discord d schema a := by
  rw [CommandLine.run_ending_eq, CommandLine.run_ending_eq]
  exact CommandLine.alike_modes_iff (CommandLine.request_alike before after)

/-- A disk with the document `{"types":{},"methods":{"m":{"result":"T"}}}`, whose method has a result
of an unknown type. -/
def unknownDisk : Disk :=
  ⟨.dir [("s.json", .file [123, 34, 116, 121, 112, 101, 115, 34, 58, 123, 125, 44, 34, 109, 101,
    116, 104, 111, 100, 115, 34, 58, 123, 34, 109, 34, 58, 123, 34, 114, 101, 115, 117, 108, 116,
    34, 58, 34, 84, 34, 125, 125, 125])], []⟩

theorem modes_not_always_agree :
    ¬ ∀ (d : Disk) (time : String) (before after : List String) (schema : String)
      (a : CommandLine.Arguments), request (before ++ "--dry-run" :: after) = .ok (.work schema a) →
      (d.file? (d.resolve (Path.ofString schema))).isSome = true →
      (run d time (before ++ "--validate-only" :: after)).ending.map Exit.code =
        (run d time (before ++ "--dry-run" :: after)).ending.map Exit.code := by
  intro h
  have hends := h unknownDisk "00:00:00" ["-s", "s.json"] ["--fail-on-warnings"] "s.json"
    { CommandLine.Arguments.none with schema := some "s.json", dryRun := true, failOnWarnings := true }
    (by decide +kernel) (by decide +kernel)
  have hvalid : (run unknownDisk "00:00:00" (["-s", "s.json"] ++ "--validate-only" ::
      ["--fail-on-warnings"])).ending.map Exit.code = .ok 0 := by rfl
  have htried : (run unknownDisk "00:00:00" (["-s", "s.json"] ++ "--dry-run" ::
      ["--fail-on-warnings"])).ending.map Exit.code = .ok 1 := by rfl
  cases hvalid.symm.trans (hends.trans htried)

end ClientGen
