import ClientGen.Proofs.Modes

/-! The numbers that commands end with. An input from which nothing can be generated has a number of its
own. Arguments that are not understood do not have it: they end with that of an error of rendering,
which in turn no generation ends with. -/

namespace ClientGen

open FileTree

namespace CommandLine

open Pipeline (Refused source?)

variable {d : Disk} {p : Path} {schema : Schema} {c : Config} {a : Arguments}

/-! ## How a read file ends -/

theorem generate_mem {stated : Value} (h : source? d p stated = some (schema, c)) {e : Exit}
    (he : (generate d a p stated).ending = .ok e) : e ∈ afterReading := by
  obtain ⟨steps, hrun⟩ := Pipeline.runFile_source h ⟨true, a.failOnWarnings, a.dryRun⟩
    ((outputPath a).map d.resolve)
  rw [generate_ending_eq] at he
  split at he
  · cases he
  · rw [hrun] at he
    cases hr : (Pipeline.generateFrom d ⟨true, a.failOnWarnings, a.dryRun⟩ schema c
      (Pipeline.outputPath ((outputPath a).map d.resolve) c)
      { Pipeline.Report.blank a.dryRun with steps := steps }).result with
    | error f =>
      rw [hr] at he
      cases he
    | ok done =>
      rw [hr] at he
      cases he
      exact exitOf_clean (Pipeline.generateFrom_clean rfl rfl hr)

theorem validateOnly_mem {stated : Value} (h : source? d p stated = some (schema, c)) {e : Exit}
    (he : (validateOnly d p stated).ending = .ok e) : e ∈ afterReading := by
  rw [validateOnly_source h] at he
  cases he
  split <;> simp [afterReading]

/-! ## Commands -/

/-- How a command ends that works: by what is the matter with its file, or, if a schema is read from it,
by what comes of this. -/
theorem work_ends (d : Disk) (path : String) {stated : List (Value × Value)}
    (hs : settings a = .map stated) :
    (∃ f, Refused d (d.resolve (Path.ofString path)) stated f ∧
      (work d path a).ending = match argumentFault? d path a with
        | some t => .error (.text t)
        | none => endingOf f) ∨
    ((∀ f, ¬ Refused d (d.resolve (Path.ofString path)) stated f) ∧
      ∀ e, (work d path a).ending = .ok e → e ∈ afterReading) := by
  rcases Pipeline.refused_or_source d (d.resolve (Path.ofString path)) stated with
    ⟨f, hf⟩ | ⟨schema, c, hsource⟩
  · exact .inl ⟨f, hf, work_refused hs hf⟩
  · have hno (f : Pipeline.Refusal) : ¬ Refused d (d.resolve (Path.ofString path)) stated f := by
      intro hf
      cases hf.source?_eq_none.symm.trans hsource
    refine .inr ⟨hno, fun e he => ?_⟩
    rw [work_ending_eq, hs] at he
    split at he
    · cases he
    · split at he
      · next hfile =>
        -- without a file none is loaded, so no schema has been read
        obtain ⟨g, hg, -⟩ := load_of_no_file (Option.isNone_iff_eq_none.mp hfile)
        exact absurd (.load hg) (hno (.load g))
      · split at he
        · exact validateOnly_mem hsource he
        · exact generate_mem hsource he

theorem endingOf_code {f : Pipeline.Refusal} {n : Nat} (h : (endingOf f).map Exit.code = .ok n) :
    f.isReported = true ∧ n = 4 := by
  unfold endingOf at h
  split at h
  · next hr =>
    cases h
    exact ⟨hr, rfl⟩
  · cases h

theorem afterReading_code {e : Exit} (h : e ∈ afterReading) : e.code ∈ [0, 1, 3] := by
  cases e <;> revert h <;> decide

/-- A command that works ends with the number of an error of the input just if its file is refused and
this is reported, and never with that of an error of rendering. -/
theorem work_code {path : String} {stated : List (Value × Value)} (hs : settings a = .map stated)
    {n : Nat} (h : (work d path a).ending.map Exit.code = .ok n) :
    (n = 4 ∧ argumentFault? d path a = none ∧
      ∃ f, Refused d (d.resolve (Path.ofString path)) stated f ∧ f.isReported = true) ∨
    n ∈ [0, 1, 3] := by
  rcases work_ends d path hs with ⟨f, hf, hend⟩ | ⟨-, hend⟩
  · rw [hend] at h
    split at h
    · cases h
    · next hplace =>
      obtain ⟨hr, rfl⟩ := endingOf_code h
      exact .inl ⟨rfl, hplace, f, hf, hr⟩
  · cases he : (work d path a).ending with
    | error g =>
      rw [he] at h
      cases h
    | ok e =>
      rw [he] at h
      cases h
      exact .inr (afterReading_code (hend e he))

/-- Just the arguments that are not understood end with the number of an error of rendering. -/
theorem endingFor_two_iff (q : Except Fault Request) :
    (endingFor d q).map Exit.code = .ok 2 ↔ ∃ f, q = .error f := by
  cases q with
  | error f => simp [endingFor, Except.map, Exit.code]
  | ok r =>
    simp only [reduceCtorEq, exists_false, iff_false]
    cases r with
    | help => simp [endingFor, Except.map, Exit.code]
    | version => simp [endingFor, Except.map, Exit.code]
    | work path a =>
      intro h
      obtain ⟨stated, hs⟩ : ∃ stated, settings a = .map stated := ⟨_, rfl⟩
      rcases work_code hs h with ⟨hn, -⟩ | hn
      · cases hn
      · simp at hn

theorem endingFor_four_iff (q : Except Fault Request) :
    (endingFor d q).map Exit.code = .ok 4 ↔ ∃ path a stated f, q = .ok (.work path a) ∧
      settings a = .map stated ∧ argumentFault? d path a = none ∧
        Refused d (d.resolve (Path.ofString path)) stated f ∧ f.isReported = true := by
  constructor
  · intro h
    cases q with
    | error f => cases h
    | ok r =>
      cases r with
      | help => cases h
      | version => cases h
      | work path a =>
        obtain ⟨stated, hs⟩ : ∃ stated, settings a = .map stated := ⟨_, rfl⟩
        rcases work_code hs h with ⟨-, hplace, f, hf, hr⟩ | hn
        · exact ⟨path, a, stated, f, rfl, hs, hplace, hf, hr⟩
        · simp at hn
  · rintro ⟨path, a, stated, f, rfl, hs, hplace, hf, hr⟩
    simp only [endingFor]
    rw [work_refused hs hf, hplace, endingOf, if_pos hr]
    rfl

/-- A command without file does nothing. -/
theorem work_of_no_file {path : String}
    (h : (Path.ofString path).fault? ≠ none ∨ d.file? (d.resolve (Path.ofString path)) = none) :
    (work d path a).disk = d ∧ (work d path a).output = "" ∧
      (work d path a).ending.map Exit.code = match (Path.ofString path).fault? with
        | some t => .error (.text t)
        | none => .ok 4 := by
  rcases work_cases d path a with ⟨t, hn, hw⟩ | ⟨hn, -, log, hw⟩ | ⟨hn, hf, -⟩
  · rw [hw, hn]
    exact ⟨rfl, rfl, rfl⟩
  · rw [hw, hn]
    exact ⟨rfl, rfl, rfl⟩
  · rcases h with h | h
    · exact absurd hn h
    · simp [h] at hf

end CommandLine

open CommandLine (Exit argumentFault? faultText request run settings)
open Pipeline (Refused)

/-- How a command ends by its arguments and its file. Arguments that are not understood, and those for
which there is no file, leave everything as it is. The latter end with the number of an error of the
input, as all input does from which nothing can be generated and that is reported. The former end with
that of an error of rendering, and no other command does. -/
theorem exit_codes_tell (d : Disk) (time : String) (arguments : List String) :
    let out := run d time arguments
    (∀ f, request arguments = .error f →
      out.disk = d ∧ out.output = "" ∧ out.errors = faultText f) ∧
    (∀ path a, request arguments = .ok (.work path a) →
      ((Path.ofString path).fault? ≠ none ∨ d.file? (d.resolve (Path.ofString path)) = none) →
      out.disk = d ∧ out.output = "" ∧ out.ending.map Exit.code =
        match (Path.ofString path).fault? with
        | some t => .error (.text t)
        | none => .ok 4) ∧
    (out.ending.map Exit.code = .ok 2 ↔ ∃ f, request arguments = .error f) ∧
    (out.ending.map Exit.code = .ok 4 ↔ ∃ path a stated f,
      request arguments = .ok (.work path a) ∧ settings a = .map stated ∧
        argumentFault? d path a = none ∧ Refused d (d.resolve (Path.ofString path)) stated f ∧
        f.isReported = true) := by
  intro out
  refine ⟨?_, ?_, ?_, ?_⟩
  · intro f hf
    simp [out, run, hf]
  · intro path a hr hfile
    simp only [out, run, hr]
    exact CommandLine.work_of_no_file hfile
  · rw [CommandLine.run_ending_eq]
    exact CommandLine.endingFor_two_iff _
  · rw [CommandLine.run_ending_eq]
    exact CommandLine.endingFor_four_iff _

/-- A command without a schema is not understood, one for a missing file has an error of the input. -/
theorem missing_exits :
    let a : CommandLine.Arguments := { CommandLine.Arguments.none with schema := some "t.json" }
    (request [] = .error (.missing .schema) ∧
      (run documentDisk "00:00:00" []).errors = faultText (.missing .schema) ∧
      (run documentDisk "00:00:00" []).ending.map Exit.code = .ok 2) ∧
    request ["-s", "t.json"] = .ok (.work "t.json" a) ∧
      documentDisk.file? (documentDisk.resolve (Path.ofString "t.json")) = none ∧
      (run documentDisk "00:00:00" ["-s", "t.json"]).ending.map Exit.code = .ok 4 := by
  intro a
  have hrejected : request [] = .error (.missing .schema) := by decide +kernel
  have hrequest : request ["-s", "t.json"] = .ok (.work "t.json" a) := by decide +kernel
  have hfile : documentDisk.file? (documentDisk.resolve (Path.ofString "t.json")) = none := by
    decide +kernel
  have hplace : (Path.ofString "t.json").fault? = none := by decide +kernel
  obtain ⟨rejected, -, two, -⟩ := exit_codes_tell documentDisk "00:00:00" []
  obtain ⟨-, missing, -, -⟩ := exit_codes_tell documentDisk "00:00:00" ["-s", "t.json"]
  have hcode := (missing "t.json" a hrequest (.inr hfile)).2.2
  rw [hplace] at hcode
  exact ⟨⟨hrejected, (rejected _ hrejected).2.2, two.mpr ⟨_, hrejected⟩⟩, hrequest, hfile, hcode⟩

/-- Arguments that are not understood do not end a command with the number of an error of the input. -/
theorem exit_codes_not_always_tell :
    ¬ ∀ (d : Disk) (time : String) (arguments : List String) (f : CommandLine.Fault),
      request arguments = .error f → (run d time arguments).ending.map Exit.code = .ok 4 := by
  intro h
  have hrejected : request [] = .error (.missing .schema) := by decide +kernel
  have hfour := h documentDisk "00:00:00" [] _ hrejected
  have htwo : (run documentDisk "00:00:00" []).ending.map Exit.code = .ok 2 := by rfl
  cases htwo.symm.trans hfour

end ClientGen
