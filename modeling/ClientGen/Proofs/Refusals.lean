import ClientGen.Proofs.Reports

/-! Input from which nothing can be generated. A file that cannot be loaded, or that holds no schema with
settings, ends a run with a report that tells why, and a command with the number of an error of the
input. Two kinds of input leave no report: a YAML text with a value that its tag cannot have, and a
document whose settings are no mapping while others are to be put over them. -/

namespace ClientGen

open FileTree

namespace Pipeline

/-! ## Refusals -/

/-- Why a file gives no schema to generate from. -/
inductive Refusal
  | load (f : Source.LoadFault)
  /-- The settings are of this kind, and no others can be put over them. -/
  | merge (kind : String)
  | parse (f : Source.ParseFault)

namespace Refusal

/-- The step of a run that meets the refusal. -/
def stage : Refusal → Stage
  | .load _ => .load
  | .merge _ | .parse _ => .parse

/-- The end of a run that has no report of the refusal. -/
def escape : Refusal → Escape
  | .load f => .load f
  | .merge kind => .noMapping kind
  | .parse f => .parse f

def message (f : Refusal) : String :=
  f.escape.message

/-- Whether there is a report of the refusal. -/
def isReported : Refusal → Bool
  | .load f => f.isRecoverable
  | .merge _ => false
  | .parse _ => true

theorem isReported_eq_false_iff (f : Refusal) : f.isReported = false ↔
    (∃ kind, f = .merge kind) ∨ ∃ path g, f = .load (.yaml path g) ∧ g.isRecoverable = false := by
  cases f with
  | load f => cases f <;> simp [isReported, Source.LoadFault.isRecoverable]
  | merge kind => simp [isReported]
  | parse f => simp [isReported]

end Refusal

/-- The file is refused if the given settings are put over those in it. -/
inductive Refused (d : Disk) (p : Path) (stated : List (Value × Value)) : Refusal → Prop
  | load {f : Source.LoadFault} (h : Source.load d p = .error f) : Refused d p stated (.load f)
  | merge {doc : Source.Document} {v : Value} (h : Source.load d p = .ok doc) (hs : stated ≠ [])
      (hv : Value.find? (.text "config") doc = some v) (hg : v.isGiven = true)
      (hm : ∀ own, v ≠ .map own) : Refused d p stated (.merge v.typeName)
  | parse {own doc : Source.Document} {f : Source.ParseFault} (h : Source.load d p = .ok own)
      (ho : override own (.map stated) = .ok doc)
      (hp : Source.parse doc (.text p.text) = .error f) : Refused d p stated (.parse f)

/-- A report of a run that a refusal has ended: it is the only error, and that of the last step. -/
structure Reports (r : Report) (f : Refusal) : Prop where
  success : r.success = false
  generationErrors : r.generationErrors = [f.message]
  step : ∃ s, r.steps.getLast? = some s ∧ s.name = f.stage.title ∧ s.success = false ∧
    s.detail = f.message

variable {d : Disk} {p : Path} {stated : List (Value × Value)} {f : Refusal}

/-- Settings that are given and no mapping stand under their name as they are. -/
theorem sectionOf_eq_iff {doc : Source.Document} {name : String} {v : Value}
    (hm : ∀ own, v ≠ .map own) :
    Source.sectionOf doc name = v ↔ Value.find? (.text name) doc = some v ∧ v.isGiven = true := by
  unfold Source.sectionOf Source.section?
  cases hf : Value.find? (.text name) doc with
  | none => simp [(hm []).symm]
  | some w =>
    cases hg : w.isGiven with
    | true =>
      simp only [Option.filter_some, hg, if_true, Option.getD_some, Option.some.injEq]
      exact ⟨fun h => ⟨h, h ▸ hg⟩, fun h => h.1⟩
    | false =>
      simp only [Option.filter_some, hg, Bool.false_eq_true, if_false, Option.getD_none,
        (hm []).symm, Option.some.injEq, false_iff]
      rintro ⟨rfl, h⟩
      simp [hg] at h

theorem override_of_map {doc : Source.Document} {own : List (Value × Value)}
    (h : Source.sectionOf doc "config" = .map own) : ∃ merged, override doc (.map stated) = .ok merged := by
  unfold override
  split
  · exact ⟨_, rfl⟩
  · rw [h]
    exact ⟨_, rfl⟩

theorem override_of_no_map {doc : Source.Document} (hs : stated ≠ [])
    (h : ∀ own, Source.sectionOf doc "config" ≠ .map own) :
    override doc (.map stated) = .error (.noMapping (Source.sectionOf doc "config").typeName) := by
  have hgiven : (Value.map stated).isGiven = true := by simpa [Value.isGiven] using hs
  simp only [override, hgiven, Bool.not_true, Bool.false_eq_true, if_false]
  split
  · next own _ hown _ => exact absurd hown (h own)
  · next own hown _ => exact absurd hown (h own)
  · rfl

/-- Settings cannot be put over those of a document just if the latter are given and no mapping. -/
theorem override_error_iff {doc : Source.Document} {e : Escape} :
    override doc (.map stated) = .error e ↔ stated ≠ [] ∧ ∃ v,
      Value.find? (.text "config") doc = some v ∧ v.isGiven = true ∧ (∀ own, v ≠ .map own) ∧
        e = .noMapping v.typeName := by
  constructor
  · intro h
    have hs : stated ≠ [] := by
      rintro rfl
      cases h
    have hm : ∀ own, Source.sectionOf doc "config" ≠ .map own := by
      intro own hown
      obtain ⟨merged, hok⟩ : ∃ merged, override doc (.map stated) = .ok merged :=
        override_of_map hown
      rw [hok] at h
      cases h
    rw [override_of_no_map hs hm] at h
    obtain ⟨hv, hg⟩ := (sectionOf_eq_iff hm).mp rfl
    cases h
    exact ⟨hs, _, hv, hg, hm, rfl⟩
  · rintro ⟨hs, v, hv, hg, hm, rfl⟩
    obtain rfl := (sectionOf_eq_iff hm).mpr ⟨hv, hg⟩
    exact override_of_no_map hs hm

/-! ## Runs for refused files -/

/-- A file is refused, or a schema and settings are read from it. -/
theorem refused_or_source (d : Disk) (p : Path) (stated : List (Value × Value)) :
    (∃ f, Refused d p stated f) ∨ ∃ schema c, source? d p (.map stated) = some (schema, c) := by
  cases hl : Source.load d p with
  | error f => exact .inl ⟨_, .load hl⟩
  | ok own =>
    cases ho : override own (.map stated) with
    | error e =>
      obtain ⟨hs, v, hv, hg, hm, -⟩ := override_error_iff.mp ho
      exact .inl ⟨_, .merge hl hs hv hg hm⟩
    | ok doc =>
      cases hp : Source.parse doc (.text p.text) with
      | error f => exact .inl ⟨_, .parse hl ho hp⟩
      | ok read => exact .inr ⟨read.1, read.2, source?_eq_some_iff.mpr ⟨own, doc, hl, ho, hp⟩⟩

theorem Refused.source?_eq_none (h : Refused d p stated f) : source? d p (.map stated) = none := by
  cases h with
  | load hl => simp [source?, hl, Except.toOption]
  | @merge doc v hl hs hv hg hm =>
    have ho := override_error_iff.mpr ⟨hs, v, hv, hg, hm, rfl⟩
    simp [source?, hl, ho, Except.toOption]
  | parse hl ho hp => simp [source?, hl, ho, hp, Except.toOption]

/-- What a run tells of a file that is refused. -/
theorem runFile_refused (h : Refused d p stated f) (o : Options) (given : Option Path) :
    (runFile d o p given (.map stated)).disk = d ∧
      if f.isReported then ∃ r, (runFile d o p given (.map stated)).result = .ok r ∧ Reports r f
      else (runFile d o p given (.map stated)).result = .error f.escape := by
  cases h with
  | @load f hl =>
    simp only [runFile, hl, Refusal.isReported]
    cases hr : f.isRecoverable with
    | true => exact ⟨rfl, _, rfl, rfl, rfl, _, rfl, rfl, rfl, rfl⟩
    | false => exact ⟨rfl, rfl⟩
  | @merge doc v hl hs hv hg hm =>
    have ho : override doc (.map stated) = .error (.noMapping v.typeName) :=
      override_error_iff.mpr ⟨hs, v, hv, hg, hm, rfl⟩
    simp only [runFile, hl, runDocument, ho]
    exact ⟨rfl, rfl⟩
  | @parse own doc f hl ho hp =>
    simp only [runFile, hl, runDocument, ho, hp]
    exact ⟨rfl, _, rfl, rfl, rfl, _, rfl, rfl, rfl, rfl⟩

variable {o : Options} {schema : Schema} {c : Config} {output : Path} {r : Report} {e : Escape}

/-- The fault is that of the directory for the files, or it keeps a file from being written there. -/
def FaultIn (d : Disk) (schema : Schema) (c : Config) (output : Path) (t : TextFault) : Prop :=
  output.fault? = some t ∨ ∃ q ∈ filesFor d schema c output, t.Of (output.child q.1) q.2

theorem generate_escape (h : (generate d o schema c output r).result = .error e) :
    ∃ t, e = .text t ∧ FaultIn d schema c output t := by
  have hi := Session.deliver_idle (Session.new output c) d schema
  unfold generate at h
  dsimp only at h
  split at h
  · cases h
  · split at h
    · cases h
    · rw [after_result] at h
      obtain ⟨f, t, hf, ht, he⟩ := write_error_iff.mp h
      let out := (Session.new output c).deliver d schema false
      obtain ⟨done, hfirst⟩ := out.session.writeFiles_first out.disk out.session.rendered
      obtain ⟨q, hq, hof⟩ := hfirst.text f t hf ht
      rw [show out.session.directory = output from hi.directory] at hof
      exact ⟨t, he, .inr ⟨q, hq.subset (by simp), hof⟩⟩

/-- Once a schema is read, a run has a report unless a name or a text cannot be handed to the system. -/
theorem generateFrom_escape (h : (generateFrom d o schema c output r).result = .error e) :
    ∃ t, e = .text t ∧ FaultIn d schema c output t := by
  unfold generateFrom at h
  split at h
  · next t ht =>
    cases h
    exact ⟨t, rfl, .inl ht⟩
  · dsimp only at h
    split at h
    · rw [after_result] at h
      exact generate_escape h
    · cases h

/-- A run for a file from which a schema is read goes on with its validation. -/
theorem runFile_source {settings : Value} (h : source? d p settings = some (schema, c)) (o : Options)
    (given : Option Path) : ∃ steps, (runFile d o p given settings).result =
      (generateFrom d o schema c (outputPath given c)
        { Report.blank o.dryRun with steps := steps }).result := by
  obtain ⟨own, doc, hl, ho, hp⟩ := source?_eq_some_iff.mp h
  simp only [runFile, runDocument, hl, ho, hp]
  exact ⟨_, rfl⟩

end Pipeline

namespace CommandLine

open Pipeline (Refusal Refused)

/-! ## Commands for refused files -/

/-- How a command ends that a refusal has ended. -/
def endingOf (f : Refusal) : Except Pipeline.Escape Exit :=
  if f.isReported then .ok .inputError else .error f.escape

/-- The fault of an argument, among those that are looked at before the file is, by which it names no
place. -/
def argumentFault? (d : Disk) (schema : String) (a : Arguments) : Option TextFault :=
  (Path.ofString schema).fault?.or
    (if (d.file? (d.resolve (Path.ofString schema))).isSome && !a.validateOnly then
      (outputPath a).bind Path.fault?
    else none)

variable {d : Disk} {p : Path} {stated : List (Value × Value)} {f : Refusal}

theorem validateOnly_refused (h : Refused d p stated f) :
    (validateOnly d p (.map stated)).ending = endingOf f := by
  cases h with
  | @load f hl =>
    simp only [validateOnly, hl]
    split
    · next hr => exact (if_pos hr).symm
    · next hr => exact (if_neg hr).symm
  | @merge doc v hl hs hv hg hm =>
    have ho : Pipeline.override doc (.map stated) = .error (.noMapping v.typeName) :=
      Pipeline.override_error_iff.mpr ⟨hs, v, hv, hg, hm, rfl⟩
    simp only [validateOnly, hl, ho]
    rfl
  | @parse own doc f hl ho hp =>
    simp only [validateOnly, hl, ho, hp]
    rfl

theorem generate_refused (h : Refused d p stated f) (a : Arguments) :
    (generate d a p (.map stated)).ending =
      match (outputPath a).bind Path.fault? with
      | some t => .error (.text t)
      | none => endingOf f := by
  obtain ⟨-, hrun⟩ := Pipeline.runFile_refused h ⟨true, a.failOnWarnings, a.dryRun⟩
    ((outputPath a).map d.resolve)
  obtain ⟨-, hexit⟩ := Pipeline.runFile_of_none ⟨true, a.failOnWarnings, a.dryRun⟩
    ((outputPath a).map d.resolve) h.source?_eq_none
  rw [generate_ending_eq, endingOf]
  cases (outputPath a).bind Path.fault? with
  | some t => rfl
  | none =>
    dsimp only
    split at hrun
    · next hf =>
      obtain ⟨r, hr, -⟩ := hrun
      rw [hr, Except.map, (hexit r hr).2.2, if_pos hf]
    · next hf => rw [hrun, Except.map, if_neg hf]

/-- Where there is no file, none is loaded, and a run can report that. -/
theorem load_of_no_file (hf : d.file? p = none) :
    ∃ g, Source.load d p = .error g ∧ g.isRecoverable = true := by
  unfold Disk.file? at hf
  unfold Source.load
  cases he : d.entry? p with
  | none => exact ⟨_, rfl, rfl⟩
  | some entry =>
    cases entry with
    | dir es => exact ⟨_, rfl, rfl⟩
    | file content => simp [he] at hf

/-- Where there is no file, this is what is reported. -/
theorem isReported_of_no_file (h : Refused d p stated f) (hf : d.file? p = none) :
    f.isReported = true := by
  obtain ⟨g, hg, hr⟩ := load_of_no_file hf
  cases h with
  | load hl =>
    obtain rfl := Except.error.inj (hg.symm.trans hl)
    exact hr
  | merge hl => cases hg.symm.trans hl
  | parse hl => cases hg.symm.trans hl

/-- How a command ends that has its arguments: by an error of the input unless there is a file. -/
theorem work_ending_eq (d : Disk) (schema : String) (a : Arguments) :
    (work d schema a).ending =
      match (Path.ofString schema).fault? with
      | some t => .error (.text t)
      | none =>
        if (d.file? (d.resolve (Path.ofString schema))).isNone then .ok .inputError
        else if a.validateOnly then
          (validateOnly d (d.resolve (Path.ofString schema)) (settings a)).ending
        else (generate d a (d.resolve (Path.ofString schema)) (settings a)).ending := by
  rcases work_cases d schema a with ⟨t, hn, hw⟩ | ⟨hn, hf, log, hw⟩ | ⟨hn, hf, hw⟩
  · rw [hw, hn]
  · simp [hw, hn, hf]
  · have hsome : (d.file? (d.resolve (Path.ofString schema))).isNone = false := by
      simpa using hf
    rw [hw, hn, hsome]
    cases a.validateOnly <;> rfl

/-- How a command ends whose file is refused: a path without place comes first. -/
theorem work_refused {schema : String} {a : Arguments} (hs : settings a = .map stated)
    (h : Refused d (d.resolve (Path.ofString schema)) stated f) :
    (work d schema a).ending =
      match argumentFault? d schema a with
      | some t => .error (.text t)
      | none => endingOf f := by
  rw [work_ending_eq, argumentFault?, hs]
  cases hn : (Path.ofString schema).fault? with
  | some t => rfl
  | none =>
    cases hf : d.file? (d.resolve (Path.ofString schema)) with
    | none => simp [endingOf, isReported_of_no_file h hf]
    | some content =>
      rw [validateOnly_refused h, generate_refused h]
      cases a.validateOnly <;> simp

end CommandLine

open Pipeline (Refusal Refused)

/-- A run whose file is refused changes nothing and reports the refusal, and a command ends with an error
of the input. Just two kinds of refusals leave a run and a command without report: values of a YAML text
that do not fit their tags, and settings that are no mapping while others are to be put over them. A
command may also stumble over an argument that names no place at all. Where the file is not refused,
a schema is read from it, and no other end without report is left than by a name or a text of this schema
that cannot be handed to the system. -/
theorem refusals_reported (d : Disk) (stated : List (Value × Value)) :
    (∀ (o : Pipeline.Options) (p : Path) (given : Option Path) (f : Refusal), Refused d p stated f →
      let out := Pipeline.runFile d o p given (.map stated)
      out.disk = d ∧ if f.isReported then ∃ r, out.result = .ok r ∧ Pipeline.Reports r f
        else out.result = .error f.escape) ∧
    (∀ f : Refusal, f.isReported = false ↔
      (∃ kind, f = .merge kind) ∨ ∃ path g, f = .load (.yaml path g) ∧ g.isRecoverable = false) ∧
    (∀ (o : Pipeline.Options) (p : Path) (given : Option Path) (e : Pipeline.Escape),
      (∀ f, ¬ Refused d p stated f) →
      (Pipeline.runFile d o p given (.map stated)).result = .error e →
      ∃ t schema c, e = .text t ∧ Pipeline.source? d p (.map stated) = some (schema, c) ∧
        Pipeline.FaultIn d schema c (Pipeline.outputPath given c) t) ∧
    ∀ (time : String) (arguments : List String) (schema : String) (a : CommandLine.Arguments)
      (f : Refusal), CommandLine.request arguments = .ok (.work schema a) →
      CommandLine.settings a = .map stated →
      Refused d (d.resolve (Path.ofString schema)) stated f →
      (CommandLine.run d time arguments).ending.map CommandLine.Exit.code =
        match CommandLine.argumentFault? d schema a with
        | some t => .error (.text t)
        | none => if f.isReported then .ok 4 else .error f.escape := by
  refine ⟨?_, Refusal.isReported_eq_false_iff, ?_, ?_⟩
  · intro o p given f h
    exact Pipeline.runFile_refused h o given
  · intro o p given e hno he
    rcases Pipeline.refused_or_source d p stated with ⟨f, hf⟩ | ⟨schema, c, hs⟩
    · exact absurd hf (hno f)
    · obtain ⟨steps, hrun⟩ := Pipeline.runFile_source hs o given
      obtain ⟨t, ht, hfault⟩ := Pipeline.generateFrom_escape (hrun.symm.trans he)
      exact ⟨t, schema, c, ht, hs, hfault⟩
  · intro time arguments schema a f hr hs h
    simp only [CommandLine.run, hr]
    rw [CommandLine.work_refused hs h, CommandLine.endingOf]
    split
    · rfl
    · split
      · rfl
      · rfl

/-- A disk with the document `{"types":{},"config":[1]}`. -/
def listDisk : Disk :=
  ⟨.dir [("s.json", .file [123, 34, 116, 121, 112, 101, 115, 34, 58, 123, 125, 44, 34, 99, 111, 110,
    102, 105, 103, 34, 58, 91, 49, 93, 125])], []⟩

theorem listDisk_refused (entry : Value × Value) :
    Refused listDisk ⟨true, ["s.json"]⟩ [entry] (.merge "list") := by
  have hload : Source.load listDisk ⟨true, ["s.json"]⟩ =
      .ok [(.text "types", .map []), (.text "config", .list [.int 1])] := rfl
  exact .merge hload (by simp) rfl rfl (by simp)

theorem listDisk_reports :
    let entry : Value × Value := (.text "strict", .bool false)
    let missing : Refusal := .load (.missing "/t.json")
    let a : CommandLine.Arguments := { CommandLine.Arguments.none with schema := some "t.json" }
    let o : Pipeline.Options := ⟨true, false, true⟩
    let nowhere : Path := ⟨false, ["\x00"]⟩
    (Refused listDisk ⟨true, ["s.json"]⟩ [entry] (.merge "list") ∧
      (Pipeline.runFile listDisk o ⟨true, ["s.json"]⟩ none (.map [entry])).result =
        .error (.noMapping "list")) ∧
    ((∀ f, ¬ Refused documentDisk ⟨true, ["s.json"]⟩ [entry] f) ∧
      ∃ e, (Pipeline.runFile documentDisk o ⟨true, ["s.json"]⟩ (some nowhere)
        (.map [entry])).result = .error e ∧ ∃ t schema c, e = .text t ∧
          Pipeline.source? documentDisk ⟨true, ["s.json"]⟩ (.map [entry]) = some (schema, c) ∧
          Pipeline.FaultIn documentDisk schema c (Pipeline.outputPath (some nowhere) c) t) ∧
    CommandLine.request ["-s", "t.json"] = .ok (.work "t.json" a) ∧
      Refused listDisk (listDisk.resolve (Path.ofString "t.json")) [] missing ∧
      (CommandLine.run listDisk "00:00:00" ["-s", "t.json"]).ending.map CommandLine.Exit.code =
        .ok 4 := by
  intro entry missing a o nowhere
  obtain ⟨runList, -, -, -⟩ := refusals_reported listDisk [entry]
  obtain ⟨-, -, unrefused, -⟩ := refusals_reported documentDisk [entry]
  obtain ⟨-, -, -, command⟩ := refusals_reported listDisk []
  have hlist := listDisk_refused entry
  have hmissing : Refused listDisk (listDisk.resolve (Path.ofString "t.json")) [] missing :=
    .load rfl
  have hrequest : CommandLine.request ["-s", "t.json"] = .ok (.work "t.json"
      { CommandLine.Arguments.none with schema := some "t.json" }) := by decide +kernel
  have hno : ∀ f, ¬ Refused documentDisk ⟨true, ["s.json"]⟩ [entry] f := by
    intro f hf
    have hsource : (Pipeline.source? documentDisk ⟨true, ["s.json"]⟩ (.map [entry])).isSome =
      true := by decide +kernel
    simp [hf.source?_eq_none] at hsource
  have hend : (Pipeline.runFile documentDisk o ⟨true, ["s.json"]⟩ (some nowhere)
      (.map [entry])).result = .error (.text .nulByte) := rfl
  have hcode := command "00:00:00" _ "t.json" a missing hrequest rfl hmissing
  have hfault : CommandLine.argumentFault? listDisk "t.json" a = none := by decide +kernel
  rw [hfault] at hcode
  have hrun := (runList o ⟨true, ["s.json"]⟩ none (.merge "list") hlist).2
  have he := unrefused o _ _ _ hno hend
  exact ⟨⟨hlist, hrun⟩, ⟨hno, _, hend, he⟩, hrequest, hmissing, hcode⟩

/-- A run may end without a report of what is wrong with its document. -/
theorem refusals_not_all_reported :
    ¬ ∀ (d : Disk) (o : Pipeline.Options) (p : Path) (given : Option Path)
      (stated : List (Value × Value)) (f : Refusal), Refused d p stated f →
      (∀ g, f = .load g → g.isRecoverable = true) →
      ∃ r, (Pipeline.runFile d o p given (.map stated)).result = .ok r ∧
        f.message ∈ r.generationErrors := by
  intro h
  obtain ⟨r, hr, -⟩ := h listDisk ⟨true, false, true⟩ _ none _ _
    (listDisk_refused (.text "strict", .bool false)) (fun g hg => by cases hg)
  have hescape := (Pipeline.runFile_refused (listDisk_refused (.text "strict", .bool false))
    ⟨true, false, true⟩ none).2
  cases hr.symm.trans hescape

end ClientGen
