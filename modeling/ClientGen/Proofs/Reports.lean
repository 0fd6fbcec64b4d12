import ClientGen.Proofs.Encodable
import ClientGen.Proofs.Output

/-! Reports and the disk. What a report tells of the files is so: it lists those that were written,
and the run has changed no other file. From this follows what the number a command ends with tells. -/

namespace ClientGen

open FileTree
open Text.Utf8 (Encodable bytes)

/-! ## Plain extensions -/

/-- A file extension with which each file is named by a single part of a path. -/
def Config.PlainExtension (c : Config) : Prop :=
  '/' ∉ c.fileExtension.toList ∧ '\x00' ∉ c.fileExtension.toList

namespace Config.PlainExtension

variable {c : Config}

theorem extensionParts_eq (h : c.PlainExtension) :
    Path.extensionParts c.fileExtension = (c.fileExtension, []) := by
  simp [Path.extensionParts, Text.split_of_not_mem h.1]

/-- Both files are named by single parts. -/
theorem ofString_files (h : c.PlainExtension) :
    Path.ofString c.typesFile = ⟨false, [c.typesFile]⟩ ∧
      Path.ofString c.methodsFile = ⟨false, [c.methodsFile]⟩ := by
  rw [typesFile_path, methodsFile_path, h.extensionParts_eq]
  exact ⟨rfl, rfl⟩

end Config.PlainExtension

namespace FileTree.Path

/-- Without the character that ends a name, only a name without bytes is none. -/
theorem nameFault?_eq_some {before : Nat} {s : String} {t : TextFault} (hn : '\x00' ∉ s.toList)
    (h : nameFault? before s = some t) : (∃ f, t = .encoding f) ∧ ¬ Encodable s := by
  have hcontains : s.toList.contains '\x00' = false := by simpa using hn
  unfold nameFault? at h
  rw [hcontains] at h
  cases hf : Text.Utf8.strayFrom isByte before (Text.codePoints s.toList) with
  | none => simp [hf] at h
  | some f =>
    simp only [hf, Option.some.injEq] at h
    refine ⟨⟨f, h.symm⟩, fun he => ?_⟩
    have hnone : Text.Utf8.strayFrom isByte before (Text.codePoints s.toList) = none :=
      Text.Utf8.strayFrom_eq_none_iff.mpr fun n hm hs => by rw [he n hm] at hs; cases hs
    cases hf.symm.trans hnone

/-- What keeps a file in a directory from having a place is its name, if it is not the directory. -/
theorem child_fault? {directory : Path} {name : String} {t : TextFault}
    (hp : ofString name = ⟨false, [name]⟩) (hn : '\x00' ∉ name.toList)
    (hd : directory.fault? = none) (h : (directory.child name).fault? = some t) :
    (∃ f, t = .encoding f) ∧ ¬ Encodable name := by
  obtain ⟨around, hq⟩ := exists_faultFrom_append ⟨directory.absolute, []⟩ directory.parts
  rw [child_eq hp, fault?, hq, show faultFrom _ directory.parts = none from hd, Option.none_or,
    faultFrom] at h
  split at h
  · cases h
  · split at h
    · next f hf => exact nameFault?_eq_some hn (h ▸ hf)
    · cases h

end FileTree.Path

namespace Session

variable {s : Session} {d : Disk}

/-- With a plain extension both files have places of their own. -/
theorem nodup_places (h : s.config.PlainExtension) (cwd : List String) :
    (s.rendered.map fun q => (s.directory.child q.1).resolve cwd).Nodup := by
  obtain ⟨ht, hm⟩ := resolve_files s cwd
  rw [h.extensionParts_eq, Path.climb] at ht hm
  simp [rendered, ht, hm]

/-- With a plain extension the fault of a text is that of a file that has no bytes. -/
theorem stray_of_text {done : List (String × String)} {out : Outcome FileTree.Fault}
    (hc : s.config.PlainExtension) (hd : s.directory.fault? = none)
    (h : WroteFirst s d s.rendered done out) {f : FileTree.Fault} {t : TextFault}
    (hf : out.fault = some f) (ht : f.problem = .text t) :
    (∃ g, t = .encoding g) ∧ ∃ q, done ++ [q] <+: s.rendered ∧ ¬ Writable q := by
  obtain ⟨q, hq, hof⟩ := h.text f t hf ht
  rcases hof with hpath | ⟨g, hg, hencode⟩
  · have hm : q ∈ s.rendered := hq.subset (by simp)
    simp only [rendered, List.mem_cons, List.not_mem_nil, or_false] at hm
    obtain ⟨htypes, hmethods⟩ := hc.ofString_files
    have hname : (∃ g, t = .encoding g) ∧ ¬ Encodable q.1 := by
      rcases hm with rfl | rfl
      · exact Path.child_fault? htypes (by simp [Config.typesFile, hc.2]) hd hpath
      · exact Path.child_fault? hmethods (by simp [Config.methodsFile, hc.2]) hd hpath
    exact ⟨hname.1, q, hq, fun hw => hname.2 hw.1⟩
  · exact ⟨⟨g, hg⟩, q, hq, fun hw => Text.Utf8.encode_error hencode hw.2⟩

/-- Where the first file can be written and the text of the second has no bytes, the writing ends with
the first file in its place. -/
theorem finish_of_unencodable (hc : s.config.PlainExtension) {mid : Disk}
    (htypes : Encodable s.typesText) (hmethods : ¬ Encodable s.methodsText)
    (hmid : d.ensureDirectory s.directory = (mid, .ok ()))
    (hp : Disk.Placed mid (s.directory.child s.config.typesFile))
    (hl : mid.root.look ((s.directory.child s.config.typesFile).resolve d.cwd) ≠ some none) :
    (∃ f g, (s.finish d).fault = some f ∧ f.problem = .text (.encoding g)) ∧
      (s.finish d).disk.file? (s.directory.child s.config.typesFile) = some (bytes s.typesText) := by
  obtain ⟨ht, hm⟩ := hc.ofString_files
  have hparent {name : String} (hn : Path.ofString name = ⟨false, [name]⟩) :
      (s.directory.child name).parent = s.directory := by
    simp [Path.child_eq hn, Path.parent]
  have hens := Disk.ensureDirectory_ensured d s.directory
  rw [hmid] at hens
  have hcwd : mid.cwd = d.cwd := hens.wrote.cwd
  have hwrote := hp.wrote_put (hcwd.symm ▸ hl) (bytes s.typesText)
  rw [hcwd] at hwrote
  obtain ⟨g, hg⟩ : ∃ g, Text.Utf8.encode s.methodsText = .error g := by
    cases he : Text.Utf8.encode s.methodsText with
    | error g => exact ⟨g, rfl⟩
    | ok content => exact absurd (Text.Utf8.encode_ok_iff.mp he).1 hmethods
  have hfirst : writeFile d _ s.typesText true = _ :=
    Disk.writeFile_of_placed htypes (by rwa [hparent ht]) hp hl
  have hsecond : writeFile _ (s.directory.child s.config.methodsFile) s.methodsText true = _ :=
    Disk.writeFile_of_unencodable hg (by
      rw [hparent hm]
      exact Disk.ensureDirectory_of_isDir (hwrote.isDir (hens.isDir rfl)))
  simp only [finish, rendered, writeFiles, Path.append_ofString, hfirst, hsecond]
  refine ⟨⟨_, g, rfl, rfl⟩, (hwrote.placed hp).file?_eq ?_⟩
  rw [hwrote.cwd, hcwd]
  exact (hwrote.tree.there _ _ List.lookup_cons_self).2

/-- A session that has written nothing before notes each file that it writes. -/
theorem noteAll_nil {done : List (String × String)} (h : done <+: s.rendered) :
    noteAll s.directory done [] =
      done.map fun q => (s.directory.child q.1, (bytes q.2).length) := by
  have hne := s.config.typesFile_ne_methodsFile s.directory
  rcases prefix_pair h with rfl | rfl | rfl <;> simp [noteAll, noteSize, hne]

end Session

namespace Pipeline

/-! ## Runs -/

/-- The run shall not write, or an error of rendering or of a strict validation stopped it before. -/
def Stopped (o : Options) (r : Report) : Prop :=
  o.dryRun = true ∨ r.generationErrors ≠ [] ∨ (o.strict = true ∧ r.validationErrors ≠ [])

/-- What a report tells of the files is so: they are the first of the two files, they hold the texts
that the report has for them, and no other file has changed. A run that was stopped has changed nothing;
another has written both files, or has an error of writing and has written the first at most. -/
structure Truthful (o : Options) (c : Config) (output : Path) (before after : Disk) (r : Report)
    (listed : List (String × String)) : Prop where
  names : listed.map Prod.fst <+: [c.typesFile, c.methodsFile]
  rendered : listed <+: r.rendered
  filesWritten : r.filesWritten = listed.map fun q => (output.child q.1).text
  totalBytes : r.totalBytes = (listed.foldr (fun q n => (bytes q.2).length + n) 0 : Nat)
  held : ∀ q ∈ listed, after.Holds (output.child q.1) q.2
  others : ∀ l, (∀ q ∈ listed, l ≠ (output.child q.1).resolve before.cwd) →
    after.root.look l = before.root.look l ∨
      (before.root.look l = none ∧ after.root.look l = some none)
  unchanged : Stopped o r → after = before
  whole : ¬ Stopped o r → r.exportErrors = [] →
    listed.map Prod.fst = [c.typesFile, c.methodsFile]
  partly : r.exportErrors ≠ [] → listed.map Prod.fst <+: [c.typesFile]
  success : r.success =
    (r.validationErrors.isEmpty && r.generationErrors.isEmpty && r.exportErrors.isEmpty)

/-- What a run leaves that comes to a file without bytes while it writes: there is no report, the files
before that one hold their texts, and no other file has changed. -/
structure Interrupted (o : Options) (c : Config) (output : Path) (before after : Disk) (e : Escape)
    (files done : List (String × String)) : Prop where
  escape : ∃ f, e = .text (.encoding f)
  writes : o.dryRun = false
  names : files.map Prod.fst = [c.typesFile, c.methodsFile]
  stray : ∃ q, done ++ [q] <+: files ∧ ¬ Writable q
  held : ∀ q ∈ done, after.Holds (output.child q.1) q.2
  others : ∀ l, (∀ q ∈ done, l ≠ (output.child q.1).resolve before.cwd) →
    after.root.look l = before.root.look l ∨
      (before.root.look l = none ∧ after.root.look l = some none)

/-- No run stops there if all its files have bytes. -/
theorem Interrupted.not_writable {o : Options} {c : Config} {output : Path} {before after : Disk}
    {e : Escape} {files done : List (String × String)}
    (h : Interrupted o c output before after e files done) : ¬ ∀ q ∈ files, Writable q := by
  intro hw
  obtain ⟨q, hq, hstray⟩ := h.stray
  exact hstray (hw q (hq.subset (by simp)))

/-- What comes of a run that has the given files to write: a truthful report, or none, and then the
directory for them can have no place and nothing has changed, or the run came to a file without bytes. -/
structure Honest (o : Options) (c : Config) (output : Path) (files : List (String × String)) (d : Disk)
    (out : Outcome) : Prop where
  report : ∀ r, out.result = .ok r → ∃ listed, Truthful o c output d out.disk r listed
  escape : ∀ e, out.result = .error e → (output.fault? ≠ none ∧ out.disk = d) ∨
    ∃ done, Interrupted o c output d out.disk e files done

variable {o : Options} {c : Config} {output : Path} {files : List (String × String)} {d : Disk}

theorem Honest.after {out : Outcome} (h : Honest o c output files d out) (log : List Log.Record) :
    Honest o c output files d (out.after log) :=
  ⟨h.report, h.escape⟩

/-- A run with a report tells the truth if the report does. -/
theorem honest_of_report {out : Outcome} {r : Report} {listed : List (String × String)}
    (hr : out.result = .ok r) (h : Truthful o c output d out.disk r listed) :
    Honest o c output files d out where
  report r' hr' := by
    rw [hr] at hr'
    cases hr'
    exact ⟨listed, h⟩
  escape e he := by
    rw [hr] at he
    cases he

/-- Where the directory can have a place and all files have bytes, there is a report. -/
theorem Honest.reported {out : Outcome} (h : Honest o c output files d out)
    (hout : output.fault? = none) (hw : ∀ q ∈ files, Writable q) : ∃ r, out.result = .ok r := by
  cases hr : out.result with
  | ok r => exact ⟨r, rfl⟩
  | error e =>
    rcases h.escape e hr with ⟨hfault, -⟩ | ⟨done, hdone⟩
    · exact absurd hout hfault
    · exact absurd hw hdone.not_writable

/-- A report of a run that has not come to writing. -/
structure Unwritten (r : Report) : Prop where
  filesWritten : r.filesWritten = []
  totalBytes : r.totalBytes = 0
  exportErrors : r.exportErrors = []

theorem truthful_of_unwritten {r : Report} (h : Unwritten r) (hs : Stopped o r) :
    Truthful o c output d d r.finished [] where
  names := by simp
  rendered := by simp
  filesWritten := h.filesWritten
  totalBytes := h.totalBytes
  held := by simp
  others := fun l _ => .inl rfl
  unchanged := fun _ => rfl
  whole := fun hn => absurd hs hn
  partly := fun he => absurd h.exportErrors he
  success := rfl

section Write

variable {s : Session} {r : Report} {done : List (String × String)}
  {out : Session.Outcome FileTree.Fault}

theorem writtenBytes_eq (hw : out.session.written =
    done.map fun q => (s.directory.child q.1, (bytes q.2).length)) :
    writtenBytes out.session = done.foldr (fun q n => (bytes q.2).length + n) 0 := by
  rw [writtenBytes, hw, List.foldr_map]

/-- Where not all files of a session are written, at most the first is. -/
theorem partly_of_fault {fault : FileTree.Fault}
    (h : Session.WroteFirst s d s.rendered done out) (hf : out.fault = some fault) :
    done.map Prod.fst <+: [s.config.typesFile] := by
  have hne : done ≠ s.rendered := fun he => by simpa [hf] using h.all.mpr he
  rcases Session.prefix_pair h.first with rfl | rfl | rfl
  · simp
  · simp
  · exact absurd rfl hne

/-- No file has changed but those that were written. -/
theorem others_of_written (h : Session.WroteFirst s d s.rendered done out) {l : List String}
    (hl : ∀ q ∈ done, l ≠ (s.directory.child q.1).resolve d.cwd) :
    out.disk.root.look l = d.root.look l ∨
      (d.root.look l = none ∧ out.disk.root.look l = some none) := by
  refine h.wrote.tree.elsewhere l (List.lookup_eq_none_iff.mpr fun q hq => ?_)
  simp only [List.map_reverse, List.mem_reverse, List.mem_map] at hq
  obtain ⟨q', hq', rfl⟩ := hq
  exact bne_iff_ne.mpr (hl q' hq')

/-- The files that were written hold their texts. -/
theorem held_of_written (h : Session.WroteFirst s d s.rendered done out)
    (hc : s.config.PlainExtension) {q : String × String} (hq : q ∈ done) :
    out.disk.Holds (s.directory.child q.1) q.2 :=
  h.holds ((Session.nodup_places hc d.cwd).sublist (h.first.sublist.map _)) hq

/-- A report of what was written after one that holds no error of rendering, nor of a strict
validation. -/
theorem truthful_of_written (h : Session.WroteFirst s d s.rendered done out) (hw : s.written = [])
    (hc : s.config.PlainExtension) (hr : r.rendered = s.rendered) (hg : r.generationErrors = [])
    (hv : o.strict = true → r.validationErrors = []) (ho : o.dryRun = false) :
    Truthful o s.config s.directory d out.disk (withFiles r out.session out.fault).finished done := by
  have hwritten : out.session.written =
      done.map fun q => (s.directory.child q.1, (bytes q.2).length) := by
    rw [h.session, ← Session.noteAll_nil h.first, hw]
  refine ⟨h.first.map Prod.fst, hr ▸ h.first, ?_, ?_, fun q hq => held_of_written h hc hq,
    fun l hl => others_of_written h hl, ?_, fun _ he => ?_, fun he => ?_, rfl⟩
  · show out.session.written.map (fun p => p.1.text) = _
    rw [hwritten, List.map_map]
    rfl
  · show (writtenBytes out.session : Int) = _
    rw [writtenBytes_eq hwritten]
  · rintro (hd | hd | ⟨hs, hd⟩)
    · simp [ho] at hd
    · exact absurd hg hd
    · exact absurd (hv hs) hd
  · have hf : out.fault = none := by
      cases hf : out.fault with
      | none => rfl
      | some f => simp [withFiles, Report.finished, Report.addStep, hf] at he
    rw [h.all.mp hf]
    rfl
  · cases hf : out.fault with
    | none => simp [withFiles, Report.finished, Report.addStep, hf] at he
    | some f => exact partly_of_fault h hf

/-- A writing without a report came to a file without bytes. -/
theorem interrupted_of_write (hc : s.config.PlainExtension) (hd : s.directory.fault? = none)
    (ho : o.dryRun = false) {e : Escape} (he : (write d s r).result = .error e) :
    ∃ done, Interrupted o s.config s.directory d (write d s r).disk e s.rendered done := by
  obtain ⟨done, h⟩ := s.writeFiles_first d s.rendered
  obtain ⟨f, t, hf, ht, rfl⟩ := write_error_iff.mp he
  obtain ⟨⟨g, rfl⟩, hstray⟩ := Session.stray_of_text hc hd h hf ht
  rw [write_disk]
  exact ⟨done, ⟨g, rfl⟩, ho, rfl, hstray, fun q hq => held_of_written h hc hq,
    fun l hl => others_of_written h hl⟩

theorem write_honest (hw : s.written = []) (hc : s.config.PlainExtension)
    (hd : s.directory.fault? = none) (hr : r.rendered = s.rendered) (hg : r.generationErrors = [])
    (hv : o.strict = true → r.validationErrors = []) (ho : o.dryRun = false) :
    Honest o s.config s.directory s.rendered d (write d s r) := by
  obtain ⟨done, h⟩ := s.writeFiles_first d s.rendered
  refine ⟨fun r' he => ⟨done, ?_⟩, fun e he => .inr (interrupted_of_write hc hd ho he)⟩
  rw [write_result he, write_disk]
  exact truthful_of_written h hw hc hr hg hv ho

end Write

variable {schema : Schema} {r : Report}

/-- What comes of rendering with a report that holds no error of rendering so far, nor of a strict
validation. -/
theorem generate_honest (hc : c.PlainExtension) (hout : output.fault? = none) (hr : Unwritten r)
    (hv : o.strict = true → r.validationErrors = []) :
    Honest o c output (filesFor d schema c output) d (generate d o schema c output r) := by
  have hi := Session.deliver_idle (Session.new output c) d schema
  unfold generate
  dsimp only
  split
  · next f hf =>
    rw [hi.disk, hf]
    exact honest_of_report rfl (truthful_of_unwritten
      ⟨hr.filesWritten, hr.totalBytes, hr.exportErrors⟩
      (.inr (.inl (by simp [withCode, Report.addStep]))))
  · next hf =>
    rw [hi.disk, hf]
    split
    · next ho =>
      exact honest_of_report rfl (truthful_of_unwritten
        ⟨hr.filesWritten, hr.totalBytes, hr.exportErrors⟩ (.inl ho))
    · next ho =>
      refine Honest.after ?_ _
      have hconfig := hi.config
      have hdirectory := hi.directory
      rw [show (Session.new output c).config = c from rfl] at hconfig
      rw [show (Session.new output c).directory = output from rfl] at hdirectory
      have hw := write_honest (d := d) (o := o) (r := withCode r
        ((Session.new output c).deliver d schema false).session none) hi.written
        (by rwa [hconfig]) (by rwa [hdirectory]) rfl rfl hv (by simpa using ho)
      rwa [hconfig, hdirectory] at hw

/-- A strict run goes on after the validation just if there are no errors then. -/
theorem passes_iff (r : Report) (fs : Validation.Findings) :
    passes o fs = true ↔ (o.strict = true → (withFindings r o fs).validationErrors = []) := by
  unfold passes withFindings
  cases hs : o.strict <;> cases hw : warningsFail o fs <;>
    simp [Report.addStep, Validation.Findings.isValid]

theorem generateFrom_honest (hc : c.PlainExtension) (hr : Unwritten r) :
    Honest o c output (filesFor d schema c output) d (generateFrom d o schema c output r) := by
  unfold generateFrom
  split
  · next t hout =>
    exact ⟨fun r' he => (by cases he), fun e he => .inl ⟨by simp [hout], rfl⟩⟩
  · next hout =>
    have hu : Unwritten (withFindings { r with outputDirectory := (d.resolve output).text } o
        (Validation.findings schema c)) := ⟨hr.filesWritten, hr.totalBytes, hr.exportErrors⟩
    have hp := passes_iff (o := o) { r with outputDirectory := (d.resolve output).text }
      (Validation.findings schema c)
    dsimp only
    split
    · next hok =>
      exact (generate_honest hc hout hu (hp.mp hok)).after _
    · next hno =>
      rw [hp, Classical.not_imp] at hno
      exact honest_of_report rfl (truthful_of_unwritten hu (.inr (.inr hno)))

/-- A run that gets through the validation and the rendering, and is no dry one, ends as its writing
does. -/
theorem generateFrom_writes (hout : output.fault? = none)
    (hp : passes o (Validation.findings schema c) = true)
    (hf : ((Session.new output c).deliver d schema false).fault = none) (ho : o.dryRun = false)
    (r : Report) :
    let s := ((Session.new output c).deliver d schema false).session
    let out := generateFrom d o schema c output r
    (∃ q, out.result = (write d s q).result) ∧ out.disk = (s.finish d).disk := by
  have hi := Session.deliver_idle (Session.new output c) d schema
  simp only [generateFrom, hout, hp, if_true, generate, hf, ho, Bool.false_eq_true, if_false, hi.disk,
    Outcome.after]
  exact ⟨⟨_, rfl⟩, write_disk _ _ _⟩

/-! ## Runs for files -/

/-- The schema and the settings that a run for a file reads, if it comes so far. -/
def source? (d : Disk) (p : Path) (settings : Value) : Option (Schema × Config) := do
  let own ← (Source.load d p).toOption
  let doc ← (override own settings).toOption
  (Source.parse doc (.text p.text)).toOption

variable {p : Path} {settings : Value}

theorem source?_eq_some_iff : source? d p settings = some (schema, c) ↔ ∃ own doc,
    Source.load d p = .ok own ∧ override own settings = .ok doc ∧
      Source.parse doc (.text p.text) = .ok (schema, c) := by
  unfold source?
  cases hl : Source.load d p with
  | error f => simp [Except.toOption]
  | ok own =>
    cases ho : override own settings with
    | error e => simp [ho, Except.toOption]
    | ok doc => cases hp : Source.parse doc (.text p.text) <;> simp [ho, hp, Except.toOption]

theorem after_after (out : Outcome) (log more : List Log.Record) :
    (out.after log).after more = out.after (more ++ log) := by
  simp [Outcome.after]

/-- A run for a file with a schema is the run for the schema, but for what was told before. -/
theorem runFile_eq (o : Options) (given : Option Path) (h : source? d p settings = some (schema, c)) :
    ∃ r log, Unwritten r ∧ runFile d o p given settings =
      (generateFrom d o schema c (outputPath given c) r).after log := by
  obtain ⟨own, doc, hl, ho, hp⟩ := source?_eq_some_iff.mp h
  simp only [runFile, runDocument, hl, ho, hp, after_after]
  exact ⟨_, _, ⟨rfl, rfl, rfl⟩, rfl⟩

theorem runFile_honest (o : Options) (given : Option Path) (hc : c.PlainExtension)
    (h : source? d p settings = some (schema, c)) :
    Honest o c (outputPath given c) (filesFor d schema c (outputPath given c)) d
      (runFile d o p given settings) := by
  obtain ⟨r, log, hr, he⟩ := runFile_eq o given h
  rw [he]
  exact (generateFrom_honest hc hr).after log

/-- A run for a file in which no schema can be read renders and writes nothing. -/
theorem runFile_of_none (o : Options) (given : Option Path) (h : source? d p settings = none) :
    (runFile d o p given settings).disk = d ∧
      ∀ r, (runFile d o p given settings).result = .ok r →
        Unwritten r ∧ r.totalLines = 0 ∧ CommandLine.exitOf r = .inputError := by
  unfold source? at h
  unfold runFile
  cases hl : Source.load d p with
  | error f =>
    dsimp only
    split
    · refine ⟨rfl, fun r hr => ?_⟩
      cases hr
      exact ⟨⟨rfl, rfl, rfl⟩, rfl, rfl⟩
    · exact ⟨rfl, fun r hr => (by cases hr)⟩
  | ok own =>
    cases hd : override own settings with
    | error e =>
      simp only [runDocument, hd]
      exact ⟨rfl, fun r hr => (by cases hr)⟩
    | ok doc =>
      cases hp : Source.parse doc (.text p.text) with
      | error f =>
        simp only [runDocument, hd, hp]
        refine ⟨rfl, fun r hr => ?_⟩
        cases hr
        exact ⟨⟨rfl, rfl, rfl⟩, rfl, rfl⟩
      | ok read => simp [hl, hd, hp, Except.toOption] at h

end Pipeline

namespace CommandLine

open Pipeline (Interrupted Truthful filesFor source?)

/-! ## Commands -/

/-- A run with an error that is not one of writing has changed nothing. -/
theorem unchanged_of_exit {o : Pipeline.Options} {c : Config} {output : Path} {before after : Disk}
    {r : Pipeline.Report} {listed : List (String × String)}
    (h : Truthful o c output before after r listed) (ho : o.strict = true)
    (hs : exitOf r ≠ .success) (hx : exitOf r ≠ .exportError) : after = before := by
  by_contra hne
  have hn : ¬ Pipeline.Stopped o r := fun hst => hne (h.unchanged hst)
  simp only [Pipeline.Stopped, ho, true_and, not_or, ne_eq, not_not] at hn
  have hsuccess := h.success
  simp only [hn.2.1, hn.2.2, List.isEmpty_nil, Bool.true_and] at hsuccess
  cases he : r.exportErrors.isEmpty with
  | true => exact hs (by simp [exitOf, hsuccess, he])
  | false => exact hx (by simp [exitOf, hsuccess, hn.2.2, he])

theorem success_of_exit {r : Pipeline.Report} (h : exitOf r = .success) : r.success = true := by
  unfold exitOf at h
  split at h
  · assumption
  · repeat' split at h
    all_goals cases h

theorem exportErrors_of_exit {r : Pipeline.Report} (h : exitOf r = .exportError) :
    r.exportErrors ≠ [] := by
  intro he
  unfold exitOf at h
  simp only [he, List.isEmpty_nil, Bool.not_true, Bool.false_eq_true, if_false] at h
  repeat' split at h
  all_goals cases h

/-- The report that a command prints when it generates for the file at `p`, and the files in it. -/
structure Reported (d : Disk) (a : Arguments) (p : Path) (disk : Disk) (output : String)
    (c : Config) (r : Pipeline.Report) (listed : List (String × String)) : Prop where
  source : ∃ schema, source? d p (settings a) = some (schema, c)
  printed : output = r.summary ++ "\n"
  truthful : Truthful ⟨true, a.failOnWarnings, a.dryRun⟩ c
    (Pipeline.outputPath ((outputPath a).map d.resolve) c) d disk r listed

/-- What the number that a command ends with when it generates tells of the files: after a success both
are written, unless that was not wanted; after an error of writing at most the first is; and after any
other nothing has changed, unless the command came to a file without bytes. -/
structure Ending (d : Disk) (a : Arguments) (p : Path) (disk : Disk) (output : String)
    (ending : Except Pipeline.Escape Exit) : Prop where
  unchanged : status ending ∈ [1, 2, 4] → disk = d ∨ ∃ e schema c done,
    ending = .error e ∧ source? d p (settings a) = some (schema, c) ∧
    let output := Pipeline.outputPath ((outputPath a).map d.resolve) c
    Interrupted ⟨true, a.failOnWarnings, a.dryRun⟩ c output d disk e (filesFor d schema c output) done
  whole : status ending = 0 → ∃ c r listed, Reported d a p disk output c r listed ∧
    (a.dryRun = false → listed.map Prod.fst = [c.typesFile, c.methodsFile])
  partly : status ending = 3 → ∃ c r listed, Reported d a p disk output c r listed ∧
    listed.map Prod.fst <+: [c.typesFile]

variable {d : Disk} {a : Arguments} {p : Path}

/-- A command ends with zero just if it has succeeded. -/
theorem status_eq_zero_iff {ending : Except Pipeline.Escape Exit} :
    status ending = 0 ↔ ending = .ok .success := by
  cases ending with
  | error e => simp [status]
  | ok e => cases e <;> simp [status, Exit.code]

/-- A command that has done nothing and fails with an error of the input. -/
theorem ending_of_inputError (output : String) : Ending d a p d output (.ok .inputError) :=
  ⟨fun _ => .inl rfl, fun h => (by cases h), fun h => (by cases h)⟩

/-- A command that has done nothing and fails without an end of its own. -/
theorem ending_of_escape (output : String) (e : Pipeline.Escape) :
    Ending d a p d output (.error e) :=
  ⟨fun _ => .inl rfl, fun h => (by cases h), fun h => (by cases h)⟩

theorem ending_of_reported {disk : Disk} {output : String} {c : Config} {r : Pipeline.Report}
    {listed : List (String × String)} (h : Reported d a p disk output c r listed) :
    Ending d a p disk output (.ok (exitOf r)) := by
  refine ⟨fun hcode => .inl ?_, fun hcode => ?_, fun hcode => ?_⟩
  · exact unchanged_of_exit h.truthful rfl (fun hs => by simp [hs, status, Exit.code] at hcode)
      (fun hs => by simp [hs, status, Exit.code] at hcode)
  · have hs : exitOf r = .success := Except.ok.inj (status_eq_zero_iff.mp hcode)
    refine ⟨c, r, listed, h, fun hd => ?_⟩
    have hsuccess := h.truthful.success
    rw [success_of_exit hs, eq_comm, Bool.and_eq_true, Bool.and_eq_true] at hsuccess
    simp only [List.isEmpty_iff] at hsuccess
    obtain ⟨⟨hv, hg⟩, hx⟩ := hsuccess
    exact h.truthful.whole (by simp [Pipeline.Stopped, hd, hv, hg]) hx
  · have hs : exitOf r = .exportError := by
      cases he : exitOf r <;> simp [he, status, Exit.code] at hcode ⊢
    exact ⟨c, r, listed, h, h.truthful.partly (exportErrors_of_exit hs)⟩

/-- A command that generates ends as the report of its run tells. -/
theorem generate_ending_eq (d : Disk) (a : Arguments) (p : Path) (stated : Value) :
    (generate d a p stated).ending =
      match (outputPath a).bind Path.fault? with
      | some t => .error (.text t)
      | none => (Pipeline.runFile d ⟨true, a.failOnWarnings, a.dryRun⟩ p
          ((outputPath a).map d.resolve) stated).result.map exitOf := by
  unfold generate
  cases (outputPath a).bind Path.fault? with
  | some t => rfl
  | none =>
    dsimp only
    split
    · next he => rw [he, Except.map]
    · next hr => rw [hr, Except.map]

/-- It leaves the disk of its run. -/
theorem generate_disk_eq (stated : Value) (h : (outputPath a).bind Path.fault? = none) :
    (generate d a p stated).disk = (Pipeline.runFile d ⟨true, a.failOnWarnings, a.dryRun⟩ p
      ((outputPath a).map d.resolve) stated).disk := by
  unfold generate
  rw [h]
  dsimp only
  split <;> rfl

theorem generate_ending_tells
    (hc : ∀ schema c, source? d p (settings a) = some (schema, c) → c.PlainExtension) :
    let w := generate d a p (settings a)
    Ending d a p w.disk w.output w.ending := by
  unfold generate
  split
  · exact ending_of_escape _ _
  · dsimp only
    cases hs : source? d p (settings a) with
    | none =>
      obtain ⟨hd, hu⟩ := Pipeline.runFile_of_none ⟨true, a.failOnWarnings, a.dryRun⟩
        ((outputPath a).map d.resolve) hs
      split
      · rw [hd]
        exact ending_of_escape _ _
      · next r hr =>
        rw [hd, (hu r hr).2.2]
        exact ending_of_inputError _
    | some read =>
      obtain ⟨schema, c⟩ := read
      have hh := Pipeline.runFile_honest ⟨true, a.failOnWarnings, a.dryRun⟩
        ((outputPath a).map d.resolve) (hc schema c hs) hs
      split
      · next e he =>
        rcases hh.escape e he with ⟨-, hd⟩ | ⟨done, hdone⟩
        · rw [hd]
          exact ending_of_escape _ _
        · exact ⟨fun _ => .inr ⟨e, schema, c, done, rfl, hs, hdone⟩, fun h => (by cases h),
            fun h => (by cases h)⟩
      · next r hr =>
        obtain ⟨listed, ht⟩ := hh.report r hr
        exact ending_of_reported ⟨⟨schema, hs⟩, rfl, ht⟩

theorem work_ending_tells {schema : String} (hv : a.validateOnly = false)
    (hc : ∀ s c, source? d (d.resolve (Path.ofString schema)) (settings a) = some (s, c) →
      c.PlainExtension) :
    Ending d a (d.resolve (Path.ofString schema)) (work d schema a).disk (work d schema a).output
      (work d schema a).ending := by
  rcases work_cases d schema a with ⟨t, -, hw⟩ | ⟨-, -, log, hw⟩ | ⟨-, -, hw⟩
  · rw [hw]
    exact ending_of_escape _ _
  · rw [hw]
    exact ending_of_inputError _
  · rw [hw, hv]
    exact generate_ending_tells hc

end CommandLine

/-- The report of a run, for a schema or for a file, tells the truth about the disk, if the file
extension is plain: it lists the first of the two files, which hold the texts that it has for them,
with their size, and no other file has changed; a run that was stopped before it wrote, or a dry one,
has changed nothing. So does the number that a command ends with when it generates, unless the command
comes to a file without bytes. All files have bytes if the mark is in no name, no type and no setting. -/
theorem reports_truthful (d : Disk) :
    (∀ (o : Pipeline.Options) (schema : Schema) (c : Config) (given : Option Path)
      (r : Pipeline.Report), c.PlainExtension →
      (Pipeline.run d o schema c given).result = .ok r →
      ∃ listed, Pipeline.Truthful o c (Pipeline.outputPath given c) d
        (Pipeline.run d o schema c given).disk r listed) ∧
    (∀ (o : Pipeline.Options) (p : Path) (given : Option Path) (settings : Value)
      (r : Pipeline.Report), (Pipeline.runFile d o p given settings).result = .ok r →
      (Pipeline.source? d p settings = none →
        (Pipeline.runFile d o p given settings).disk = d ∧ r.filesWritten = [] ∧ r.totalBytes = 0) ∧
      ∀ schema c, Pipeline.source? d p settings = some (schema, c) → c.PlainExtension →
        ∃ listed, Pipeline.Truthful o c (Pipeline.outputPath given c) d
          (Pipeline.runFile d o p given settings).disk r listed) ∧
    (∀ (time : String) (arguments : List String) (schema : String)
      (a : CommandLine.Arguments), CommandLine.request arguments = .ok (.work schema a) →
      a.validateOnly = false →
      let p := d.resolve (Path.ofString schema)
      let output := (CommandLine.outputPath a).map d.resolve
      (∀ s c, Pipeline.source? d p (CommandLine.settings a) = some (s, c) → c.PlainExtension) →
      let w := CommandLine.run d time arguments
      CommandLine.Ending d a p w.disk w.output w.ending ∧
      ((∀ s c, Pipeline.source? d p (CommandLine.settings a) = some (s, c) →
        ∀ q ∈ Pipeline.filesFor d s c (Pipeline.outputPath output c), Writable q) →
        CommandLine.status w.ending ∈ [1, 2, 4] → w.disk = d)) ∧
    ∀ (schema : Schema) (c : Config) (output : Path), Code.UnmarkedSchema schema →
      Code.UnmarkedConfig c → ∀ q ∈ Pipeline.filesFor d schema c output, Writable q := by
  refine ⟨?_, ?_, ?_, ?_⟩
  · intro o schema c given r hc hr
    exact (Pipeline.generateFrom_honest hc ⟨rfl, rfl, rfl⟩).report r hr
  · intro o p given settings r hr
    refine ⟨fun hs => ?_, fun schema c hs hc => (Pipeline.runFile_honest o given hc hs).report r hr⟩
    obtain ⟨hd, hu⟩ := Pipeline.runFile_of_none o given hs
    exact ⟨hd, (hu r hr).1.filesWritten, (hu r hr).1.totalBytes⟩
  · intro time arguments schema a hr hv p output hc
    simp only [CommandLine.run, hr]
    have h := CommandLine.work_ending_tells hv hc
    refine ⟨h, fun hw hs => (h.unchanged hs).resolve_right ?_⟩
    rintro ⟨e, s, c, done, -, hsource, hdone⟩
    exact hdone.not_writable (hw s c hsource)
  · intro schema c output hs hc
    exact Pipeline.writable_filesFor hs hc d output

theorem documentDisk_truthful :
    let o : Pipeline.Options := ⟨true, false, false⟩
    let lenient : Pipeline.Options := ⟨false, false, false⟩
    let p : Path := ⟨true, ["s.json"]⟩
    let a : CommandLine.Arguments := { CommandLine.Arguments.none with schema := some "s.json" }
    let w := CommandLine.run documentDisk "00:00:00" ["-s", "s.json"]
    Config.usual.PlainExtension ∧
    (∃ r listed, (Pipeline.run documentDisk lenient poll Config.usual none).result = .ok r ∧
      Pipeline.Truthful lenient Config.usual ⟨false, ["generated"]⟩ documentDisk
        (Pipeline.run documentDisk lenient poll Config.usual none).disk r listed) ∧
    (∃ r listed, (Pipeline.runFile documentDisk o p none .null).result = .ok r ∧
      Pipeline.Truthful o Config.usual ⟨false, ["generated"]⟩ documentDisk
        (Pipeline.runFile documentDisk o p none .null).disk r listed) ∧
    CommandLine.request ["-s", "s.json"] = .ok (.work "s.json" a) ∧
    CommandLine.Ending documentDisk a p w.disk w.output w.ending ∧
    (CommandLine.status w.ending ∈ [1, 2, 4] → w.disk = documentDisk) := by
  have hc : Config.usual.PlainExtension := ⟨by decide, by decide⟩
  have hsource : Pipeline.source? documentDisk ⟨true, ["s.json"]⟩ .null =
      some (⟨.empty, .empty, some "/s.json"⟩, Config.usual) := by decide +kernel
  have hsettings : Pipeline.source? documentDisk ⟨true, ["s.json"]⟩ (CommandLine.settings
      { CommandLine.Arguments.none with schema := some "s.json" }) =
      some (⟨.empty, .empty, some "/s.json"⟩, Config.usual) := by decide +kernel
  have houtput : (Pipeline.outputPath none Config.usual).fault? = none := by decide +kernel
  have hmark : Code.UnmarkedConfig Config.usual := by decide +kernel
  have hrequest : CommandLine.request ["-s", "s.json"] =
      .ok (.work "s.json" { CommandLine.Arguments.none with schema := some "s.json" }) := by
    decide +kernel
  obtain ⟨run, runFile, command, writable⟩ := reports_truthful documentDisk
  obtain ⟨hending, hunchanged⟩ := command "00:00:00" ["-s", "s.json"] "s.json" _
    hrequest rfl fun s c hs => by
      cases hsettings.symm.trans hs
      exact hc
  refine ⟨hc, ?_, ?_, hrequest, hending, hunchanged fun s c hs => ?_⟩
  · let output := Pipeline.outputPath none Config.usual
    have hhonest : Pipeline.Honest ⟨false, false, false⟩ Config.usual output
        (Pipeline.filesFor documentDisk poll Config.usual output) documentDisk
        (Pipeline.run documentDisk ⟨false, false, false⟩ poll Config.usual none) :=
      Pipeline.generateFrom_honest hc ⟨rfl, rfl, rfl⟩
    obtain ⟨r, hr⟩ := hhonest.reported houtput (writable _ _ _ (by decide) hmark)
    obtain ⟨listed, h⟩ := run ⟨false, false, false⟩ poll Config.usual none r hc hr
    exact ⟨r, listed, hr, h⟩
  · have hhonest := Pipeline.runFile_honest ⟨true, false, false⟩ none hc hsource
    obtain ⟨r, hr⟩ := hhonest.reported houtput (writable _ _ _ (by decide) hmark)
    obtain ⟨listed, h⟩ := (runFile _ _ none .null r hr).2 _ _ hsource hc
    exact ⟨r, listed, hr, h⟩
  · cases hsettings.symm.trans hs
    exact writable _ _ _ (by decide) hmark

/-- A method whose result has a surrogate for a type. -/
def stray : Schema where
  types := .empty
  methods := ⟨[("m", ⟨.empty, .single "\uD7FF\uE001"⟩)], by simp⟩
  sourceFile := some "/s.json"

/-- A disk with the document `{"types":{},"methods":{"m":{"result":{"type":"\ud800"}}}}`. -/
def strayDisk : Disk :=
  ⟨.dir [("s.json", .file [123, 34, 116, 121, 112, 101, 115, 34, 58, 123, 125, 44, 34, 109, 101, 116,
    104, 111, 100, 115, 34, 58, 123, 34, 109, 34, 58, 123, 34, 114, 101, 115, 117, 108, 116, 34, 58,
    123, 34, 116, 121, 112, 101, 34, 58, 34, 92, 117, 100, 56, 48, 48, 34, 125, 125, 125, 125])], []⟩

namespace Pipeline

/-- The first file for the schema has bytes, the second one has none. -/
theorem stray_texts {s : Session} (hs : ((Session.new ⟨false, ["generated"]⟩ Config.usual).deliver
    strayDisk stray false).session = s) :
    s.config = Config.usual ∧ s.directory = ⟨false, ["generated"]⟩ ∧ Encodable s.typesText ∧
      ¬ Encodable s.methodsText := by
  let m : Method := ⟨.empty, .single "\uD7FF\uE001"⟩
  have hpieces : s.types = [Code.typesHeader Config.usual] ∧
      s.methods = [Code.methodsHeader Config.usual, Code.methodText "m" m, Code.methodsFooter] := by
    rw [← hs]
    exact ⟨rfl, rfl⟩
  obtain ⟨htypes, hmethods⟩ := hpieces
  refine ⟨by rw [← hs]; rfl, by rw [← hs]; rfl, ?_, ?_⟩
  · have hheader : Text.Unmarked (Code.typesHeader Config.usual) :=
      Code.unmarked_typesHeader (by decide +kernel)
    rw [Session.typesText, htypes]
    exact (Text.unmarked_concat (List.forall_mem_singleton.mpr hheader)).encodable
  · have hpiece : Code.methodText "m" m ∈ s.methods := by simp [hmethods]
    have htype : [Text.mark, '\uE001'] <:+: (Code.typeName m.result).toList := ⟨[], [], by decide⟩
    have hmark : [Text.mark, '\uE001'] <:+: s.methodsText.toList :=
      htype.trans ((Code.infix_methodText "m" m).trans (Text.infix_concat hpiece))
    exact Text.not_encodable_of_infix (k := '\uE001') (by decide) hmark

/-- A run for the schema writes the first file and then ends without a report. -/
theorem stray_run {o : Options} (hp : passes o (Validation.findings stray Config.usual) = true)
    (ho : o.dryRun = false) (r : Report) :
    let out := generateFrom strayDisk o stray Config.usual ⟨false, ["generated"]⟩ r
    (∃ g, out.result = .error (.text (.encoding g))) ∧
      (out.disk.file? ⟨false, ["generated", "Types.swift"]⟩).isSome = true := by
  intro out
  have hdeliver := Session.deliver_fault (Session.new ⟨false, ["generated"]⟩ Config.usual) strayDisk
    stray
  have hplain : (⟨false, ["generated"]⟩ : Path).fault? = none := by decide
  obtain ⟨⟨q, hresult⟩, hdisk⟩ := generateFrom_writes (d := strayDisk) hplain hp
    (hdeliver.trans (by decide +kernel)) ho r
  generalize hs : ((Session.new ⟨false, ["generated"]⟩ Config.usual).deliver strayDisk stray
    false).session = s at hresult hdisk
  obtain ⟨hconfig, hdirectory, htypes, hmethods⟩ := stray_texts hs
  -- the directory can be made, and nothing stands in the place of the first file then
  have hchild : s.directory.child s.config.typesFile = ⟨false, ["generated", "Types.swift"]⟩ := by
    rw [hconfig, hdirectory]
    decide +kernel
  have hmade : strayDisk.ensureDirectory s.directory =
      (strayDisk.put ["generated"] (.dir []), .ok ()) := by
    rw [hdirectory]
    rfl
  have hplaced : Disk.Placed (strayDisk.put ["generated"] (.dir []))
      (s.directory.child s.config.typesFile) := by
    rw [hchild]
    exact ⟨by decide, by decide, by decide, by decide +kernel⟩
  obtain ⟨⟨f, g, hf, hproblem⟩, hfile⟩ := Session.finish_of_unencodable
    (by rw [hconfig]; exact ⟨by decide, by decide⟩) htypes hmethods hmade hplaced
    (by rw [hchild]; decide +kernel)
  refine ⟨⟨g, hresult.trans (write_error_iff.mpr ⟨f, _, hf, hproblem, rfl⟩)⟩, ?_⟩
  rw [show out.disk = (s.finish strayDisk).disk from hdisk, ← hchild, hfile]
  rfl

end Pipeline

namespace CommandLine

theorem run_work (d : Disk) (time : String) {arguments : List String} {schema : String} {a : Arguments}
    (h : request arguments = .ok (.work schema a)) :
    (run d time arguments).ending = (work d schema a).ending ∧
      (run d time arguments).disk = (work d schema a).disk := by
  simp only [run, h, and_self]

/-- A command for the document writes the first file and then fails. -/
theorem stray_command (time : String) :
    let w := run strayDisk time ["-s", "s.json"]
    status w.ending = 1 ∧ (w.disk.file? ⟨false, ["generated", "Types.swift"]⟩).isSome = true := by
  let a : Arguments := { Arguments.none with schema := some "s.json" }
  let p : Path := ⟨true, ["s.json"]⟩
  have hrequest : request ["-s", "s.json"] = .ok (.work "s.json" a) := by decide +kernel
  have hpath : strayDisk.resolve (Path.ofString "s.json") = p := by decide +kernel
  have hfault : (Path.ofString "s.json").fault? = none := by decide +kernel
  have hfile : strayDisk.file? p ≠ none := by decide +kernel
  have hwork : work strayDisk "s.json" a = generate strayDisk a p (settings a) := by
    rcases work_cases strayDisk "s.json" a with ⟨t, ht, -⟩ | ⟨-, hf, -⟩ | ⟨-, -, hw⟩
    · cases hfault.symm.trans ht
    · exact absurd (hpath ▸ hf) hfile
    · rw [hw, hpath]
      exact if_neg (by decide)
  have hsource : Pipeline.source? strayDisk p (settings a) = some (stray, Config.usual) := by
    decide +kernel
  have houtput : Pipeline.outputPath none Config.usual = ⟨false, ["generated"]⟩ := by decide +kernel
  obtain ⟨r, log, -, hrun⟩ := Pipeline.runFile_eq ⟨true, a.failOnWarnings, a.dryRun⟩ none hsource
  obtain ⟨⟨g, hresult⟩, hwritten⟩ := Pipeline.stray_run
    (o := ⟨true, a.failOnWarnings, a.dryRun⟩) (by decide +kernel) rfl r
  have hgiven : (outputPath a).map strayDisk.resolve = none := rfl
  have hending := generate_ending_eq strayDisk a p (settings a)
  have hdisk := generate_disk_eq (d := strayDisk) (a := a) (p := p) (settings a) rfl
  rw [show (outputPath a).bind Path.fault? = none from rfl] at hending
  dsimp only at hending
  rw [hgiven, hrun, houtput, Pipeline.after_result, hresult] at hending
  rw [hgiven, hrun, houtput, Pipeline.after_disk] at hdisk
  obtain ⟨hrunEnding, hrunDisk⟩ := run_work strayDisk time hrequest
  intro w
  rw [show w.ending = _ from hrunEnding, show w.disk = _ from hrunDisk, hwork, hending, hdisk]
  exact ⟨rfl, hwritten⟩

end CommandLine

/-- A command that ends with the number of a failure may have written a file. -/
theorem failures_not_all_unchanged :
    ¬ ∀ (d : Disk) (time : String) (arguments : List String) (schema : String)
      (a : CommandLine.Arguments), CommandLine.request arguments = .ok (.work schema a) →
      a.validateOnly = false →
      (∀ s c, Pipeline.source? d (d.resolve (Path.ofString schema)) (CommandLine.settings a) =
        some (s, c) → c.PlainExtension) →
      let w := CommandLine.run d time arguments
      CommandLine.status w.ending ∈ [1, 2, 4] → w.disk = d := by
  intro h
  let a : CommandLine.Arguments := { CommandLine.Arguments.none with schema := some "s.json" }
  have hpath : strayDisk.resolve (Path.ofString "s.json") = ⟨true, ["s.json"]⟩ := by decide +kernel
  have hsource : (Pipeline.source? strayDisk ⟨true, ["s.json"]⟩ (CommandLine.settings a)).map
      Prod.snd = some Config.usual := by decide +kernel
  obtain ⟨hstatus, hfile⟩ := CommandLine.stray_command "00:00:00"
  have hno := h strayDisk "00:00:00" ["-s", "s.json"] "s.json" a (by decide +kernel) rfl
    (fun s c hs => by
      rw [hpath] at hs
      rw [hs] at hsource
      obtain rfl : c = Config.usual := Option.some.inj hsource
      exact ⟨by decide, by decide⟩) (by rw [hstatus]; decide)
  rw [hno] at hfile
  exact absurd hfile (by decide)

end ClientGen
