import ClientGen.Proofs.Refusals

/-! Generating twice. A run depends on the disk only by the file it reads, and writes its files at the
end. Files that stand as they shall be written are written to no effect, so the same command, when it has
succeeded once, changes nothing more and tells the same. -/

namespace ClientGen

open FileTree
open Text.Utf8 (Encodable bytes)

namespace FileTree.Disk

variable {d : Disk} {p : Path} {text : String}

/-! ## Files that stand -/

/-- The disk has a file with the text for the path. -/
structure Standing (d : Disk) (p : Path) (text : String) : Prop where
  placed : Placed d p
  encodable : Encodable text
  content : d.root.look (p.resolve d.cwd) = some (some (bytes text))

/-- A file that stands is written to no effect. -/
theorem Standing.writeFile_eq (h : Standing d p text) :
    writeFile d p text true = ⟨d, .ok (bytes text).length, writtenLog p text⟩ := by
  have hsame : d.put (p.resolve d.cwd) (.file (bytes text)) = d := by
    simp only [put, Entry.set_self (Entry.look_eq_file_iff.mp h.content)]
  rw [writeFile_of_placed h.encodable (ensureDirectory_of_isDir h.placed.around) h.placed
    (by simp [h.content]), hsame]

end FileTree.Disk

namespace Session

/-! ## Sessions -/

/-- Up to the end of a session nothing depends on the disk. -/
theorem step_anywhere (s : Session) (d d' : Disk) {b : Callback} (h : b ≠ .finish) :
    s.step d' b = { s.step d b with disk := d' } := by
  cases b with
  | type name t =>
    simp only [step]
    split <;> rfl
  | finish => exact absurd rfl h
  | _ => rfl

theorem run_anywhere (s : Session) (d d' : Disk) {bs : List Callback} (h : .finish ∉ bs) :
    s.run d' bs = { s.run d bs with disk := d' } := by
  induction bs generalizing s d d' with
  | nil => rfl
  | cons b rest ih =>
    have hb : s.step d' b = _ := step_anywhere s d d' fun e => h (by simp [e])
    simp only [Session.run, hb]
    split
    · rfl
    · rw [ih (s.step d b).session (s.step d b).disk d' fun m => h (by simp [m])]

theorem deliver_anywhere (s : Session) (d d' : Disk) (schema : Schema) :
    s.deliver d' schema false = { s.deliver d schema false with disk := d' } := by
  simp only [deliver, run_anywhere s d d' (finish_not_mem_delivery schema)]
  split <;> rfl

/-- What is told of files that were written into a directory. -/
def filesLog (directory : Path) (files : List (String × String)) : List Log.Record :=
  files.flatMap fun q => Disk.writtenLog (directory.child q.1) q.2 ++
    [⟨.info, .session, "Wrote " ++ (directory.child q.1).text ++ " (" ++
      Decimal.text (bytes q.2).length ++ " bytes)."⟩]

/-- When all files are written, the disk does not decide what is told. -/
theorem writeFiles_log {s : Session} {d : Disk} {files : List (String × String)}
    (h : (s.writeFiles d files).fault = none) :
    (s.writeFiles d files).log = filesLog s.directory files := by
  induction files generalizing s d with
  | nil => rfl
  | cons q rest ih =>
    obtain ⟨name, text⟩ := q
    simp only [writeFiles, Path.append_ofString] at h ⊢
    split at h
    · cases h
    · next n hw =>
      obtain ⟨-, rfl, -, -⟩ := Disk.writeFile_ok hw
      simp only [ih h, Disk.writeFile_log hw, filesLog, List.flatMap_cons, List.append_assoc,
        List.singleton_append]

/-- Files that all stand are written to no effect. -/
theorem writeFiles_standing {s : Session} {d : Disk} {files : List (String × String)}
    (h : ∀ q ∈ files, d.Standing (s.directory.child q.1) q.2) :
    (s.writeFiles d files).disk = d ∧ (s.writeFiles d files).fault = none := by
  induction files generalizing s with
  | nil => exact ⟨rfl, rfl⟩
  | cons q rest ih =>
    obtain ⟨name, text⟩ := q
    obtain ⟨hq, hrest⟩ := List.forall_mem_cons.mp h
    simp only [writeFiles, Path.append_ofString, hq.writeFile_eq]
    exact ih hrest

variable {s : Session} {d : Disk}

/-- When a session has ended without fault, its files stand. -/
theorem finish_standing (hc : s.config.PlainExtension) (hf : (s.finish d).fault = none) :
    ∀ q ∈ s.rendered, (s.finish d).disk.Standing (s.directory.child q.1) q.2 := by
  obtain ⟨done, hfirst⟩ := s.writeFiles_first d s.rendered
  obtain rfl := hfirst.all.mp hf
  exact fun q hq => ⟨hfirst.placed q hq, hfirst.encodable q hq,
    Disk.look_of_file? (hfirst.file?_eq (nodup_places hc d.cwd) hq)⟩

/-- An end without fault notes and tells the same on each disk. -/
theorem finish_eq (hf : (s.finish d).fault = none) :
    s.finish d = ⟨(s.finish d).disk, { s with written := noteAll s.directory s.rendered s.written },
      filesLog s.directory s.rendered, none⟩ := by
  obtain ⟨done, hfirst⟩ := s.writeFiles_first d s.rendered
  obtain rfl := hfirst.all.mp hf
  have hlog : (s.finish d).log = _ := writeFiles_log hf
  have hsession : (s.finish d).session = _ := hfirst.session
  rw [← hlog, ← hsession, ← hf]

/-- The end of a session comes to the same again, and nothing is new on the disk. -/
theorem finish_again (hc : s.config.PlainExtension) (hf : (s.finish d).fault = none) :
    s.finish (s.finish d).disk = s.finish d := by
  obtain ⟨hdisk, hfault⟩ := writeFiles_standing (finish_standing hc hf)
  have hsecond : s.finish (s.finish d).disk = _ := finish_eq hfault
  rw [hsecond, finish_eq hf]
  exact congrArg (Outcome.mk · _ _ _) hdisk

/-- Nothing but the two files is written, and directories for them. -/
theorem finish_wrote (s : Session) (d : Disk) : ∃ files, Disk.Wrote d (s.finish d).disk files ∧
    ∀ l, l ≠ (s.directory.child s.config.typesFile).resolve d.cwd →
      l ≠ (s.directory.child s.config.methodsFile).resolve d.cwd → files.lookup l = none := by
  obtain ⟨done, hfirst⟩ := s.writeFiles_first d s.rendered
  refine ⟨_, hfirst.wrote, fun l ht hm => List.lookup_eq_none_iff.mpr fun q hq => ?_⟩
  obtain ⟨f, hf, rfl⟩ := List.mem_map.mp hq
  have hf := hfirst.first.subset (List.mem_reverse.mp hf)
  simp only [rendered, List.mem_cons, List.not_mem_nil, or_false] at hf
  rcases hf with rfl | rfl
  · exact bne_iff_ne.mpr ht
  · exact bne_iff_ne.mpr hm

end Session
namespace Pipeline

/-! ## Runs that write last -/

/-- A run that treats disks alike of which `like` holds: it leaves them as they are, or writes the files
of one session to them, and does no more after that. -/
inductive WritesLast (like : Disk → Prop) (c : Config) (output : Path) (f : Disk → Outcome) : Prop
  | idle (log : List Log.Record) (result : Except Escape Report)
      (h : ∀ d, like d → f d = ⟨d, log, result⟩)
  | writes (log : List Log.Record) (s : Session) (r : Report) (hc : s.config = c)
      (hd : s.directory = output) (h : ∀ d, like d → f d = (write d s r).after log)

theorem write_again {d : Disk} {s : Session} {r done : Report} (hc : s.config.PlainExtension)
    (hr : (write d s r).result = .ok done) (hx : done.exportErrors = []) :
    write (write d s r).disk s r = write d s r := by
  have herrors : (withFiles r (s.finish d).session (s.finish d).fault).finished.exportErrors =
      ((s.finish d).fault.map exportError).toList := rfl
  have hf : (s.finish d).fault = none := by
    rw [write_result hr, herrors] at hx
    simpa using hx
  have hagain := Session.finish_again hc hf
  rw [write_disk]
  unfold write
  simp only [hagain]

namespace WritesLast

variable {like : Disk → Prop} {c : Config} {output : Path} {f : Disk → Outcome}

theorem after (h : WritesLast like c output f) (log : List Log.Record) :
    WritesLast like c output fun d => (f d).after log := by
  cases h with
  | idle told result h => exact .idle (log ++ told) result fun d hd => by rw [h d hd]; rfl
  | writes told s r hc hdir h =>
    refine .writes (log ++ told) s r hc hdir fun d hd => ?_
    rw [h d hd]
    simp [Outcome.after]

/-- The same of a run that does as much on fewer disks. -/
theorem congr {like' : Disk → Prop} {g : Disk → Outcome} (h : WritesLast like c output f)
    (hg : ∀ d, like' d → like d ∧ g d = f d) : WritesLast like' c output g := by
  cases h with
  | idle log result h =>
    exact .idle log result fun d hd => (hg d hd).2.trans (h d (hg d hd).1)
  | writes log s r hc hdir h =>
    exact .writes log s r hc hdir fun d hd => (hg d hd).2.trans (h d (hg d hd).1)

variable {d : Disk}

/-- Such a run writes nothing but the two files. -/
theorem wrote (h : WritesLast like c output f) (hd : like d) :
    ∃ files, Disk.Wrote d (f d).disk files ∧
      ∀ l, l ≠ (output.child c.typesFile).resolve d.cwd →
        l ≠ (output.child c.methodsFile).resolve d.cwd → files.lookup l = none := by
  cases h with
  | idle log result h =>
    rw [h d hd]
    exact ⟨[], .refl d, fun l _ _ => rfl⟩
  | writes log s r hc hdir h =>
    subst hc hdir
    rw [h d hd]
    show ∃ files, Disk.Wrote d (write d s r).disk files ∧ _
    rw [write_disk]
    exact s.finish_wrote d

/-- Such a run comes to the same again on the disk that it leaves, if it had no error of writing. -/
theorem again (h : WritesLast like c output f) (hc : c.PlainExtension) (hd : like d)
    (hafter : like (f d).disk) {r : Report} (hr : (f d).result = .ok r) (hx : r.exportErrors = []) :
    f (f d).disk = f d := by
  cases h with
  | idle log result h =>
    rw [h d hd]
    exact h d hd
  | writes log s r' hc' hdir h =>
    subst hc'
    have hwrite : f d = (write d s r').after log := h d hd
    rw [h _ hafter, hwrite]
    rw [hwrite, after_result] at hr
    exact congrArg (Outcome.after log) (write_again hc hr hx)

end WritesLast

/-! ## Each part of a run -/

variable {c : Config} {schema : Schema}

theorem generate_writesLast (o : Options) (schema : Schema) (c : Config) (output : Path) (r : Report) :
    WritesLast (fun _ => True) c output fun d => generate d o schema c output r := by
  -- a delivery comes to the same on each disk, so what it comes to is taken from an empty one
  let start : Disk := ⟨.dir [], []⟩
  have hsame (d : Disk) := (Session.new output c).deliver_anywhere start d schema
  have hi := (Session.new output c).deliver_idle start schema
  cases hf : ((Session.new output c).deliver start schema false).fault with
  | some f =>
    refine .idle (generate start o schema c output r).log (generate start o schema c output r).result
      fun d _ => ?_
    simp only [generate, hsame d, hf]
  | none =>
    cases ho : o.dryRun with
    | true =>
      refine .idle (generate start o schema c output r).log
        (generate start o schema c output r).result fun d _ => ?_
      simp only [generate, hsame d, hf, ho, if_true]
    | false =>
      let out := (Session.new output c).deliver start schema false
      refine .writes (Code.setupLog c ++ out.log ++ stopLog "code_generation") out.session
        (withCode r out.session none) hi.config hi.directory fun d _ => ?_
      simp only [generate, hsame d, hf, ho, Bool.false_eq_true, if_false, out]

theorem generateFrom_writesLast (cwd : List String) (o : Options) (schema : Schema) (c : Config)
    (output : Path) (r : Report) :
    WritesLast (fun d => d.cwd = cwd) c output fun d => generateFrom d o schema c output r := by
  -- the report tells the resolved directory, so the place where relative paths start does matter
  let start : Disk := ⟨.dir [], cwd⟩
  cases hn : output.fault? with
  | some t => exact .idle [] (.error (.text t)) fun d _ => by simp only [generateFrom, hn]
  | none =>
    have hresolve (d : Disk) (hd : d.cwd = cwd) : d.resolve output = start.resolve output := by
      rw [Disk.resolve, hd, Disk.resolve]
    cases hp : passes o (Validation.findings schema c) with
    | true =>
      let fs := Validation.findings schema c
      refine ((generate_writesLast o schema c output
        (withFindings { r with outputDirectory := (start.resolve output).text } o fs)).after
        (Validation.log schema c ++ stopLog "validation" ++ findingsLog fs)).congr fun d hd =>
          ⟨trivial, ?_⟩
      simp only [generateFrom, hn, hp, if_true, hresolve d hd, fs]
    | false =>
      refine .idle (generateFrom start o schema c output r).log
        (generateFrom start o schema c output r).result fun d hd => ?_
      simp only [generateFrom, hn, hp, Bool.false_eq_true, if_false, hresolve d hd]

/-- The disks have the same file for the path, and the same place where relative paths start. -/
structure SameSource (p : Path) (d d' : Disk) : Prop where
  cwd : d'.cwd = d.cwd
  file : ∃ content, d.file? p = some content ∧ d'.file? p = some content

section Files

variable {d d' : Disk} {p : Path} {settings : Value}

theorem load_congr (h : SameSource p d d') :
    Source.load d' p = Source.load d p ∧ Source.loadLog d' p = Source.loadLog d p := by
  obtain ⟨content, hd, hd'⟩ := h.file
  simp only [Source.load, Source.loadLog, hd, hd', Disk.entry?_of_file? hd,
    Disk.entry?_of_file? hd', and_self]

theorem runFile_writesLast (h : source? d p settings = some (schema, c)) (o : Options)
    (given : Option Path) :
    WritesLast (SameSource p d) c (outputPath given c) fun d => runFile d o p given settings := by
  obtain ⟨own, doc, hl, ho, hp⟩ := source?_eq_some_iff.mp h
  let r := ((Report.blank o.dryRun).addStep Stage.load.title true ("from " ++ p.name)).addStep
    Stage.parse.title true (sizes schema.types.size schema.methods.size)
  refine (((generateFrom_writesLast d.cwd o schema c (outputPath given c) r).after
    (Source.parseLog doc ++ stopLog "parse_schema")).after
    (Source.loadLog d p ++ stopLog "load_schema")).congr fun d' hd => ⟨hd.cwd, ?_⟩
  obtain ⟨hload, hlog⟩ := load_congr hd
  simp only [runFile, hload, hlog, hl, runDocument, ho, hp, r]

/-- The files with the code are named by single parts of paths, and the file at `p` is none of them. -/
structure Apart (d : Disk) (p output : Path) (c : Config) : Prop where
  plain : c.PlainExtension
  other : ∀ name ∈ [c.typesFile, c.methodsFile],
    p.resolve d.cwd ≠ (output.child name).resolve d.cwd

/-- A run for a file that writes all it shall write leaves the file, and comes to the same on the disk
that it leaves. -/
theorem runFile_again {o : Options} {given : Option Path} {r : Report}
    (hf : (d.file? p).isSome = true) (hs : source? d p settings = some (schema, c))
    (ha : Apart d p (outputPath given c) c) (hr : (runFile d o p given settings).result = .ok r)
    (hx : r.exportErrors = []) :
    SameSource p d (runFile d o p given settings).disk ∧
      runFile (runFile d o p given settings).disk o p given settings =
        runFile d o p given settings := by
  have hlast := runFile_writesLast hs o given
  obtain ⟨content, hcontent⟩ := Option.isSome_iff_exists.mp hf
  have hself : SameSource p d d := ⟨rfl, content, hcontent, hcontent⟩
  obtain ⟨files, hwrote, hkept⟩ := hlast.wrote hself
  have hfree : files.lookup (p.resolve d.cwd) = none :=
    hkept _ (ha.other _ (by simp)) (ha.other _ (by simp))
  have hsame : SameSource p d (runFile d o p given settings).disk :=
    ⟨hwrote.cwd, content, hcontent, hwrote.file?_eq hcontent hfree⟩
  exact ⟨hsame, hlast.again ha.plain hself hsame hr hx⟩

end Files

end Pipeline

namespace CommandLine

open Pipeline (Apart SameSource source?)

/-! ## Commands -/

variable {d : Disk} {p : Path} {a : Arguments} {stated : Value}

/-- A generation that succeeds is that of a run with a report, for a file with a schema. -/
theorem run_of_success (he : (generate d a p stated).ending = .ok .success) :
    let given := (outputPath a).map d.resolve
    let o : Pipeline.Options := ⟨true, a.failOnWarnings, a.dryRun⟩
    (outputPath a).bind Path.fault? = none ∧
      (∃ schema c, source? d p stated = some (schema, c)) ∧
      ∃ r, (Pipeline.runFile d o p given stated).result = .ok r ∧ exitOf r = .success := by
  intro given o
  rw [generate_ending_eq] at he
  split at he
  · cases he
  · next hn =>
    cases hr : (Pipeline.runFile d o p given stated).result with
    | error e =>
      rw [hr] at he
      cases he
    | ok r =>
      rw [hr] at he
      have hexit : exitOf r = .success := Except.ok.inj he
      refine ⟨hn, ?_, r, rfl, hexit⟩
      cases hs : source? d p stated with
      | none => cases hexit.symm.trans ((Pipeline.runFile_of_none o given hs).2 r hr).2.2
      | some read => exact ⟨read.1, read.2, rfl⟩

/-- A generation that succeeds leaves the file with the schema, and comes to the same on the disk that
it leaves. -/
theorem generate_again (hf : (d.file? p).isSome = true)
    (ha : ∀ s c, source? d p stated = some (s, c) →
      Apart d p (Pipeline.outputPath ((outputPath a).map d.resolve) c) c)
    (he : (generate d a p stated).ending = .ok .success) :
    SameSource p d (generate d a p stated).disk ∧
      generate (generate d a p stated).disk a p stated = generate d a p stated := by
  obtain ⟨hn, ⟨schema, c, hs⟩, r, hr, hexit⟩ := run_of_success he
  have hapart := ha schema c hs
  have hclean : r.exportErrors = [] := by
    obtain ⟨listed, htrue⟩ := (Pipeline.runFile_honest _ _ hapart.plain hs).report r hr
    have hsuccess := htrue.success
    rw [success_of_exit hexit, eq_comm, Bool.and_eq_true] at hsuccess
    exact List.isEmpty_iff.mp hsuccess.2
  obtain ⟨hsame, hagain⟩ := Pipeline.runFile_again hf hs hapart hr hclean
  have hdisk := generate_disk_eq (d := d) (p := p) stated hn
  have hresolve : (generate d a p stated).disk.resolve = d.resolve := by
    funext q
    rw [hdisk, Disk.resolve, hsame.cwd, Disk.resolve]
  rw [← hdisk] at hsame hagain
  refine ⟨hsame, ?_⟩
  -- of the disk that is left, the second run sees no more than these two facts tell
  generalize (generate d a p stated).disk = after at hagain hresolve
  simp only [generate, hn, hresolve, hagain]

theorem work_again {schema : String} (hv : a.validateOnly = false)
    (ha : ∀ s c, source? d (d.resolve (Path.ofString schema)) (settings a) = some (s, c) →
      Apart d (d.resolve (Path.ofString schema))
        (Pipeline.outputPath ((outputPath a).map d.resolve) c) c)
    (he : (work d schema a).ending = .ok .success) :
    work (work d schema a).disk schema a = work d schema a := by
  rcases work_cases d schema a with ⟨t, -, hw⟩ | ⟨-, -, log, hw⟩ | ⟨hn, hf, hw⟩
  · rw [hw] at he
    cases he
  · rw [hw] at he
    cases he
  · rw [hv, if_neg Bool.false_ne_true] at hw
    rw [hw] at he
    obtain ⟨hsame, hagain⟩ := generate_again hf ha he
    have hresolve : (generate d a (d.resolve (Path.ofString schema)) (settings a)).disk.resolve
        (Path.ofString schema) = d.resolve (Path.ofString schema) := by
      rw [Disk.resolve, hsame.cwd, Disk.resolve]
    obtain ⟨content, -, hcontent⟩ := hsame.file
    rw [hw]
    rcases work_cases (generate d a (d.resolve (Path.ofString schema)) (settings a)).disk schema a with
      ⟨t, hn', -⟩ | ⟨-, hnone, -⟩ | ⟨-, -, hw'⟩
    · cases hn.symm.trans hn'
    · rw [hresolve, hcontent] at hnone
      cases hnone
    · rw [hw', hv, if_neg Bool.false_ne_true, hresolve, hagain]

end CommandLine

open CommandLine (Exit request run settings)
open Pipeline (Apart outputPath source?)

/-- A command that has generated the code does nothing more when it is run again at the same time of
day: the disk remains as it is, the report and all that is told are the same, and so is the end. -/
theorem generation_idempotent (d : Disk) (time : String) (arguments : List String) {schema : String}
    {a : CommandLine.Arguments} (hr : request arguments = .ok (.work schema a))
    (hv : a.validateOnly = false)
    (ha : ∀ s c, source? d (d.resolve (Path.ofString schema)) (settings a) = some (s, c) →
      Apart d (d.resolve (Path.ofString schema))
        (outputPath ((CommandLine.outputPath a).map d.resolve) c) c)
    (he : (run d time arguments).ending.map Exit.code = .ok 0) :
    run (run d time arguments).disk time arguments = run d time arguments := by
  have hsuccess : (CommandLine.work d schema a).ending = .ok .success := by
    simp only [run, hr] at he
    cases hw : (CommandLine.work d schema a).ending with
    | error e =>
      rw [hw] at he
      cases he
    | ok e =>
      rw [hw] at he
      cases e <;> simp [Except.map, Exit.code] at he ⊢
  have hagain := CommandLine.work_again hv ha hsuccess
  simp only [run, hr, hagain]

/-- The document has neither types nor methods; the code is written beside it. -/
theorem documentDisk_idempotent :
    let arguments := ["-s", "s.json", "-o", "."]
    let first := run documentDisk "00:00:00" arguments
    first.ending.map Exit.code = .ok 0 ∧
      (first.disk.file? ⟨false, ["Types.swift"]⟩).isSome = true ∧
      run first.disk "00:00:00" arguments = first := by
  intro arguments first
  let a : CommandLine.Arguments :=
    { CommandLine.Arguments.none with schema := some "s.json", output := some "." }
  have hrequest : request arguments = .ok (.work "s.json" a) := by decide +kernel
  obtain ⟨hzero, hwritten⟩ : CommandLine.status first.ending = 0 ∧
      (first.disk.file? ⟨false, ["Types.swift"]⟩).isSome = true := by decide +kernel
  have hend : first.ending.map Exit.code = .ok 0 := by
    rw [CommandLine.status_eq_zero_iff.mp hzero]
    rfl
  have hsource : (source? documentDisk ⟨true, ["s.json"]⟩ (settings a)).map Prod.snd =
      some Config.usual := by decide +kernel
  have hpath : documentDisk.resolve (Path.ofString "s.json") = ⟨true, ["s.json"]⟩ := by
    decide +kernel
  refine ⟨hend, hwritten, generation_idempotent documentDisk "00:00:00" arguments hrequest rfl
    (fun schema c hs => ?_) hend⟩
  rw [hpath] at hs ⊢
  rw [hs] at hsource
  obtain rfl : c = Config.usual := Option.some.inj hsource
  exact ⟨⟨by decide, by decide⟩, by decide +kernel⟩

end ClientGen
