import ClientGen.Pipeline.Report
import ClientGen.Session
import ClientGen.Source.Parse
import ClientGen.Stopwatch
import ClientGen.Validation.Full

/-!
# Runs

A run loads and reads a document, validates the schema, renders the code and writes the files. What
goes wrong is held by the report and ends the run; only a few faults leave no report at all.
-/

namespace ClientGen
namespace Pipeline

open FileTree

/-- How strict a run is and whether it writes anything. -/
structure Options where
  strict : Bool
  failOnWarnings : Bool
  dryRun : Bool

/-- The steps of a run in order. -/
inductive Stage
  | load
  | parse
  | validate
  | generate
  | write
  deriving DecidableEq, Repr

def Stage.title : Stage → String
  | .load => "Load Schema File"
  | .parse => "Parse Schema"
  | .validate => "Validate Schema"
  | .generate => "Code Generation"
  | .write => "Write Files"

/-- What ends a run without a report. -/
inductive Escape
  /-- The name of a place, or the text of a file, cannot be handed to the system. -/
  | text (f : TextFault)
  | load (f : Source.LoadFault)
  | parse (f : Source.ParseFault)
  /-- The settings of the document are not the mapping that the stated ones could be put into. -/
  | noMapping (kind : String)

def Escape.message : Escape → String
  | .text f => f.message
  | .load f => f.message
  | .parse f => f.message
  | .noMapping kind => "'" ++ kind ++ "' object is not a mapping"

/-- What came of a run. -/
structure Outcome where
  disk : Disk
  log : List Log.Record
  result : Except Escape Report

/-- The outcome with records before its own. -/
def Outcome.after (log : List Log.Record) (o : Outcome) : Outcome :=
  { o with log := log ++ o.log }

def stopLog (label : String) : List Log.Record :=
  (Stopwatch.still label).log

/-- What is told when a run is set up. -/
def setupLog (o : Options) : List Log.Record :=
  [⟨.debug, .pipeline, "GenerationPipeline initialised: strict=" ++ Log.truth o.strict ++
    ", fail_on_warnings=" ++ Log.truth o.failOnWarnings ++ ", dry_run=" ++ Log.truth o.dryRun ++
    "."⟩]

/-- The numbers of types and methods. -/
def sizes (types methods : Nat) : String :=
  Decimal.text types ++ " types, " ++ Decimal.text methods ++ " methods"

/-! ## Writing -/

def writeDetail (r : Report) : String :=
  Decimal.text r.filesWritten.length ++ " files, " ++ Decimal.groupedSigned r.totalBytes ++
    " bytes"

/-- The error of a write as a report holds it. -/
def exportError (f : FileTree.Fault) : String :=
  f.problem.word ++ ": " ++ f.message

/-- The number of bytes that a session has written. -/
def writtenBytes (s : Session) : Nat :=
  s.written.foldr (fun p n => p.2 + n) 0

/-- The report with the files that a session has written and the fault that stopped it, if any. -/
def withFiles (r : Report) (s : Session) (fault : Option FileTree.Fault) : Report :=
  let r : Report := { r with
    filesWritten := s.written.map fun p => p.1.text
    totalBytes := writtenBytes s
    exportErrors := (fault.map exportError).toList }
  r.addStep Stage.write.title fault.isNone (writeDetail r)

/-- Writes the files of a session. -/
def write (d : Disk) (s : Session) (r : Report) : Outcome :=
  let o := s.finish d
  match o.fault with
  | none => ⟨o.disk, o.log ++ stopLog "write", .ok (withFiles r o.session none).finished⟩
  | some f =>
    match f.problem with
    | .text t => ⟨o.disk, o.log ++ stopLog "write", .error (.text t)⟩
    | _ =>
      let failed : Log.Record := ⟨.error, .pipeline, "Writing output failed: " ++ f.message⟩
      ⟨o.disk, o.log ++ failed :: stopLog "write",
        .ok (withFiles r o.session (some f)).finished⟩

/-! ## Rendering -/

/-- The error of rendering as a report holds it. -/
def generationError : Session.Fault → String
  | .code (.unsupported u) => u.message
  | .code (.noScalar type) => type
  | .file f => f.message

/-- The number of lines in both files. -/
def totalLines (s : Session) : Nat :=
  s.rendered.foldr (fun p n => Text.countLines p.2 + n) 0

/-- The report with the code of a session and the fault that stopped it, if any. -/
def withCode (r : Report) (s : Session) (fault : Option Session.Fault) : Report :=
  let total := totalLines s
  let r := { r with
    totalTypes := s.typeCount
    totalMethods := s.methodCount
    rendered := s.rendered
    totalLines := total
    generationErrors := (fault.map generationError).toList }
  r.addStep Stage.generate.title fault.isNone
    (sizes s.typeCount s.methodCount ++ ", ~" ++ Decimal.grouped total ++ " lines")

/-- Renders the code, and writes the files unless the run is a dry one. -/
def generate (d : Disk) (o : Options) (schema : Schema) (c : Config) (output : Path) (r : Report) :
    Outcome :=
  let out := (Session.new output c).deliver d schema false
  let log := Code.setupLog c ++ out.log
  let report := withCode r out.session out.fault
  match out.fault with
  | some f =>
    let aborted : Log.Record := ⟨.error, .pipeline, "Generation aborted: " ++ generationError f⟩
    ⟨out.disk, log ++ aborted :: stopLog "code_generation", .ok report.finished⟩
  | none =>
    if o.dryRun then
      let skipped : Log.Record :=
        ⟨.info, .pipeline, "Dry run: " ++ Decimal.text report.rendered.length ++
          " files rendered, none written."⟩
      ⟨out.disk, log ++ stopLog "code_generation" ++ [skipped], .ok report.finished⟩
    else (write out.disk out.session report).after (log ++ stopLog "code_generation")

/-! ## Validating -/

def validationDetail (fs : Validation.Findings) : String :=
  if !fs.errors.isEmpty then Decimal.text fs.errors.length ++ " error(s)"
  else if !fs.warnings.isEmpty then Decimal.text fs.warnings.length ++ " warning(s)"
  else "all checks passed"

/-- What is told about the findings: all errors, or all warnings if there are no errors. -/
def findingsLog (fs : Validation.Findings) : List Log.Record :=
  if fs.isValid then
    fs.warnings.map fun f => ⟨.warning, .pipeline, "  ⚠ " ++ f.text⟩
  else
    ⟨.error, .pipeline, "Validation failed with " ++ Decimal.text fs.errors.length ++
      " error(s)."⟩ :: fs.errors.map fun f => ⟨.error, .pipeline, "  ✗ " ++ f.text⟩

/-- Whether warnings count as errors and there are some. -/
def warningsFail (o : Options) (fs : Validation.Findings) : Bool :=
  o.failOnWarnings && fs.isValid && !fs.warnings.isEmpty

/-- The report with the findings of the validation. -/
def withFindings (r : Report) (o : Options) (fs : Validation.Findings) : Report :=
  let r := { r with
    validationErrors := fs.errors.map Validation.Finding.text ++
      if warningsFail o fs then
        [Decimal.text fs.warnings.length ++ " warning(s) treated as errors."]
      else []
    validationWarnings := fs.warnings.map Validation.Finding.text }
  r.addStep Stage.validate.title fs.isValid (validationDetail fs)

/-- Whether the run goes on after the validation. -/
def passes (o : Options) (fs : Validation.Findings) : Bool :=
  !o.strict || (fs.isValid && !warningsFail o fs)

/-- The run from the validation on. -/
def generateFrom (d : Disk) (o : Options) (schema : Schema) (c : Config) (output : Path)
    (r : Report) : Outcome :=
  match output.fault? with
  | some f => ⟨d, [], .error (.text f)⟩
  | none =>
    let fs := Validation.findings schema c
    let log := Validation.log schema c ++ stopLog "validation" ++ findingsLog fs
    let report := withFindings { r with outputDirectory := (d.resolve output).text } o fs
    if passes o fs then (generate d o schema c output report).after log
    else ⟨d, log, .ok report.finished⟩

/-- The directory for the files: the given one, or that of the settings. -/
def outputPath (output : Option Path) (c : Config) : Path :=
  output.getD (Path.ofString c.outputDir)

/-- A run for a schema and settings. -/
def run (d : Disk) (o : Options) (schema : Schema) (c : Config) (output : Option Path) : Outcome :=
  generateFrom d o schema c (outputPath output c) (Report.blank o.dryRun)

/-! ## Loading -/

/-- The document with settings put over its own. -/
def override (doc : Source.Document) (settings : Value) : Except Escape Source.Document :=
  if !settings.isGiven then .ok doc
  else
    match Source.sectionOf doc "config", settings with
    | .map own, .map stated =>
      .ok (Value.put (.text "config")
        (.map (stated.foldl (fun es e => Value.put e.1 e.2 es) own)) doc)
    | .map _, v => .error (.noMapping v.typeName)
    | v, _ => .error (.noMapping v.typeName)

/-- A report whose last step failed. -/
def failed (r : Report) (stage : Stage) (message : String) : Report :=
  ({ r with generationErrors := [message] }.addStep stage.title false message).finished

/-- A run for a document that is loaded. -/
def runDocument (d : Disk) (o : Options) (doc : Source.Document) (file : String)
    (output : Option Path) (settings : Value) (r : Report) : Outcome :=
  match override doc settings with
  | .error e => ⟨d, stopLog "parse_schema", .error e⟩
  | .ok doc =>
    let log := Source.parseLog doc ++ stopLog "parse_schema"
    match Source.parse doc (.text file) with
    | .error f => ⟨d, log, .ok (failed r .parse f.message)⟩
    | .ok (schema, c) =>
      let r := r.addStep Stage.parse.title true (sizes schema.types.size schema.methods.size)
      (generateFrom d o schema c (outputPath output c) r).after log

/-- A run for a file, with settings put over those in the file. -/
def runFile (d : Disk) (o : Options) (p : Path) (output : Option Path) (settings : Value) :
    Outcome :=
  let log := Source.loadLog d p ++ stopLog "load_schema"
  let r := Report.blank o.dryRun
  match Source.load d p with
  | .error f =>
    if f.isRecoverable then ⟨d, log, .ok (failed r .load f.message)⟩
    else ⟨d, log, .error (.load f)⟩
  | .ok doc =>
    let r := r.addStep Stage.load.title true ("from " ++ p.name)
    (runDocument d o doc p.text output settings r).after log

end Pipeline
end ClientGen
