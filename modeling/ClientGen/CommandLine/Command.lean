import ClientGen.CommandLine.Usage
import ClientGen.Pipeline.Run

/-!
# Commands

What a command line does to the files, what it prints, and how it ends. Reports go to the output, log
records and faults of the arguments to the error output; both take any text.
-/

namespace ClientGen
namespace CommandLine

open FileTree

/-- How a command ends. -/
inductive Exit
  | success
  | validationError
  | generationError
  | exportError
  | inputError
  | usageError
  deriving DecidableEq, Repr

/-- A generation that fails and arguments that are not understood end with the same number. -/
def Exit.code : Exit → Nat
  | .success => 0
  | .validationError => 1
  | .generationError => 2
  | .exportError => 3
  | .inputError => 4
  | .usageError => 2

/-- The number that a command ends with. One that has no end of its own has failed. -/
def status : Except Pipeline.Escape Exit → Nat
  | .ok e => e.code
  | .error _ => 1

/-- What came of a command whose arguments are understood. -/
structure Work where
  disk : Disk
  output : String
  log : List Log.Record
  ending : Except Pipeline.Escape Exit

def told (level : Log.Level) (message : String) : Log.Record :=
  ⟨level, .program, message⟩

/-- The settings that the arguments state. -/
def settings (a : Arguments) : Value :=
  let stated (name : String) (v : Option String) : List (Value × Value) :=
    (v.map fun s => (Value.text name, Value.text s)).toList
  .map (stated "file_extension" a.extension ++ stated "client_type" a.clientType ++
    if a.noStrict then [(.text "strict", .bool false)] else [])

/-! ## Validating only -/

/-- The report of a validation by itself. -/
def validationReport (p : Path) (s : Schema) (fs : Validation.Findings) : String :=
  let rule := String.ofList (List.replicate 50 '=')
  Text.unlines
    (["", rule, "  Schema Validation Report", rule,
      "  File:     " ++ p.name,
      "  Types:    " ++ Decimal.text s.types.size,
      "  Methods:  " ++ Decimal.text s.methods.size,
      "  Time:     " ++ (Decimal.Binary64.zero false).fixed 3 ++ "s",
      "  Valid:    " ++ (if fs.isValid then "Yes" else "No"),
      "",
      if fs.isEmpty then "  ✅ All validations passed!" else fs.report,
      rule, "", ""])

/-- Validates the schema in a file. -/
def validateOnly (d : Disk) (p : Path) (stated : Value) : Work :=
  let opening := told .info ("Running validation-only mode for: " ++ p.text) :: Source.loadLog d p
  match Source.load d p with
  | .error f =>
    if f.isRecoverable then
      ⟨d, "", opening ++ [told .error ("Failed to load schema: " ++ f.message)], .ok .inputError⟩
    else ⟨d, "", opening, .error (.load f)⟩
  | .ok doc =>
    match Pipeline.override doc stated with
    | .error e => ⟨d, "", opening, .error e⟩
    | .ok doc =>
      let opening := opening ++ Source.parseLog doc
      match Source.parse doc (.text p.text) with
      | .error f =>
        ⟨d, "", opening ++ [told .error ("Failed to parse schema: " ++ f.message)],
          .ok .inputError⟩
      | .ok (schema, c) =>
        let fs := Validation.findings schema c
        ⟨d, validationReport p schema fs,
          opening ++ Validation.log schema c ++ Pipeline.stopLog "validation",
          .ok (if fs.isValid then .success else .validationError)⟩

/-! ## Generating -/

/-- How a run with the given report ends. A fault before the validation is one of the input. -/
def exitOf (r : Pipeline.Report) : Exit :=
  if r.success then .success
  else if !r.validationErrors.isEmpty then .validationError
  else if !r.exportErrors.isEmpty then .exportError
  else if r.steps.any fun s =>
      !s.success &&
        (s.name == Pipeline.Stage.load.title || s.name == Pipeline.Stage.parse.title) then
    .inputError
  else .generationError

def closing : Exit → Log.Record
  | .success => told .info "Generation completed successfully."
  | e => told .error ("Generation failed with exit code " ++ Decimal.text e.code ++ ".")

/-- The directory that the arguments state. -/
def outputPath (a : Arguments) : Option Path :=
  (a.output.filter fun s => !s.isEmpty).map Path.ofString

/-- What is told before a generation. -/
def generationLog (a : Arguments) (p : Path) (output : Option Path) (o : Pipeline.Options) :
    List Log.Record :=
  [told .info ("Schema:  " ++ p.text),
    told .info ("Output:  " ++ (output.map Path.text).getD "(from config)"),
    told .info ("Strict:  " ++ Log.truth (!a.noStrict))] ++
  Pipeline.setupLog o ++
  if a.dryRun then [told .info "Dry-run mode: files will not be written to disk."] else []

/-- Generates the code for the schema in a file. -/
def generate (d : Disk) (a : Arguments) (p : Path) (stated : Value) : Work :=
  match (outputPath a).bind Path.fault? with
  | some f => ⟨d, "", [], .error (.text f)⟩
  | none =>
    let output := (outputPath a).map d.resolve
    let options : Pipeline.Options := ⟨true, a.failOnWarnings, a.dryRun⟩
    let opening := generationLog a p output options
    let o := Pipeline.runFile d options p output stated
    match o.result with
    | .error e => ⟨o.disk, "", opening ++ o.log, .error e⟩
    | .ok r =>
      ⟨o.disk, r.summary ++ "\n", opening ++ o.log ++ [closing (exitOf r)], .ok (exitOf r)⟩

/-! ## Commands -/

/-- Does what the arguments ask for. -/
def work (d : Disk) (schema : String) (a : Arguments) : Work :=
  let written := Path.ofString schema
  match written.fault? with
  | some f => ⟨d, "", [], .error (.text f)⟩
  | none =>
    let p := d.resolve written
    match d.entry? p with
    | none =>
      ⟨d, "", [told .error (Source.LoadFault.missing p.text).message], .ok .inputError⟩
    | some (.dir _) =>
      ⟨d, "", [told .error (Source.LoadFault.noFile p.text).message], .ok .inputError⟩
    | some (.file _) =>
      if a.validateOnly then validateOnly d p (settings a) else generate d a p (settings a)

/-- The level from which on records are shown. -/
def levelOf (verbosity : Nat) : Log.Level :=
  match verbosity with
  | 0 => .warning
  | 1 => .info
  | _ => .debug

/-- The records that are shown. -/
def shown (a : Arguments) (log : List Log.Record) : List Log.Record :=
  if a.quiet then [] else Log.atLeast (levelOf a.verbosity) log

/-- What came of a command. -/
structure Outcome where
  disk : Disk
  output : String
  errors : String
  ending : Except Pipeline.Escape Exit

/-- Runs a command at the given time of day. -/
def run (d : Disk) (time : String) (arguments : List String) : Outcome :=
  match request arguments with
  | .error f => ⟨d, "", faultText f, .ok .usageError⟩
  | .ok .help => ⟨d, helpText, "", .ok .success⟩
  | .ok .version => ⟨d, versionText, "", .ok .success⟩
  | .ok (.work schema a) =>
    let w := work d schema a
    ⟨w.disk, w.output, Text.concat ((shown a w.log).map fun r => r.line time), w.ending⟩

end CommandLine
end ClientGen
