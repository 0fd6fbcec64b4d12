import ClientGen.Decimal.Written
import ClientGen.Text.Lines

/-!
# Reports

What a run tells when it is over: its steps, its totals, the files written, and everything that went
wrong.
-/

namespace ClientGen
namespace Pipeline

open Decimal

/-- The outcome of one step. -/
structure Step where
  name : String
  success : Bool
  seconds : Binary64
  detail : String

structure Report where
  success : Bool
  outputDirectory : String
  dryRun : Bool
  totalTypes : Int
  totalMethods : Int
  totalLines : Int
  totalBytes : Int
  seconds : Binary64
  filesWritten : List String
  rendered : List (String × String)
  steps : List Step
  validationErrors : List String
  validationWarnings : List String
  generationErrors : List String
  exportErrors : List String

namespace Report

/-- A report before the first step. -/
def blank (dryRun : Bool) : Report where
  success := false
  outputDirectory := ""
  dryRun := dryRun
  totalTypes := 0
  totalMethods := 0
  totalLines := 0
  totalBytes := 0
  seconds := Binary64.zero false
  filesWritten := []
  rendered := []
  steps := []
  validationErrors := []
  validationWarnings := []
  generationErrors := []
  exportErrors := []

/-- The text with spaces behind it up to the given width. -/
def padRight (width : Nat) (s : String) : String :=
  s ++ String.ofList (Text.spaces (width - s.length))

/-- The text with spaces before it up to the given width. -/
def padLeft (width : Nat) (s : String) : String :=
  String.ofList (Text.spaces (width - s.length)) ++ s

/-- A line across the report. -/
def rule (c : Char) : String :=
  String.ofList (List.replicate 60 c)

def stepLine (s : Step) : String :=
  "    " ++ (if s.success then "✓" else "✗") ++ " " ++ padRight 22 s.name ++ " " ++
    padLeft 7 (s.seconds.fixed 3) ++ "s  " ++ s.detail

def stepLines (steps : List Step) : List String :=
  if steps.isEmpty then [] else "  Pipeline Steps:" :: steps.map stepLine

/-- A list of messages under its title, if there are any. -/
def listing (title mark : String) (items : List String) : List String :=
  if items.isEmpty then []
  else
    [rule '─', "  " ++ title ++ " (" ++ Decimal.text items.length ++ "):"] ++
      items.map fun i => "    " ++ mark ++ " " ++ i

/-- The report as lines. -/
def lines (r : Report) : List String :=
  [rule '=', "  Rapier — Generation Report", rule '=',
    "  Status:           " ++ (if r.success then "✅ SUCCESS" else "❌ FAILED"),
    "  Output:           " ++ r.outputDirectory] ++
  (if r.dryRun then ["  Mode:             dry run (nothing written)"] else []) ++
  ["  Types:            " ++ signed r.totalTypes,
    "  Methods:          " ++ signed r.totalMethods,
    "  Total lines:      " ++ groupedSigned r.totalLines,
    "  Total bytes:      " ++ groupedSigned r.totalBytes,
    "  Total time:       " ++ r.seconds.fixed 3 ++ "s",
    rule '─'] ++
  stepLines r.steps ++
  listing "Validation Errors" "✗" r.validationErrors ++
  listing "Validation Warnings" "⚠" r.validationWarnings ++
  listing "Generation Errors" "✗" r.generationErrors ++
  listing "Export Errors" "✗" r.exportErrors ++
  [rule '=']

def summary (r : Report) : String :=
  Text.unlines r.lines

/-- The report at the end of a run: it is a success if nothing went wrong. -/
def finished (r : Report) : Report :=
  { r with
    success :=
      r.validationErrors.isEmpty && r.generationErrors.isEmpty && r.exportErrors.isEmpty }

/-- The report after one more step. -/
def addStep (r : Report) (name : String) (success : Bool) (detail : String) : Report :=
  { r with steps := r.steps ++ [⟨name, success, Binary64.zero false, detail⟩] }

end Report
end Pipeline
end ClientGen
