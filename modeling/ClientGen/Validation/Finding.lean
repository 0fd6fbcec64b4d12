import ClientGen.Decimal.Digits
import ClientGen.Text.Lines
import ClientGen.Value.Literal

/-!
# Findings

What a validation has to say, in the order in which it was found. A finding is an error or a warning;
a schema without errors is valid. The context of a finding names what it is about.
-/

namespace ClientGen
namespace Validation

inductive Severity
  | error
  | warning
  deriving DecidableEq, Repr

namespace Severity

def word : Severity → String
  | .error => "error"
  | .warning => "warning"

def label : Severity → String
  | .error => "ERROR"
  | .warning => "WARNING"

def mark : Severity → String
  | .error => "✗"
  | .warning => "⚠"

end Severity

structure Finding where
  severity : Severity
  code : String
  message : String
  context : List (String × Value)

namespace Finding

def isError (f : Finding) : Bool :=
  f.severity == .error

def isWarning (f : Finding) : Bool :=
  f.severity == .warning

/-- The finding in one line. -/
def text (f : Finding) : String :=
  "[" ++ f.severity.label ++ "] " ++ f.code ++ ": " ++ f.message

/-- The finding in a report, with its context below it. -/
def reportLines (f : Finding) : List String :=
  ("  " ++ f.severity.mark ++ " [" ++ f.code ++ "] " ++ f.message) ::
    f.context.map fun p => "       " ++ p.1 ++ ": " ++ p.2.shown

end Finding

abbrev Findings := List Finding

namespace Findings

def errors (fs : Findings) : Findings :=
  fs.filter Finding.isError

def warnings (fs : Findings) : Findings :=
  fs.filter Finding.isWarning

def codes (fs : Findings) : List String :=
  fs.map Finding.code

def isValid (fs : Findings) : Bool :=
  fs.errors.isEmpty

/-- The numbers of errors and warnings. -/
def summary (fs : Findings) : String :=
  "Validation: " ++ Decimal.text fs.errors.length ++ " error(s), " ++
    Decimal.text fs.warnings.length ++ " warning(s)."

/-- The summary, an empty line and the findings. -/
def report (fs : Findings) : String :=
  Text.unlines (fs.summary :: "" :: fs.flatMap Finding.reportLines)

end Findings
end Validation
end ClientGen
