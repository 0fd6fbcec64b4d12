import ClientGen.FileTree.Write
import ClientGen.Json.Reader
import ClientGen.Text.Case
import ClientGen.Yaml.Content

/-!
# Loading a schema document

A document is a file with JSON or YAML in it; which of both follows from the name of the file. Its
top is a mapping.
-/

namespace ClientGen
namespace Source

open FileTree

/-- The entries of a document. -/
abbrev Document := List (Value × Value)

/-- Why a document cannot be loaded. -/
inductive LoadFault
  | missing (path : String)
  | noFile (path : String)
  | encoding (f : Text.Utf8.Fault)
  | json (path : String) (text : List Char) (f : Json.Fault)
  | jsonTop (kind : String)
  | yaml (path : String) (f : Yaml.Fault)
  | yamlTop (kind : String)

/-- What is wrong with bytes that are no text. -/
def encodingReason : Text.Utf8.Problem → String
  | .start => "invalid start byte"
  | .continuation => "invalid continuation byte"
  | .truncated => "unexpected end of data"

def encodingMessage (f : Text.Utf8.Fault) : String :=
  let place :=
    if f.first = f.last then
      "byte 0x" ++ String.ofList (Text.hex 2 f.byte.toNat) ++ " in position " ++ Decimal.text f.first
    else "bytes in position " ++ Decimal.text f.first ++ "-" ++ Decimal.text f.last
  "'utf-8' codec can't decode " ++ place ++ ": " ++ encodingReason f.problem

namespace LoadFault

def message : LoadFault → String
  | .missing p => "Schema file not found: " ++ p
  | .noFile p => "Schema path is not a file: " ++ p
  | .encoding f => encodingMessage f
  | .json p cs f => "Invalid JSON in " ++ p ++ ": " ++ f.message cs
  | .jsonTop kind => "Expected a JSON object at top level, got " ++ kind ++ "."
  | .yaml p .malformed => "Invalid YAML in " ++ p ++ ": " ++ Yaml.Fault.malformed.message
  | .yaml _ f => f.message
  | .yamlTop kind => "Expected a YAML mapping at top level, got " ++ kind ++ "."

/-- Whether a report can hold the fault. -/
def isRecoverable : LoadFault → Bool
  | .yaml _ f => f.isRecoverable
  | _ => true

end LoadFault

/-- The formats of documents. -/
inductive Format
  | json
  | yaml
  deriving DecidableEq, Repr

/-- The last part of a file name that tells the format, in lower case. -/
def formatSuffix (p : Path) : String :=
  String.ofList (Text.lower p.suffix.toList)

/-- The format of a file, if its name tells it. -/
def format? (p : Path) : Option Format :=
  let suffix := formatSuffix p
  if suffix == ".yaml" || suffix == ".yml" then some .yaml
  else if suffix == ".json" then some .json
  else none

/-- The entries of a text. -/
def read (format : Format) (p : Path) (cs : List Char) : Except LoadFault Document :=
  match format with
  | .json =>
    match Json.read cs with
    | .ok (.map entries) => .ok entries
    | .ok v => .error (.jsonTop v.kind)
    | .error f => .error (.json p.text cs f)
  | .yaml =>
    match Yaml.read cs with
    | .ok (.map entries) => .ok entries
    | .ok v => .error (.yamlTop v.kind)
    | .error f => .error (.yaml p.text f)

/-- The document in a file. A file of unknown format is read as YAML. -/
def load (d : Disk) (p : Path) : Except LoadFault Document :=
  match d.entry? p with
  | none => .error (.missing p.text)
  | some (.dir _) => .error (.noFile p.text)
  | some (.file content) =>
    match Text.Utf8.decode content with
    | .error f => .error (.encoding f)
    | .ok cs => read ((format? p).getD .yaml) p (Text.unifyBreaks cs)

/-- What is told when a document is loaded: that its format is unknown. -/
def loadLog (d : Disk) (p : Path) : List Log.Record :=
  match d.file? p, format? p with
  | some _, none =>
    [⟨.info, .pipeline, "Unknown extension '" ++ formatSuffix p ++ "' — parsing as YAML."⟩]
  | _, _ => []

end Source
end ClientGen
