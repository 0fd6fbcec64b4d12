import ClientGen.Code.Kind
import ClientGen.Text.Lines

/-!
# Accessors

The accessor of a field is a variable of the struct that reads and writes the JSON value under the
wire name. Each template is a list of lines, which stand one step to the right in the struct.
-/

namespace ClientGen
namespace Code

/-- Why a part of the code cannot be rendered. -/
inductive Fault
  | unsupported (u : Unsupported)
  | noScalar (type : String)
  deriving DecidableEq, Repr

/-- The spelling of a type: brackets for each depth and a question mark if the value may be absent.
What is always true is a truth value. -/
def typeName (f : Field) : String :=
  let base := if isLiteralTrue f then "Bool" else f.type
  let body :=
    if f.isNested then "[[" ++ base ++ "]]" else if f.isArray then "[" ++ base ++ "]" else base
  body ++ if f.isOptional then "?" else ""

namespace Accessor

/-- The JSON value under a wire name. -/
def slot (key : String) : String :=
  "internalJson[\"" ++ key ++ "\"]"

/-- The declaration of a variable. -/
def declared (accessor type : String) : String :=
  "public var " ++ accessor ++ ": " ++ type

/-- The declaration of a variable with a body. -/
def opened (accessor type : String) : String :=
  declared accessor type ++ " \x7b"

/-- A getter on one line. -/
def getter (body : String) : String :=
  "    get \x7b return " ++ body ++ " \x7d"

/-- A setter on one line. -/
def setter (body : String) : String :=
  "    set \x7b " ++ body ++ " \x7d"

def scalar (stem accessor key : String) (f : Field) : List String :=
  let property := slot key ++ "." ++ stem ++ if f.isOptional then "" else "Value"
  [opened accessor (f.type ++ if f.isOptional then "?" else ""),
    getter property,
    setter (property ++ " = newValue"),
    "\x7d"]

def dateOptional (accessor key : String) : List String :=
  [opened accessor "Date?",
    "    get \x7b",
    "        guard let date = " ++ slot key ++ ".double else \x7b return nil \x7d",
    "        return Date(timeIntervalSince1970: date)",
    "    \x7d",
    "    set \x7b",
    "        " ++ slot key ++ ".double = newValue?.timeIntervalSince1970",
    "    \x7d",
    "\x7d"]

def dateRequired (accessor key : String) : List String :=
  [opened accessor "Date",
    getter ("Date(timeIntervalSince1970: " ++ slot key ++ ".doubleValue)"),
    setter (slot key ++ ".double = newValue.timeIntervalSince1970"),
    "\x7d"]

/-- Stores rows of structs one by one. -/
def storeRows (key : String) : List String :=
  ["        var rowsJson = [JSON]()",
    "        rowsJson.reserveCapacity(newValue.count)",
    "        for row in newValue \x7b",
    "            var colsJson = [JSON]()",
    "            colsJson.reserveCapacity(row.count)",
    "            for col in row \x7b",
    "                colsJson.append(col.internalJson)",
    "            \x7d",
    "            rowsJson.append(JSON(colsJson))",
    "        \x7d",
    "        " ++ slot key ++ " = JSON(rowsJson)"]

def arrayOfArrayOptional (accessor key : String) (f : Field) : List String :=
  [opened accessor ("[[" ++ f.type ++ "]]"),
    getter (slot key ++ ".twoDArrayValue()"),
    "    set \x7b",
    "        if newValue.isEmpty \x7b",
    "            " ++ slot key ++ " = JSON.null",
    "            return",
    "        \x7d"] ++ storeRows key ++ ["    \x7d", "\x7d"]

def arrayOfArrayRequired (accessor key : String) (f : Field) : List String :=
  [opened accessor ("[[" ++ f.type ++ "]]"),
    getter (slot key ++ ".twoDArrayValue()"),
    "    set \x7b"] ++ storeRows key ++ ["    \x7d", "\x7d"]

def arrayOptional (accessor key : String) (f : Field) : List String :=
  [opened accessor ("[" ++ f.type ++ "]"),
    getter (slot key ++ ".customArrayValue()"),
    setter (slot key ++ " = newValue.isEmpty ? JSON.null : JSON.initFrom(newValue)"),
    "\x7d"]

def arrayRequired (accessor key : String) (f : Field) : List String :=
  [opened accessor ("[" ++ f.type ++ "]"),
    getter (slot key ++ ".customArrayValue()"),
    setter (slot key ++ " = JSON.initFrom(newValue)"),
    "\x7d"]

/-- A variant cannot be read back, because it is not known which case was sent. -/
def variantContent (accessor key : String) (f : Field) : List String :=
  let stored :=
    if f.isOptional then "JSON(newValue?.json ?? JSON.null)" else "JSON(newValue.json)"
  [opened accessor (f.type ++ if f.isOptional then "?" else ""),
    "    get \x7b",
    "        fatalError(\"Not implemented\")",
    "    \x7d",
    "    set \x7b",
    "        " ++ slot key ++ " = " ++ stored,
    "    \x7d",
    "\x7d"]

def selfBridging (accessor : String) (f : Field) : List String :=
  [declared accessor f.type ++ if f.isOptional then "? = nil" else ""]

def nestedObject (accessor key : String) (f : Field) : List String :=
  if f.isOptional then
    [opened accessor (f.type ++ "?"),
      "    get \x7b",
      "        let value = " ++ slot key,
      "        return value.isNullOrUnknown ? nil : " ++ f.type ++ "(internalJson: value)",
      "    \x7d",
      "    set \x7b",
      "        " ++ slot key ++ " = newValue?.internalJson ?? JSON.null",
      "    \x7d",
      "\x7d"]
  else
    [opened accessor f.type,
      getter (f.type ++ "(internalJson: " ++ slot key ++ ")"),
      setter (slot key ++ " = JSON(newValue.json)"),
      "\x7d"]

/-- The lines of a template. Only a scalar type has the property that the first one needs. -/
def lines (k : Kind) (accessor key : String) (f : Field) : Except Fault (List String) :=
  match k with
  | .scalar =>
    match stem? f.type with
    | some stem => .ok (scalar stem accessor key f)
    | none => .error (.noScalar f.type)
  | .dateOptional => .ok (dateOptional accessor key)
  | .dateRequired => .ok (dateRequired accessor key)
  | .arrayOfArrayOptional => .ok (arrayOfArrayOptional accessor key f)
  | .arrayOfArrayRequired => .ok (arrayOfArrayRequired accessor key f)
  | .arrayOptional => .ok (arrayOptional accessor key f)
  | .arrayRequired => .ok (arrayRequired accessor key f)
  | .variantContent => .ok (variantContent accessor key f)
  | .selfBridging => .ok (selfBridging accessor f)
  | .nestedObject => .ok (nestedObject accessor key f)

/-- The accessor as part of a struct. -/
def text (k : Kind) (accessor key : String) (f : Field) : Except Fault String :=
  match lines k accessor key f with
  | .ok ls => .ok (Text.indent (Text.unlines ls) 1 4)
  | .error e => .error e

end Accessor
end Code
end ClientGen
