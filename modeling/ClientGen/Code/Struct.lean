import ClientGen.Decimal.Digits
import ClientGen.Schema
import ClientGen.Code.Accessor
import ClientGen.Text.Listed

/-!
# Structs

A type becomes a struct around a JSON value. Its fields come in the order of their wire names; a
field that is always true has no accessor but is part of the value that a new struct starts with.
-/

namespace ClientGen
namespace Code

/-- The pairs of wire names and true for the fields that are always true. -/
def trueDefaults (fields : List (String × Field)) : List String :=
  (fields.filter fun p => isLiteralTrue p.2).map fun p => "\"" ++ p.1 ++ "\": true"

/-- The JSON value that a new struct starts with. -/
def defaultsLiteral (fields : List (String × Field)) : String :=
  let defaults := trueDefaults fields
  if defaults.isEmpty then "[:]" else "[" ++ Text.listed defaults ++ "]"

/-- The name of the accessor of a field in the generated code. -/
def accessorName (c : Config) (owner : String) (p : String × Field) : String :=
  Identifier.camelized (c.accessorName owner p.1 p.2.type)

/-- The accessor of one field. -/
def accessor (c : Config) (owner : String) (p : String × Field) : Except Fault String :=
  match classify c owner p.1 p.2 with
  | .error u => .error (.unsupported u)
  | .ok k => Accessor.text k (accessorName c owner p) p.1 p.2

/-- The accessors of the fields that have one, each with an empty line behind it. -/
def accessors (c : Config) (owner : String) : List (String × Field) → Except Fault (List String)
  | [] => .ok []
  | p :: rest =>
    if isLiteralTrue p.2 then accessors c owner rest
    else
      match accessor c owner p with
      | .error e => .error e
      | .ok s =>
        match accessors c owner rest with
        | .error e => .error e
        | .ok ss => .ok (s :: "" :: ss)

/-- What is told about the fields up to the first one without accessor. -/
def accessorsLog (c : Config) (owner : String) : List (String × Field) → List Log.Record
  | [] => []
  | p :: rest =>
    if isLiteralTrue p.2 then accessorsLog c owner rest
    else
      classifyLog c owner p.1 p.2 ++
        match classify c owner p.1 p.2 with
        | .error _ => []
        | .ok _ => c.accessorLog owner p.1 p.2.type ++ accessorsLog c owner rest

/-- The first lines of a struct. -/
def structHead (name : String) : List String :=
  ["public struct " ++ name ++ ": JsonConvertible, InternalJsonConvertible \x7b",
    "    /// Original JSON for fields not yet added to Swift structures.",
    "    public var json: Any \x7b",
    "        get \x7b return internalJson.object \x7d",
    "        set \x7b internalJson = JSON(newValue) \x7d",
    "    \x7d",
    "    internal var internalJson: JSON",
    ""]

/-- The last lines of a struct. -/
def structTail (defaults : String) : List String :=
  ["    internal init(internalJson: JSON = " ++ defaults ++ ") \x7b",
    "        self.internalJson = internalJson",
    "    \x7d",
    "    public init() \x7b",
    "        self.internalJson = " ++ defaults,
    "    \x7d",
    "    public init(json: Any) \x7b",
    "        self.internalJson = JSON(json)",
    "    \x7d",
    "    public init(data: Data) \x7b",
    "        self.internalJson = JSON(data: data)",
    "    \x7d",
    "\x7d",
    "",
    "",
    ""]

/-- The struct of a type. -/
def structText (c : Config) (name : String) (t : TypeDef) : Except Fault String :=
  match accessors c name t.fields.sorted with
  | .error e => .error e
  | .ok members =>
    .ok (Text.unlines
      (structHead name ++ members ++ structTail (defaultsLiteral t.fields.sorted)))

/-- What is told when a struct is rendered. -/
def structLog (c : Config) (name : String) (t : TypeDef) : List Log.Record :=
  accessorsLog c name t.fields.sorted ++
    match structText c name t with
    | .error _ => []
    | .ok _ =>
      [⟨.debug, .rendering, "Rendered type '" ++ name ++ "': " ++ Decimal.text t.fields.size ++
        " fields, " ++ Decimal.text (trueDefaults t.fields.sorted).length ++
        " literal-true defaults."⟩]

end Code
end ClientGen
