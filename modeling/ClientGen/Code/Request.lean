import ClientGen.Code.Struct

/-!
# Requests

A method becomes two functions, one that waits for the answer and one that does not. Their parameters
come in the order of the wire names; a literal pairs the wire names with the arguments.
-/

namespace ClientGen
namespace Code

/-- One parameter in the list of a function. -/
def parameterItem (p : String × Field) : String :=
  Identifier.camelized p.1 ++ ": " ++ typeName p.2 ++ (if p.2.isOptional then " = nil" else "") ++ ","

/-- One pair of the literal of arguments. -/
def bridgingPair (p : String × Field) : String :=
  "\"" ++ p.1 ++ "\": " ++ Identifier.camelized p.1

/-- The depth of parameters. -/
def pad : String := "            "

/-- The pairs on lines of their own, with a comma behind each but the last. -/
def bridgingLines : List (String × Field) → String
  | [] => ""
  | [p] => pad ++ bridgingPair p
  | p :: rest => pad ++ bridgingPair p ++ ",\n" ++ bridgingLines rest

/-- The literal that pairs wire names with arguments. -/
def bridgingLiteral (parameters : List (String × Field)) : String :=
  if parameters.isEmpty then "[:]" else "[\n" ++ bridgingLines parameters ++ "]"

def completionName (name : String) : String :=
  Identifier.capitalized name ++ "Completion"

/-- The call that both functions make: the name, its usual parameters, those of the caller, and the
arguments. -/
def call (request name literal : String) : String :=
  "        return " ++ request ++ "(\"" ++ name ++ "\", defaultParameters[\"" ++ name ++
    "\"], parameters, " ++ literal

/-- The functions of a method, as lines. -/
def methodLines (name : String) (m : Method) : List String :=
  let parameters := m.parameters.sorted
  let signature := parameters.map fun p => pad ++ parameterItem p
  let result := typeName m.result
  let literal := bridgingLiteral parameters
  ["    typealias " ++ completionName name ++ " = (_ result: " ++ result ++
      ", _ error: DataTaskError?) -> ()",
    "",
    "    @discardableResult",
    "    func " ++ name ++ "Sync("] ++
  signature ++
  [pad ++ "_ parameters: [String: Any?] = [:]) -> " ++ result ++ " \x7b",
    call "requestSync" name literal ++ ")",
    "    \x7d",
    "",
    "    func " ++ name ++ "Async("] ++
  signature ++
  [pad ++ "_ parameters: [String: Any?] = [:],",
    pad ++ "queue: DispatchQueue = .main,",
    pad ++ "completion: " ++ completionName name ++ "? = nil) \x7b",
    call "requestAsync" name literal ++ ",",
    pad ++ "queue: queue, completion: completion)",
    "    \x7d",
    "",
    ""]

/-- The functions of a method. -/
def methodText (name : String) (m : Method) : String :=
  Text.unlines (methodLines name m)

/-- What is told when a method is rendered. -/
def methodLog (name : String) (m : Method) : List Log.Record :=
  [⟨.debug, .rendering, "Rendered method '" ++ name ++ "': " ++ Decimal.text m.parameters.size ++
    " parameters."⟩]

/-- The comment at the head of both files. -/
def banner (c : Config) : String :=
  "// This file is automatically generated by " ++ c.generatorName

/-- The head of the file with the types. -/
def typesHeader (c : Config) : String :=
  Text.unlines [banner c, "", "import Foundation", "", "", ""]

/-- The head of the file with the methods. It opens the extension of the client. -/
def methodsHeader (c : Config) : String :=
  Text.unlines [banner c, "", "", "import Foundation", "import Dispatch", "",
    "public extension " ++ c.clientType ++ " \x7b", "", ""]

/-- The end of the file with the methods. It closes the extension. -/
def methodsFooter : String :=
  "\n\x7d\n"

/-- What is told when the templates are set up. -/
def setupLog (c : Config) : List Log.Record :=
  [⟨.debug, .rendering, "SwiftTemplates initialised (client=" ++ c.clientType ++ ", strict=" ++
    Log.truth c.strict ++ ")."⟩]

end Code
end ClientGen
