import ClientGen.Schema
import ClientGen.Validation.Issue

/-!
# Issues with methods

Methods and their parameters have to have identifiers as names, parameters of one method different
ones, and the types that they refer to should be known.
-/

namespace ClientGen
namespace Validation

/-- Whether a type is known: as a builtin one, from the schema or from the settings. -/
def isKnown (s : Schema) (c : Config) (type : String) : Bool :=
  Code.isBuiltin type || s.types.names.contains type || c.selfBridging.contains type

def parameterNameIssue? (method name : String) : Option Issue :=
  let argument := Identifier.camelized name
  if !Identifier.isIdentifier argument then some (.parameterInvalid method name argument)
  else if Identifier.isKeyword argument then some (.parameterReserved method name argument)
  else none

/-- The issue with a parameter whose name in the code was taken; `before` holds the parameters so
far, the last one first. -/
def parameterCollision? (method : String) (before : List String) (name : String) : Option Issue :=
  let argument := Identifier.camelized name
  (before.find? fun b => Identifier.camelized b == argument).map fun b =>
    .parameterCollision method b name argument

def parameterTypeIssue? (s : Schema) (c : Config) (method : String) (p : String × Field) :
    Option Issue :=
  if isKnown s c p.2.type then none else some (.parameterUnknown method p.1 p.2.type)

/-- The issues with the parameters that follow those in `before`. -/
def parameterIssues (s : Schema) (c : Config) (method : String) (before : List String) :
    List (String × Field) → List Issue
  | [] => []
  | p :: rest =>
    (parameterNameIssue? method p.1).toList ++ (parameterCollision? method before p.1).toList ++
      (parameterTypeIssue? s c method p).toList ++
      parameterIssues s c method (p.1 :: before) rest

def resultIssue? (s : Schema) (c : Config) (method : String) (result : Field) : Option Issue :=
  if isKnown s c result.type then none else some (.resultUnknown method result.type)

def methodNameIssue? (name : String) : Option Issue :=
  if Identifier.isIdentifier name then none else some (.methodInvalid name)

/-- The issues with one method. -/
def methodIssues (s : Schema) (c : Config) (name : String) (m : Method) : List Issue :=
  (methodNameIssue? name).toList ++ parameterIssues s c name [] m.parameters.sorted ++
    (resultIssue? s c name m.result).toList

def allMethodIssues (s : Schema) (c : Config) : List Issue :=
  s.methods.toList.flatMap fun p => methodIssues s c p.1 p.2

end Validation
end ClientGen
