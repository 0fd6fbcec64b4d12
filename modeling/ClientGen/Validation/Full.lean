import ClientGen.Log
import ClientGen.Validation.Methods
import ClientGen.Validation.Types

/-!
# Validation of a schema

All checks one after the other: the names of types, the accessors of their fields, the shapes of
their fields, and the methods.
-/

namespace ClientGen
namespace Validation

/-- All issues with a schema under the given settings. -/
def issues (s : Schema) (c : Config) : List Issue :=
  typeNameIssues s ++ fieldNameIssues s c ++ fieldShapeIssues s c ++ allMethodIssues s c

/-- What a validation finds. -/
def findings (s : Schema) (c : Config) : Findings :=
  (issues s c).map Issue.finding

/-- What a validation tells. -/
def log (s : Schema) (c : Config) : List Log.Record :=
  [⟨.info, .validation, "Validated " ++ Decimal.text s.types.size ++ " types and " ++
    Decimal.text s.methods.size ++ " methods: " ++ (findings s c).summary⟩]

end Validation
end ClientGen
