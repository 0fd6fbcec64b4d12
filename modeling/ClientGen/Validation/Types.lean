import ClientGen.Code.Struct
import ClientGen.Validation.Issue

/-!
# Issues with types

The name of a type has to be free for a struct. The accessors of its fields have to be identifiers,
and no two members of the struct may have one name. Each field needs a template.
-/

namespace ClientGen
namespace Validation

/-- The issue with the name of a type, if there is one. -/
def typeNameIssue? (name : String) : Option Issue :=
  if !Identifier.isIdentifier name then some (.typeInvalid name)
  else if Identifier.isKeyword name then some (.typeReserved name)
  else if Code.isBuiltin name then some (.typeBuiltin name)
  else none

def typeNameIssues (s : Schema) : List Issue :=
  s.types.names.filterMap typeNameIssue?

/-- The members that every struct has besides its accessors. -/
def structMembers : List String := ["json", "internalJson"]

/-- The fields that have an accessor, in the order of their wire names. -/
def accessible (t : TypeDef) : List (String × Field) :=
  t.fields.sorted.filter fun p => !Code.isLiteralTrue p.2

/-- The issue with the accessor of a field, if there is one. -/
def accessorIssue? (c : Config) (type : String) (p : String × Field) : Option Issue :=
  let accessor := Code.accessorName c type p
  if !Identifier.isIdentifier accessor then some (.accessorInvalid type p.1 accessor)
  else if Identifier.isKeyword accessor then some (.accessorReserved type p.1 accessor)
  else none

/-- Who claims which member of a struct: the members that it has anyway and then its fields. -/
def memberClaims (c : Config) (type : String) (t : TypeDef) : List (String × String) :=
  structMembers.map (fun m => (m, "<generated>")) ++
    (accessible t).map fun p => (Code.accessorName c type p, p.1)

/-- The names claimed so far, each with its claimants in order, after one more claim. A name that is
claimed for the first time comes last. -/
def addClaim : List (String × List String) → String × String → List (String × List String)
  | [], claim => [(claim.1, [claim.2])]
  | (name, claimants) :: rest, claim =>
    if name = claim.1 then (name, claimants ++ [claim.2]) :: rest
    else (name, claimants) :: addClaim rest claim

/-- The claimed names, each with its claimants. -/
def claimed (claims : List (String × String)) : List (String × List String) :=
  claims.foldl addClaim []

/-- The names that more than one claims, each with its claimants. -/
def contested (claims : List (String × String)) : List (String × List String) :=
  (claimed claims).filter fun p => p.2.length > 1

/-- The issues with the accessors of one type. -/
def memberIssues (c : Config) (type : String) (t : TypeDef) : List Issue :=
  (accessible t).filterMap (accessorIssue? c type) ++
    (contested (memberClaims c type t)).map fun p => .accessorCollision type p.1 p.2

def fieldNameIssues (s : Schema) (c : Config) : List Issue :=
  s.types.toList.flatMap fun p => memberIssues c p.1 p.2

/-- The issue with the shape of a field: no template is for it. Under lenient settings it only gets
a warning. -/
def shapeIssue? (c : Config) (type : String) (p : String × Field) : Option Issue :=
  match Code.classify c.probe type p.1 p.2 with
  | .ok _ => none
  | .error u => some (.unsupported c.strict u)

/-- The issues with the shapes of the fields of one type. -/
def shapeIssues (c : Config) (type : String) (t : TypeDef) : List Issue :=
  (accessible t).filterMap (shapeIssue? c type)

def fieldShapeIssues (s : Schema) (c : Config) : List Issue :=
  s.types.toList.flatMap fun p => shapeIssues c p.1 p.2

end Validation
end ClientGen
