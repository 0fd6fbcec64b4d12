import ClientGen.Code.Kind
import ClientGen.Validation.Finding

/-!
# Issues

All that can be wrong with a schema whose form is right. Each issue has a code, a message and a
context, and is either an error or a warning.
-/

namespace ClientGen
namespace Validation

/-- What is wrong with a schema. -/
inductive Issue
  | typeInvalid (type : String)
  | typeReserved (type : String)
  | typeBuiltin (type : String)
  | accessorInvalid (type field accessor : String)
  | accessorReserved (type field accessor : String)
  | accessorCollision (type accessor : String) (claimants : List String)
  | unsupported (strict : Bool) (u : Code.Unsupported)
  | methodInvalid (method : String)
  | parameterInvalid (method parameter argument : String)
  | parameterReserved (method parameter argument : String)
  | parameterCollision (method earlier parameter argument : String)
  | parameterUnknown (method parameter type : String)
  | resultUnknown (method type : String)
  deriving DecidableEq, Repr

namespace Issue

def severity : Issue → Severity
  | .accessorReserved .. | .parameterReserved .. | .parameterUnknown .. | .resultUnknown .. =>
    .warning
  | .unsupported strict _ => if strict then .error else .warning
  | _ => .error

def code : Issue → String
  | .typeInvalid _ => "TYPE_NAME_INVALID"
  | .typeReserved _ => "TYPE_NAME_RESERVED"
  | .typeBuiltin _ => "TYPE_NAME_BUILTIN"
  | .accessorInvalid .. => "FIELD_NAME_INVALID"
  | .accessorReserved .. => "FIELD_NAME_RESERVED"
  | .accessorCollision .. => "FIELD_ACCESSOR_COLLISION"
  | .unsupported .. => "FIELD_UNSUPPORTED"
  | .methodInvalid _ => "METHOD_NAME_INVALID"
  | .parameterInvalid .. => "PARAM_NAME_INVALID"
  | .parameterReserved .. => "PARAM_NAME_RESERVED"
  | .parameterCollision .. => "PARAM_NAME_COLLISION"
  | .parameterUnknown .. => "PARAM_TYPE_UNKNOWN"
  | .resultUnknown .. => "RESULT_TYPE_UNKNOWN"

/-- The literal of a list of names. -/
def namesLiteral (names : List String) : String :=
  (Value.list (names.map .text)).literal

def message : Issue → String
  | .typeInvalid t => "Type name '" ++ t ++ "' is not a valid identifier."
  | .typeReserved t => "Type name '" ++ t ++ "' is a Swift keyword."
  | .typeBuiltin t => "Type name '" ++ t ++ "' shadows a built-in field type."
  | .accessorInvalid t f a =>
    "Field '" ++ t ++ "." ++ f ++ "' yields invalid accessor '" ++ a ++ "'."
  | .accessorReserved t f a =>
    "Accessor '" ++ a ++ "' of '" ++ t ++ "." ++ f ++ "' is a Swift keyword; add a rename rule."
  | .accessorCollision t a claimants =>
    "Fields " ++ namesLiteral claimants ++ " of '" ++ t ++ "' all map to accessor '" ++ a ++ "'."
  | .unsupported _ u => u.message
  | .methodInvalid m => "Method name '" ++ m ++ "' is not a valid identifier."
  | .parameterInvalid m p a =>
    "Parameter '" ++ m ++ "." ++ p ++ "' yields invalid name '" ++ a ++ "'."
  | .parameterReserved m p a =>
    "Parameter '" ++ m ++ "." ++ p ++ "' maps to Swift keyword '" ++ a ++ "'."
  | .parameterCollision m earlier p a =>
    "Parameters '" ++ earlier ++ "' and '" ++ p ++ "' of '" ++ m ++ "' both map to '" ++ a ++ "'."
  | .parameterUnknown m p t =>
    "Parameter '" ++ m ++ "." ++ p ++ "' uses type '" ++ t ++ "' which the schema does not define."
  | .resultUnknown m t =>
    "Method '" ++ m ++ "' returns '" ++ t ++ "' which the schema does not define."

/-- What the issue is about, by name. -/
def subjects : Issue → List (String × String)
  | .typeInvalid t | .typeReserved t | .typeBuiltin t => [("type", t)]
  | .accessorInvalid t f a | .accessorReserved t f a =>
    [("type", t), ("field", f), ("accessor", a)]
  | .accessorCollision t a _ => [("type", t), ("accessor", a)]
  | .unsupported _ u =>
    [("type", u.owner), ("field", u.fieldName), ("shape", u.field.shorthand)]
  | .methodInvalid m | .resultUnknown m _ => [("method", m)]
  | .parameterInvalid m p _ | .parameterReserved m p _ | .parameterUnknown m p _ =>
    [("method", m), ("parameter", p)]
  | .parameterCollision m _ _ a => [("method", m), ("local", a)]

def finding (i : Issue) : Finding :=
  ⟨i.severity, i.code, i.message, i.subjects.map fun p => (p.1, .text p.2)⟩

end Issue
end Validation
end ClientGen
