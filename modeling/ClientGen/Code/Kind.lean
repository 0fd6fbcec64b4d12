import ClientGen.Config
import ClientGen.Field.Basic
import ClientGen.Identifier

/-!
# Kinds of fields

A field of a struct gets its accessor from one of ten templates. Which one follows from the shape of
the field and from the settings. A shape that no template is for is refused by strict settings; else
it is treated as a struct inside the struct.
-/

namespace ClientGen
namespace Code

/-- The templates for accessors. -/
inductive Kind
  | scalar
  | dateOptional
  | dateRequired
  | arrayOfArrayOptional
  | arrayOfArrayRequired
  | arrayOptional
  | arrayRequired
  | variantContent
  | selfBridging
  | nestedObject
  deriving DecidableEq, Repr

def Kind.all : List Kind :=
  [.scalar, .dateOptional, .dateRequired, .arrayOfArrayOptional, .arrayOfArrayRequired,
    .arrayOptional, .arrayRequired, .variantContent, .selfBridging, .nestedObject]

def Kind.word : Kind → String
  | .scalar => "scalar"
  | .dateOptional => "date_optional"
  | .dateRequired => "date_required"
  | .arrayOfArrayOptional => "array_of_array_optional"
  | .arrayOfArrayRequired => "array_of_array_required"
  | .arrayOptional => "array_optional"
  | .arrayRequired => "array_required"
  | .variantContent => "variant_content"
  | .selfBridging => "self_bridging"
  | .nestedObject => "nested_object"

def Kind.ofWord? (s : String) : Option Kind :=
  Kind.all.find? fun k => k.word == s

/-- The scalar types with the names of their properties on a JSON value. -/
def scalarStems : List (String × String) :=
  [("String", "string"), ("Int", "int"), ("Int64", "int64"), ("Float", "float"),
    ("Bool", "bool")]

def stem? (type : String) : Option String :=
  scalarStems.lookup type

def dateType : String := "Date"

/-- The type of fields that are always true. -/
def trueType : String := "True"

/-- Whether the field is always true. Such a field has no accessor. -/
def isLiteralTrue (f : Field) : Bool :=
  f.type == trueType

/-- Whether the type comes with the generated code and not from a schema. -/
def isBuiltin (type : String) : Bool :=
  (stem? type).isSome || type == dateType || type == trueType

/-- Whether the name can be that of a struct. -/
def isNamedType (type : String) : Bool :=
  Identifier.isIdentifier type && !isBuiltin type

/-- The template that is for a field, if one is. -/
def kind? (c : Config) (f : Field) : Option Kind :=
  if f.isSequence then
    if isNamedType f.type then
      some (if f.isNested then
        if f.isOptional then .arrayOfArrayOptional else .arrayOfArrayRequired
      else if f.isOptional then .arrayOptional else .arrayRequired)
    else none
  else if (stem? f.type).isSome then some .scalar
  else if f.type == dateType then some (if f.isOptional then .dateOptional else .dateRequired)
  else if c.variantLead.toList.isPrefixOf f.type.toList then some .variantContent
  else if c.selfBridging.contains f.type then some .selfBridging
  else if isNamedType f.type then some .nestedObject
  else none

/-- Why no template is for a field. -/
def objection (f : Field) : String :=
  if f.isSequence then "sequences of '" ++ f.type ++ "' have no accessor template"
  else "'" ++ f.type ++ "' is not a struct type"

/-- A field that no template is for. -/
structure Unsupported where
  owner : String
  fieldName : String
  field : Field
  deriving DecidableEq, Repr

def Unsupported.reason (u : Unsupported) : String :=
  objection u.field

def Unsupported.message (u : Unsupported) : String :=
  "Unsupported field '" ++ u.owner ++ "." ++ u.fieldName ++ "' (" ++ u.field.shorthand ++ "): " ++
    u.reason

/-- What is told about a field that is treated as a struct because no template is for it. -/
def Unsupported.warning (u : Unsupported) : Log.Record :=
  ⟨.warning, .rendering, "Field '" ++ u.owner ++ "." ++ u.fieldName ++ "' (" ++
    u.field.shorthand ++ "): " ++ u.reason ++ "; emitting nested-object accessor."⟩

/-- The template for the accessor of a field. -/
def classify (c : Config) (owner fieldName : String) (f : Field) : Except Unsupported Kind :=
  match kind? c f with
  | some k => .ok k
  | none => if c.strict then .error ⟨owner, fieldName, f⟩ else .ok .nestedObject

/-- What is told when a field is classified: that no template was for it. -/
def classifyLog (c : Config) (owner fieldName : String) (f : Field) : List Log.Record :=
  match kind? c f with
  | some _ => []
  | none => if c.strict then [] else [Unsupported.warning ⟨owner, fieldName, f⟩]

end Code
end ClientGen
