import ClientGen.Field.Shorthand
import ClientGen.Value.Literal

/-!
# Faults of records

A value that does not have the form of a record is refused with all its faults. Each fault has the
path to the part that it concerns and a cause.
-/

namespace ClientGen
namespace Record

/-- A step into a value: to what stands under a name, or to an item of a list. -/
inductive Step
  | name (s : String)
  | index (n : Int)
  deriving DecidableEq, Repr

/-- Whether a whole number has a signed form of 64 bits. -/
def isWord64 (n : Int) : Bool :=
  -9223372036854775808 ≤ n && n ≤ 9223372036854775807

/-- The step to what stands under a key. Truth values count as numbers; keys that are neither texts
nor whole numbers of 64 bits are shown as they are written. -/
def Step.ofKey : Value → Step
  | .text s => .name s
  | .bool b => .index (if b then 1 else 0)
  | .int n => if isWord64 n then .index n else .name (Decimal.signed n)
  | v => .name v.literal

/-- The kinds of records. -/
inductive Kind
  | field
  | type
  | method
  | schema
  | rule
  | config
  deriving DecidableEq, Repr

def Kind.word : Kind → String
  | .field => "FieldInfo"
  | .type => "TypeInfo"
  | .method => "MethodInfo"
  | .schema => "SchemaDefinition"
  | .rule => "RenameRule"
  | .config => "GenerationConfig"

/-- What is wrong with a part of a value. -/
inductive Cause
  | missing
  | unknownName
  | keyNoText
  | noText
  | textEncoding
  | emptyText
  | unreadableBool
  | noBool
  | noList
  | noMap
  | noRecord (kind : Kind)
  | field (fault : Field.Fault)
  | frozen
  | noAttribute (name : String)

/-- The short name of a cause. -/
def Cause.code : Cause → String
  | .missing => "missing"
  | .unknownName => "extra_forbidden"
  | .keyNoText => "invalid_key"
  | .noText => "string_type"
  | .textEncoding => "string_unicode"
  | .emptyText => "string_too_short"
  | .unreadableBool => "bool_parsing"
  | .noBool => "bool_type"
  | .noList => "list_type"
  | .noMap => "dict_type"
  | .noRecord _ => "model_type"
  | .field _ => "value_error"
  | .frozen => "frozen_instance"
  | .noAttribute _ => "no_such_attribute"

def Cause.message : Cause → String
  | .missing => "Field required"
  | .unknownName => "Extra inputs are not permitted"
  | .keyNoText => "Keys should be strings"
  | .noText => "Input should be a valid string"
  | .textEncoding =>
    "Input should be a valid string, unable to parse raw data as a unicode string"
  | .emptyText => "String should have at least 1 character"
  | .unreadableBool => "Input should be a valid boolean, unable to interpret input"
  | .noBool => "Input should be a valid boolean"
  | .noList => "Input should be a valid list"
  | .noMap => "Input should be a valid dictionary"
  | .noRecord kind => "Input should be a valid dictionary or instance of " ++ kind.word
  | .field fault => "Value error, " ++ fault.message
  | .frozen => "Instance is frozen"
  | .noAttribute name => "Object has no attribute '" ++ name ++ "'"

structure Fault where
  path : List Step
  cause : Cause

/-- The fault seen from one step further out. -/
def Fault.under (s : Step) (f : Fault) : Fault :=
  { f with path := s :: f.path }

end Record
end ClientGen
