import ClientGen.Decimal.Digits
import ClientGen.Field.Basic
import ClientGen.Table

/-!
# Schemas

What a client is generated from: types with named fields, and methods with named parameters and a
result.
-/

namespace ClientGen

/-- A type with named fields. -/
structure TypeDef where
  fields : Table Field
  deriving DecidableEq

/-- A method with named parameters and a result. -/
structure Method where
  parameters : Table Field
  result : Field
  deriving DecidableEq

/-- The types and methods of an interface, and the file that describes them. -/
structure Schema where
  types : Table TypeDef
  methods : Table Method
  sourceFile : Option String
  deriving DecidableEq

namespace Schema

/-- The schema by its numbers of types and methods. -/
def text (s : Schema) : String :=
  "<SchemaDefinition " ++ Decimal.text s.types.size ++ " types, " ++ Decimal.text s.methods.size ++
    " methods>"

end Schema
end ClientGen
