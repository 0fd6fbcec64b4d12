import ClientGen.Record.Reader
import ClientGen.Schema

/-!
# Records of a schema

Fields, types, methods and schemas as values: how they are read, and the values that they are written
as. A field may be written in full or as a shorthand; it is always written out in full.
-/

namespace ClientGen
namespace Record

/-- What a reading of a field gives, with its fault as the only one. -/
def fieldResult (r : Except Field.Fault Field) : Result Field :=
  match r with
  | .ok f => .ok f
  | .error f => refuse (.field f)

def fieldNames : List String := ["type", "is_array", "is_array_of_array", "is_optional"]

/-- A field: a shorthand, true by itself, a list with a name, or a record. -/
def field : Reader Field
  | .text s => fieldResult (Field.ofShorthand s)
  | .bool true => fieldResult (Field.ofShorthand "True")
  | .list items => fieldResult (Field.ofItems items)
  | .map entries =>
    let members :=
      both (withDefault entries "type" text "")
        (both (withDefault entries "is_array" bool false)
          (both (withDefault entries "is_array_of_array" bool false)
            (withDefault entries "is_optional" bool false)))
    match withFaults members (strays fieldNames entries) with
    | .ok (t, a, n, o) => .ok ⟨t, a, n, o⟩
    | .error fs => .error fs
  | _ => refuse (.noRecord .field)

/-- A type. -/
def typeDef : Reader TypeDef
  | .map entries =>
    let members := withDefault entries "fields" (table field) Table.empty
    match withFaults members (strays ["fields"] entries) with
    | .ok t => .ok ⟨t⟩
    | .error fs => .error fs
  | _ => refuse (.noRecord .type)

/-- A method; its result has to be stated. -/
def method : Reader Method
  | .map entries =>
    let members :=
      both (withDefault entries "parameters" (table field) Table.empty)
        (required entries "result" field)
    match withFaults members (strays ["parameters", "result"] entries) with
    | .ok (p, r) => .ok ⟨p, r⟩
    | .error fs => .error fs
  | _ => refuse (.noRecord .method)

/-- A schema. -/
def schema : Reader Schema
  | .map entries =>
    let members :=
      both (withDefault entries "types" (table typeDef) Table.empty)
        (both (withDefault entries "methods" (table method) Table.empty)
          (withDefault entries "source_file" (optional text) none))
    match withFaults members (strays ["types", "methods", "source_file"] entries) with
    | .ok (t, m, s) => .ok ⟨t, m, s⟩
    | .error fs => .error fs
  | _ => refuse (.noRecord .schema)

/-- A text or null. -/
def textOrNull : Option String → Value
  | some s => .text s
  | none => .null

/-- A table as a value. -/
def tableValue {α : Type} (f : α → Value) (t : Table α) : Value :=
  .map (t.toList.map fun p => (.text p.1, f p.2))

def fieldValue (f : Field) : Value :=
  .map [(.text "type", .text f.type), (.text "is_array", .bool f.isArray),
    (.text "is_array_of_array", .bool f.isNested), (.text "is_optional", .bool f.isOptional)]

def typeValue (t : TypeDef) : Value :=
  .map [(.text "fields", tableValue fieldValue t.fields)]

def methodValue (m : Method) : Value :=
  .map [(.text "parameters", tableValue fieldValue m.parameters),
    (.text "result", fieldValue m.result)]

def schemaValue (s : Schema) : Value :=
  .map [(.text "types", tableValue typeValue s.types),
    (.text "methods", tableValue methodValue s.methods),
    (.text "source_file", textOrNull s.sourceFile)]

end Record
end ClientGen
