import ClientGen.Record.Config

/-!
# Assignment to records

A record that has been read can be assigned to by name. Only schemas and configurations can change;
what is assigned is read like the member of that name. A refused assignment changes nothing.
-/

namespace ClientGen
namespace Record

/-- A record of any kind. -/
inductive Instance
  | field (f : Field)
  | type (t : TypeDef)
  | method (m : Method)
  | schema (s : Schema)
  | rule (r : RenameRule)
  | config (c : Config)

namespace Instance

def kind : Instance → Kind
  | .field _ => .field
  | .type _ => .type
  | .method _ => .method
  | .schema _ => .schema
  | .rule _ => .rule
  | .config _ => .config

/-- A record of the kind. -/
def read (kind : Kind) (v : Value) : Result Instance :=
  match kind with
  | .field => (Record.field v).map .field
  | .type => (Record.typeDef v).map .type
  | .method => (Record.method v).map .method
  | .schema => (Record.schema v).map .schema
  | .rule => (Record.rule v).map .rule
  | .config => (Record.config v).map .config

/-- The value that a record is written as. -/
def value : Instance → Value
  | .field f => fieldValue f
  | .type t => typeValue t
  | .method m => methodValue m
  | .schema s => schemaValue s
  | .rule r => ruleValue r
  | .config c => configValue c

end Instance

/-- Why an assignment is refused. -/
inductive Refusal
  | faults (fs : List Fault)
  | computed (name : String) (kind : Kind)

def computedMessage (name : String) (kind : Kind) : String :=
  "property '" ++ name ++ "' of '" ++ kind.word ++ "' object has no setter"

/-- The names under which every record tells how it was made: which members were stated, and what was
stated besides. -/
def commonNames : List String := ["model_extra", "model_fields_set"]

/-- The names under which a record that can change tells what it computes. -/
def computedNames : Kind → List String
  | .schema => ["type_count", "method_count"] ++ commonNames
  | .config => ["types_filename", "methods_filename"] ++ commonNames
  | _ => []

/-- The record with a member read from `v`. -/
def assigned {α β : Type} (name : String) (r : Reader α) (v : Value) (set : α → β) :
    Except Refusal β :=
  match under (.name name) (r v) with
  | .ok a => .ok (set a)
  | .error fs => .error (.faults fs)

def noAttribute {α : Type} (name : String) : Except Refusal α :=
  .error (.faults [⟨[.name name], .noAttribute name⟩])

/-- The schema after an assignment. -/
def assignSchema (s : Schema) (name : String) (v : Value) : Except Refusal Schema :=
  if name == "types" then assigned name (table typeDef) v fun t => { s with types := t }
  else if name == "methods" then assigned name (table method) v fun m => { s with methods := m }
  else if name == "source_file" then
    assigned name (optional text) v fun f => { s with sourceFile := f }
  else noAttribute name

/-- The configuration after an assignment. -/
def assignConfig (c : Config) (name : String) (v : Value) : Except Refusal Config :=
  if name == "output_dir" then assigned name text v fun a => { c with outputDir := a }
  else if name == "file_extension" then
    assigned name extension v fun a => { c with fileExtension := a }
  else if name == "client_type" then assigned name nonempty v fun a => { c with clientType := a }
  else if name == "generator_name" then
    assigned name nonempty v fun a => { c with generatorName := a }
  else if name == "strict" then assigned name bool v fun a => { c with strict := a }
  else if name == "variant_content_prefix" then
    assigned name nonempty v fun a => { c with variantLead := a }
  else if name == "self_bridging_types" then
    assigned name (list text) v fun a => { c with selfBridging := a }
  else if name == "rename_rules" then
    assigned name (list rule) v fun a => { c with renameRules := a }
  else noAttribute name

/-- The record after an assignment. -/
def Instance.assign (i : Instance) (name : String) (v : Value) : Except Refusal Instance :=
  if (computedNames i.kind).contains name then .error (.computed name i.kind)
  else
    match i with
    | .schema s => (assignSchema s name v).map .schema
    | .config c => (assignConfig c name v).map .config
    | _ => .error (.faults [⟨[.name name], .frozen⟩])

end Record
end ClientGen
