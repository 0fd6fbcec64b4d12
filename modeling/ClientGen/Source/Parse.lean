import ClientGen.Log
import ClientGen.Record.Config
import ClientGen.Source.Load

/-!
# Reading a schema document

The entries of a document hold types, methods and settings. One of the first two has to be there;
what is empty counts as left out, and other entries do not count.
-/

namespace ClientGen
namespace Source

/-- Why a document is no schema with settings. -/
inductive ParseFault
  | noSchema
  | schema (faults : List Record.Fault)
  | config (faults : List Record.Fault)
  | noContainer (kind : String)
  | noEntries (kind : String)

/-- The number of faults and the kind of the record that has them. -/
def faultCount (kind : Record.Kind) (faults : List Record.Fault) : String :=
  Decimal.text faults.length ++ " validation error" ++ (if faults.length = 1 then "" else "s") ++
    " for " ++ kind.word

def ParseFault.message : ParseFault → String
  | .noSchema =>
    "Cannot find schema definition in input. Expected top-level key 'types' and/or 'methods'."
  | .schema fs => "Schema validation failed: " ++ faultCount .schema fs
  | .config fs => "Config validation failed: " ++ faultCount .config fs
  | .noContainer kind => "argument of type '" ++ kind ++ "' is not iterable"
  | .noEntries kind => "'" ++ kind ++ "' object has no attribute 'get'"

/-- What stands under a name, an empty mapping if that is nothing or empty. -/
def section? (doc : Document) (name : String) : Option Value :=
  (Value.find? (.text name) doc).filter Value.isGiven

def sectionOf (doc : Document) (name : String) : Value :=
  (section? doc name).getD (.map [])

/-- Whether the document has an entry of that name, empty or not. -/
def hasEntry (doc : Document) (name : String) : Bool :=
  (Value.find? (.text name) doc).isSome

/-- The schema and the settings of a document. `file` is the name of its file, if it has one. -/
def parse (doc : Document) (file : Value) : Except ParseFault (Schema × Config) :=
  if !hasEntry doc "types" && !hasEntry doc "methods" then .error .noSchema
  else
    let record : Value := .map
      [(.text "types", sectionOf doc "types"), (.text "methods", sectionOf doc "methods"),
        (.text "source_file", file)]
    match Record.schema record with
    | .error fs => .error (.schema fs)
    | .ok schema =>
      match Record.config (sectionOf doc "config") with
      | .error fs => .error (.config fs)
      | .ok config => .ok (schema, config)

/-- What is told when a document is read: that it has no settings. -/
def parseLog (doc : Document) : List Log.Record :=
  if !hasEntry doc "types" && !hasEntry doc "methods" then []
  else
    match section? doc "config" with
    | some _ => []
    | none =>
      [⟨.info, .pipeline, "No generation config found in input — using defaults."⟩]

/-- Whether a text occurs in another one. -/
def occurs (part : List Char) : List Char → Bool
  | [] => part.isEmpty
  | c :: rest => part.isPrefixOf (c :: rest) || occurs part rest

/-- Whether a list or a text holds the name. -/
def mentions (v : Value) (name : String) : Option Bool :=
  match v with
  | .text s => some (occurs name.toList s.toList)
  | .list items => some (items.any fun i => i.sameKey (.text name))
  | _ => none

/-- The schema and the settings of any value; only a mapping has some. -/
def parseValue (v : Value) (file : Value) : Except ParseFault (Schema × Config) :=
  match v with
  | .map doc => parse doc file
  | v =>
    match mentions v "types", mentions v "methods" with
    | some a, some b => .error (if a || b then .noEntries v.kind else .noSchema)
    | _, _ => .error (.noContainer v.kind)

def parseValueLog : Value → List Log.Record
  | .map doc => parseLog doc
  | _ => []

end Source
end ClientGen
