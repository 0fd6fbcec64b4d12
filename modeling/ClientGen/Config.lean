import ClientGen.Log

/-!
# Settings of a generation

What the schema leaves open: names and places of the output, how strict the generator is, and under
which names fields become accessible.
-/

namespace ClientGen

/-- Gives the accessor of a field another name. A rule without an owner or a field type is for all of
them. -/
structure RenameRule where
  fieldName : String
  accessor : String
  typeName : Option String
  fieldType : Option String
  deriving DecidableEq, Repr

namespace RenameRule

/-- Whether the rule is for a field. -/
def fits (r : RenameRule) (typeName fieldName fieldType : String) : Bool :=
  r.fieldName == fieldName && (r.typeName.isNone || r.typeName == some typeName) &&
    (r.fieldType.isNone || r.fieldType == some fieldType)

/-- The rules that hold if a configuration states none: their accessors would hide others. -/
def usual : List RenameRule :=
  [⟨"status", "status_string", some "ChatMember", none⟩,
    ⟨"type", "type_string", none, some "String"⟩,
    ⟨"parse_mode", "parse_mode_string", none, some "String"⟩]

end RenameRule

/-- The settings of a generation. -/
structure Config where
  outputDir : String
  fileExtension : String
  clientType : String
  generatorName : String
  strict : Bool
  variantLead : String
  selfBridging : List String
  renameRules : List RenameRule
  deriving DecidableEq, Repr

namespace Config

/-- The settings where nothing is stated. -/
def usual : Config where
  outputDir := "./generated"
  fileExtension := "swift"
  clientType := "TelegramBot"
  generatorName := "Rapier"
  strict := true
  variantLead := "InputMessageContent"
  selfBridging := ["InputFileOrString"]
  renameRules := RenameRule.usual

/-- The settings with which validation looks for templates: what has none is refused. -/
def probe (c : Config) : Config :=
  { c with strict := true }

/-- The name of the file with the types. -/
def typesFile (c : Config) : String :=
  "Types." ++ c.fileExtension

/-- The name of the file with the methods. -/
def methodsFile (c : Config) : String :=
  "Methods." ++ c.fileExtension

/-- The first rule for a field. -/
def rule? (c : Config) (typeName fieldName fieldType : String) : Option RenameRule :=
  c.renameRules.find? fun r => r.fits typeName fieldName fieldType

/-- The accessor of a field in words joined by underlines. -/
def accessorName (c : Config) (typeName fieldName fieldType : String) : String :=
  match c.rule? typeName fieldName fieldType with
  | some r => r.accessor
  | none => fieldName

/-- What is told when an accessor is looked up. -/
def accessorLog (c : Config) (typeName fieldName fieldType : String) : List Log.Record :=
  match c.rule? typeName fieldName fieldType with
  | some r =>
    [⟨.debug, .naming, "Renamed accessor " ++ typeName ++ "." ++ fieldName ++ " -> " ++ r.accessor⟩]
  | none => []

end Config
end ClientGen
