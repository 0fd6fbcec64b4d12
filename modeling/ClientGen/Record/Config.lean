import ClientGen.Config
import ClientGen.Record.Schema

/-!
# Records of a configuration

Rename rules and settings as values. Points in front of a file extension do not count; whether the
extension is empty is decided before they are dropped.
-/

namespace ClientGen
namespace Record

def ruleNames : List String := ["field_name", "accessor", "type_name", "field_type"]

/-- A rename rule. -/
def rule : Reader RenameRule
  | .map entries =>
    let members :=
      both (required entries "field_name" nonempty)
        (both (required entries "accessor" nonempty)
          (both (withDefault entries "type_name" (optional text) none)
            (withDefault entries "field_type" (optional text) none)))
    match withFaults members (strays ruleNames entries) with
    | .ok (f, a, t, k) => .ok ⟨f, a, t, k⟩
    | .error fs => .error fs
  | _ => refuse (.noRecord .rule)

/-- A file extension, without points in front. -/
def extension : Reader String := fun v =>
  match nonempty v with
  | .ok s => .ok (String.ofList (s.toList.dropWhile (· == '.')))
  | .error fs => .error fs

def configNames : List String :=
  ["output_dir", "file_extension", "client_type", "generator_name", "strict",
    "variant_content_prefix", "self_bridging_types", "rename_rules"]

/-- The settings of a generation; all may be left out. -/
def config : Reader Config
  | .map entries =>
    let usual := Config.usual
    let members :=
      both (withDefault entries "output_dir" text usual.outputDir)
        (both (withDefault entries "file_extension" extension usual.fileExtension)
          (both (withDefault entries "client_type" nonempty usual.clientType)
            (both (withDefault entries "generator_name" nonempty usual.generatorName)
              (both (withDefault entries "strict" bool usual.strict)
                (both (withDefault entries "variant_content_prefix" nonempty usual.variantLead)
                  (both (withDefault entries "self_bridging_types" (list text) usual.selfBridging)
                    (withDefault entries "rename_rules" (list rule) usual.renameRules)))))))
    match withFaults members (strays configNames entries) with
    | .ok (o, e, c, g, s, v, b, r) => .ok ⟨o, e, c, g, s, v, b, r⟩
    | .error fs => .error fs
  | _ => refuse (.noRecord .config)

def ruleValue (r : RenameRule) : Value :=
  .map [(.text "field_name", .text r.fieldName), (.text "accessor", .text r.accessor),
    (.text "type_name", textOrNull r.typeName), (.text "field_type", textOrNull r.fieldType)]

def configValue (c : Config) : Value :=
  .map [(.text "output_dir", .text c.outputDir), (.text "file_extension", .text c.fileExtension),
    (.text "client_type", .text c.clientType), (.text "generator_name", .text c.generatorName),
    (.text "strict", .bool c.strict), (.text "variant_content_prefix", .text c.variantLead),
    (.text "self_bridging_types", .list (c.selfBridging.map .text)),
    (.text "rename_rules", .list (c.renameRules.map ruleValue))]

end Record
end ClientGen
