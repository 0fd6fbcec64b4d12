import ClientGen.CommandLine.Arguments

/-!
# Usage texts

What the program says about itself and about arguments that it does not understand.
-/

namespace ClientGen
namespace CommandLine

def programName : String := "rapier"

def versionText : String := "Rapier v1.0.0\n"

def usageLines : List String :=
  ["usage: " ++ programName ++
      " [-h] [--version] -s PATH [-o DIR] [--validate-only] [--dry-run]",
    "              [--extension EXT] [--client-type NAME] [--no-strict]",
    "              [--fail-on-warnings] [-v] [-q]"]

def descriptionLines : List String :=
  ["Rapier — Swift client-library generator.",
    "",
    "Turns a description of API types and methods (JSON/YAML) into Types.swift and Methods.swift " ++
      "for a JSON-backed bot client."]

def switchLines : List String :=
  ["options:",
    "  -h, --help            show this help message and exit",
    "  --version             show program's version number and exit",
    "  -s PATH, --schema PATH",
    "                        Path to the schema file (JSON or YAML).",
    "  -o DIR, --output DIR  Output directory (defaults to config.output_dir of the",
    "                        schema file).",
    "",
    "operation modes:",
    "  --validate-only       Only validate the schema without generating code.",
    "  --dry-run             Render both files but don't write them to disk.",
    "",
    "configuration overrides:",
    "  --extension EXT       File extension of the generated files (default:",
    "                        swift).",
    "  --client-type NAME    Type extended by the generated methods (default:",
    "                        TelegramBot).",
    "",
    "behaviour flags:",
    "  --no-strict           Emit the nested-object accessor for unsupported fields",
    "                        instead of failing.",
    "  --fail-on-warnings    Treat validation warnings as errors.",
    "",
    "verbosity:",
    "  -v, --verbose         Increase verbosity (-v for INFO, -vv for DEBUG).",
    "  -q, --quiet           Suppress all log output."]

def exampleLines : List String :=
  ["Examples:",
    "  " ++ programName ++ " -s telegram.yaml -o ./Sources",
    "  " ++ programName ++ " -s telegram.yaml --validate-only",
    "  " ++ programName ++ " -s telegram.json -o ./out -vv --no-strict"]

def usageText : String :=
  Text.unlines (usageLines ++ [""])

def helpText : String :=
  Text.unlines (usageLines ++ [""] ++ descriptionLines ++ [""] ++ switchLines ++ [""] ++
    exampleLines ++ [""])

/-- The usage and what is wrong with the arguments. -/
def faultText (f : Fault) : String :=
  usageText ++ programName ++ ": error: " ++ f.message ++ "\n"

end CommandLine
end ClientGen
