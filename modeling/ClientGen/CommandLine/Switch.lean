import ClientGen.Text.Listed

/-!
# Switches

The switches of the command line with their names. A long name may be cut as long as it stays unique.
-/

namespace ClientGen
namespace CommandLine

inductive Switch
  | help
  | version
  | schema
  | output
  | validateOnly
  | dryRun
  | extension
  | clientType
  | noStrict
  | failOnWarnings
  | verbose
  | quiet
  deriving DecidableEq, Repr

namespace Switch

def all : List Switch :=
  [.help, .version, .schema, .output, .validateOnly, .dryRun, .extension, .clientType, .noStrict,
    .failOnWarnings, .verbose, .quiet]

/-- The names of a switch, the short one first if there is one. -/
def names : Switch → List String
  | .help => ["-h", "--help"]
  | .version => ["--version"]
  | .schema => ["-s", "--schema"]
  | .output => ["-o", "--output"]
  | .validateOnly => ["--validate-only"]
  | .dryRun => ["--dry-run"]
  | .extension => ["--extension"]
  | .clientType => ["--client-type"]
  | .noStrict => ["--no-strict"]
  | .failOnWarnings => ["--fail-on-warnings"]
  | .verbose => ["-v", "--verbose"]
  | .quiet => ["-q", "--quiet"]

/-- Whether a value belongs to the switch. -/
def takesValue : Switch → Bool
  | .schema | .output | .extension | .clientType => true
  | _ => false

/-- All names with their switches. -/
def table : List (List Char × Switch) :=
  all.flatMap fun s => s.names.map fun n => (n.toList, s)

def ofName? (name : List Char) : Option Switch :=
  table.lookup name

/-- All names of the switch with a slash between each two. -/
def title (s : Switch) : String :=
  match s.names with
  | [a, b] => a ++ "/" ++ b
  | names => Text.concat names

end Switch
end CommandLine
end ClientGen
