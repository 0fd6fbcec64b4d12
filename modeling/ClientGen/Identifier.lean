import ClientGen.Text.Case
import ClientGen.Text.Lines

/-!
# Names in generated code

Wire names are words joined by underlines; the generated code joins the words by capitals. A name can
stand in the code if it is an identifier and no keyword.
-/

namespace ClientGen
namespace Identifier

/-- A letter or underline of ASCII. -/
def isStart (c : Char) : Bool :=
  c.isAlpha || c == '_'

/-- A letter, digit or underline of ASCII. -/
def isPart (c : Char) : Bool :=
  c.isAlphanum || c == '_'

/-- A nonempty word of letters, digits and underlines that does not start with a digit. -/
def isWord : List Char → Bool
  | [] => false
  | c :: rest => isStart c && rest.all isPart

/-- A word, possibly with one line break behind it. -/
def isIdentifier (s : String) : Bool :=
  let cs := s.toList
  isWord cs || (cs.getLast? == some '\n' && isWord cs.dropLast)

/-- The words that the target language reserves. -/
def keywords : List String :=
  ["associatedtype", "class", "deinit", "enum", "extension", "fileprivate", "func", "import",
    "init", "inout", "internal", "let", "open", "operator", "private", "protocol", "public",
    "rethrows", "static", "struct", "subscript", "typealias", "var", "break", "case", "continue",
    "default", "defer", "do", "else", "fallthrough", "for", "guard", "if", "in", "repeat",
    "return", "switch", "where", "while", "as", "Any", "catch", "false", "is", "nil", "super",
    "self", "Self", "throw", "throws", "true", "try"]

def isKeyword (s : String) : Bool :=
  keywords.contains s

/-- A word with its first character in upper and the others in lower case. -/
def titled : List Char → List Char
  | [] => []
  | c :: rest => Text.upperChar c ++ Text.lower rest

/-- The words of a name without underlines: the first in lower case, the others titled. -/
def joinWords : List (List Char) → List Char
  | [] => []
  | first :: rest => Text.lower first ++ rest.flatMap titled

/-- The name in the generated code for a wire name. -/
def camelized (s : String) : String :=
  String.ofList (joinWords (Text.split '_' s.toList))

/-- The name with its first character in upper case. -/
def capitalized (s : String) : String :=
  String.ofList (Text.upperFirst s.toList)

end Identifier
end ClientGen
