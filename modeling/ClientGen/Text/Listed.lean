/-!
# Rows of texts

Texts one behind the other, as they are or with a comma and a space between each two.
-/

namespace ClientGen
namespace Text

/-- The parts one behind the other. -/
def concat (parts : List String) : String :=
  String.ofList (parts.flatMap String.toList)

/-- The parts with `, ` between each two. -/
def listed : List String → String
  | [] => ""
  | [s] => s
  | s :: rest => s ++ ", " ++ listed rest

theorem concat_cons (s : String) (rest : List String) : concat (s :: rest) = s ++ concat rest := by
  simp [concat, String.ofList_append]

theorem concat_append (a b : List String) : concat (a ++ b) = concat a ++ concat b := by
  simp [concat, String.ofList_append]

end Text
end ClientGen
