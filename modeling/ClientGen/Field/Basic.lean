/-!
# Field descriptors

The shape of a field, of a parameter or of a result: the name of a type, whether it is a sequence of
it or a sequence of sequences, and whether it may be absent.
-/

namespace ClientGen

/-- The shape of a value on the wire. -/
structure Field where
  type : String
  isArray : Bool
  isNested : Bool
  isOptional : Bool
  deriving DecidableEq, Repr

namespace Field

/-- A single value of a type. -/
def single (type : String) : Field :=
  ⟨type, false, false, false⟩

/-- Whether the value is a sequence of either depth. -/
def isSequence (f : Field) : Bool :=
  f.isArray || f.isNested

/-- The short form: brackets for each depth around the type, and a question mark if the value may be
absent. -/
def shorthand (f : Field) : String :=
  let body :=
    if f.isNested then "[[" ++ f.type ++ "]]"
    else if f.isArray then "[" ++ f.type ++ "]"
    else f.type
  body ++ if f.isOptional then "?" else ""

end Field
end ClientGen
