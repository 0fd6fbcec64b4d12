import ClientGen.Value.Literal

/-!
# Faults of a YAML text

All violations of the format are alike. A scalar whose tag calls for a type that its text cannot
have is a fault of its own.
-/

namespace ClientGen
namespace Yaml

/-- Why a text gives no value. -/
inductive Fault
  | malformed
  | codePoint
  | wideCodePoint
  | noInteger (base : Nat) (text : String)
  | noFloat (text : String)
  | emptyNumber
  | noBoolean (text : String)
  | noTimestamp
  | calendar (fault : Value.CalendarFault)
  deriving DecidableEq, Repr

namespace Fault

/-- Violations of the format have one message, which tells no place. -/
def message : Fault → String
  | .malformed => "<yaml error>"
  | .codePoint => "chr() arg not in range(0x110000)"
  | .wideCodePoint => "Python int too large to convert to C int"
  | .noInteger base s =>
    "invalid literal for int() with base " ++ Decimal.text base ++ ": " ++
      String.ofList ((Text.quoted s).toList.take 200)
  | .noFloat s => "could not convert string to float: " ++ Text.quoted s
  | .emptyNumber => "string index out of range"
  | .noBoolean s => Text.quoted s
  | .noTimestamp => "'NoneType' object has no attribute 'groupdict'"
  | .calendar f => f.message

/-- Whether the fault shows that the value of the text is wrong. The other faults come from a tag that
its scalar does not fit, or from an escape of more than 31 bits, and nothing recovers from them. -/
def isRecoverable : Fault → Bool
  | .wideCodePoint | .emptyNumber | .noBoolean _ | .noTimestamp => false
  | _ => true

end Fault
end Yaml
end ClientGen
