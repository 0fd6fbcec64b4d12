import ClientGen.Decimal.Written
import ClientGen.Log

/-!
# Stopwatches

A stopwatch measures one step of the work. The steps themselves are functions of their input and take
no time, so their stopwatches stand still.
-/

namespace ClientGen

structure Stopwatch where
  label : String
  seconds : Decimal.Binary64

namespace Stopwatch

/-- The label of a stopwatch that is given none. -/
def usualLabel : String := "operation"

/-- A stopwatch that has measured nothing. -/
def still (label : String) : Stopwatch :=
  ⟨label, Decimal.Binary64.zero false⟩

def text (w : Stopwatch) : String :=
  "<Timer " ++ w.label ++ ": " ++ w.seconds.fixed 4 ++ "s>"

/-- What is told when the step is over. -/
def log (w : Stopwatch) : List Log.Record :=
  [⟨.info, .files, "Timer [" ++ w.label ++ "]: " ++ w.seconds.fixed 4 ++ " seconds"⟩]

end Stopwatch
end ClientGen
