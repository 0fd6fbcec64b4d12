/-!
# Log records

What the program tells about its work while it works. A record has a level, the part of the program
that tells it, and a message. Whether it is shown is decided where it is written out.
-/

namespace ClientGen
namespace Log

inductive Level
  | debug
  | info
  | warning
  | error
  deriving DecidableEq, Repr

/-- Higher levels are more urgent. -/
def Level.rank : Level → Nat
  | .debug => 0
  | .info => 1
  | .warning => 2
  | .error => 3

def Level.word : Level → String
  | .debug => "DEBUG"
  | .info => "INFO"
  | .warning => "WARNING"
  | .error => "ERROR"

/-- The part of the program that tells a record. -/
inductive Channel
  | program
  | files
  | naming
  | rendering
  | session
  | validation
  | pipeline
  deriving DecidableEq, Repr

def Channel.word : Channel → String
  | .program => "rapier"
  | .files => "rapier.utils"
  | .naming => "rapier.models"
  | .rendering => "rapier.templates"
  | .session => "rapier.sdk_generator"
  | .validation => "rapier.validators"
  | .pipeline => "rapier.generator"

structure Record where
  level : Level
  channel : Channel
  message : String
  deriving DecidableEq, Repr

/-- The records at the level or above. -/
def atLeast (level : Level) (records : List Record) : List Record :=
  records.filter fun r => level.rank ≤ r.level.rank

/-- The word padded with blanks to the width of the column of levels. -/
def Level.column (l : Level) : String :=
  l.word ++ String.ofList (List.replicate (8 - l.word.length) ' ')

/-- A record as a line with the time of day before it. -/
def Record.line (time : String) (r : Record) : String :=
  time ++ " │ " ++ r.level.column ++ " │ " ++ r.channel.word ++ " │ " ++ r.message ++ "\n"

/-- A truth value inside a message. -/
def truth (b : Bool) : String :=
  if b then "True" else "False"

end Log
end ClientGen
