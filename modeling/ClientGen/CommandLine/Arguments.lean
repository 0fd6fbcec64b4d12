import ClientGen.CommandLine.Switch
import ClientGen.Text.Digit
import ClientGen.Text.Lines
import ClientGen.Text.Quoted

/-!
# Arguments

What the arguments of a command line ask for. Each argument is taken for a switch or not before any of
them is acted on. A value stands behind its switch or is attached to it, with an equals sign or, to a
short name, without one; short names of switches without values can share one hyphen.
-/

namespace ClientGen
namespace CommandLine

/-- What is wrong with the arguments. -/
inductive Fault
  | ambiguous (argument : String) (names : List String)
  | ignored (s : Switch) (value : String)
  | noValue (s : Switch)
  | missing (s : Switch)
  | unrecognized (arguments : List String)
  deriving DecidableEq, Repr

def Fault.message : Fault → String
  | .ambiguous a names => "ambiguous option: " ++ a ++ " could match " ++ Text.listed names
  | .ignored s v => "argument " ++ s.title ++ ": ignored explicit argument " ++ Text.quoted v
  | .noValue s => "argument " ++ s.title ++ ": expected one argument"
  | .missing s => "the following arguments are required: " ++ s.title
  | .unrecognized as =>
    "unrecognized arguments: " ++
      String.ofList (Text.join ' ' (as.map String.toList))

/-! ## What an argument is taken for -/

/-- A text attached to a switch, and whether an equals sign stands between. -/
structure Attached where
  byEquals : Bool
  text : List Char
  deriving DecidableEq, Repr

inductive Reading
  | plain
  | separator
  | unknown
  | switch (s : Switch) (short : Bool) (attached : Option Attached)
  deriving DecidableEq, Repr

/-- The text before the first equals sign, and what is attached by it. -/
def cutAtEquals (cs : List Char) : List Char × Option Attached :=
  match cs.dropWhile (· ≠ '=') with
  | [] => (cs, none)
  | _ :: rest => (cs.takeWhile (· ≠ '='), some ⟨true, rest⟩)

/-- Whether the argument is a negative number: these are values. -/
def isNegativeNumber (cs : List Char) : Bool :=
  let isDigit (c : Char) : Bool := (Text.digitValue? c).isSome
  let isCount (ds : List Char) : Bool := !ds.isEmpty && ds.all isDigit
  let body := if cs.getLast? = some '\n' then cs.dropLast else cs
  match body with
  | '-' :: rest =>
    isCount rest ||
      match rest.dropWhile isDigit with
      | '.' :: places => isCount places
      | _ => false
  | _ => false

/-- Whether a name has a single hyphen. -/
def isShort : List Char → Bool
  | '-' :: '-' :: _ => false
  | _ => true

/-- All switches that an argument can be taken for, by the names that it fits. -/
def candidates (cs : List Char) : List (List Char × Reading) :=
  match cs with
  | '-' :: '-' :: _ =>
    let (lead, attached) := cutAtEquals cs
    Switch.table.filterMap fun (name, s) =>
      if lead.isPrefixOf name then some (name, .switch s (isShort name) attached) else none
  | '-' :: letter :: rest =>
    Switch.table.filterMap fun (name, s) =>
      if name = ['-', letter] then some (name, .switch s true (some ⟨false, rest⟩)) else none
  | _ => []

/-- What an argument is taken for. -/
def reading (argument : String) : Except Fault Reading :=
  let cs := argument.toList
  match cs with
  | '-' :: _ :: _ =>
    match Switch.ofName? cs with
    | some s => .ok (.switch s (isShort cs) none)
    | none =>
      let (name, attached) := cutAtEquals cs
      match attached, Switch.ofName? name with
      | some a, some s => .ok (.switch s (isShort name) (some a))
      | _, _ =>
        match candidates cs with
        | [(_, r)] => .ok r
        | [] => .ok (if isNegativeNumber cs || cs.contains ' ' then .plain else .unknown)
        | several => .error (.ambiguous argument (several.map fun p => String.ofList p.1))
  | _ => .ok .plain

/-- What the arguments are taken for. Behind two hyphens none is a switch. -/
def readings : List String → Except Fault (List (String × Reading))
  | [] => .ok []
  | a :: rest =>
    if a = "--" then .ok ((a, .separator) :: rest.map fun b => (b, .plain))
    else
      match reading a with
      | .error f => .error f
      | .ok r =>
        match readings rest with
        | .error f => .error f
        | .ok rs => .ok ((a, r) :: rs)

/-! ## What an argument with switches asks for -/

/-- The switches that share an argument: those that are complete, with their values, one that still
needs a value, and a rest in which no switch was found. -/
structure Group where
  given : List (Switch × Option String)
  open? : Option Switch
  stray : Option String

/-- What is attached to a switch that shares its hyphen with the one before it. -/
def attachedNext : List Char → Option Attached
  | [] => none
  | '=' :: rest => some ⟨true, rest⟩
  | rest => some ⟨false, rest⟩

/-- The switches from `s` on; the number bounds the characters attached to it. -/
def group (s : Switch) (short : Bool) : Nat → Option Attached → Except Fault Group
  | _, none => .ok (if s.takesValue then ⟨[], some s, none⟩ else ⟨[(s, none)], none, none⟩)
  | 0, some a => .error (.ignored s (String.ofList a.text))
  | bound + 1, some a =>
    if s.takesValue then .ok ⟨[(s, some (String.ofList a.text))], none, none⟩
    else
      let refused : Except Fault Group := .error (.ignored s (String.ofList a.text))
      match a.text with
      | [] => refused
      | c :: rest =>
        if !short || a.byEquals || c = '-' then refused
        else
          match Switch.ofName? ['-', c] with
          | none => .ok ⟨[(s, none)], none, some (String.ofList ('-' :: a.text))⟩
          | some t =>
            match group t true bound (attachedNext rest) with
            | .error f => .error f
            | .ok g => .ok { g with given := (s, none) :: g.given }

def groupOf (s : Switch) (short : Bool) (attached : Option Attached) : Except Fault Group :=
  group s short ((attached.map fun a => a.text.length).getD 0 + 1) attached

/-! ## What the arguments ask for -/

structure Arguments where
  schema : Option String
  output : Option String
  validateOnly : Bool
  dryRun : Bool
  extension : Option String
  clientType : Option String
  noStrict : Bool
  failOnWarnings : Bool
  verbosity : Nat
  quiet : Bool
  deriving DecidableEq, Repr

def Arguments.none : Arguments :=
  ⟨.none, .none, false, false, .none, .none, false, false, 0, false⟩

/-- What the arguments ask for: a text about the program, or its work. -/
inductive Request
  | help
  | version
  | work (schema : String) (a : Arguments)
  deriving DecidableEq, Repr

/-- The arguments after one more switch, or the request that it makes at once. -/
def Arguments.give (a : Arguments) (value : Option String) : Switch → Arguments ⊕ Request
  | .help => .inr .help
  | .version => .inr .version
  | .schema => .inl { a with schema := value }
  | .output => .inl { a with output := value }
  | .validateOnly => .inl { a with validateOnly := true }
  | .dryRun => .inl { a with dryRun := true }
  | .extension => .inl { a with extension := value }
  | .clientType => .inl { a with clientType := value }
  | .noStrict => .inl { a with noStrict := true }
  | .failOnWarnings => .inl { a with failOnWarnings := true }
  | .verbose => .inl { a with verbosity := a.verbosity + 1 }
  | .quiet => .inl { a with quiet := true }

def Arguments.giveAll (a : Arguments) : List (Switch × Option String) → Arguments ⊕ Request
  | [] => .inl a
  | (s, value) :: rest =>
    match a.give value s with
    | .inl a => a.giveAll rest
    | .inr r => .inr r

/-- The request at the end of the arguments. -/
def conclude (a : Arguments) (strays : List String) : Except Fault Request :=
  match a.schema with
  | none => .error (.missing .schema)
  | some schema => if strays.isEmpty then .ok (.work schema a) else .error (.unrecognized strays)

/-- What the arguments ask for after those in `a`; `strays` holds what was not understood. -/
def collect (a : Arguments) (strays : List String) :
    List (String × Reading) → Except Fault Request
  | [] => conclude a strays
  | (_, .switch s short attached) :: rest =>
    match groupOf s short attached with
    | .error f => .error f
    | .ok g =>
      let strays := strays ++ g.stray.toList
      match g.open?, rest with
      | none, rest =>
        match a.giveAll g.given with
        | .inl a => collect a strays rest
        | .inr r => .ok r
      | some t, (value, .plain) :: rest =>
        match a.giveAll (g.given ++ [(t, some value)]) with
        | .inl a => collect a strays rest
        | .inr r => .ok r
      | some t, _ => .error (.noValue t)
  | (argument, _) :: rest => collect a (strays ++ [argument]) rest

/-- What the arguments of a command line ask for. -/
def request (arguments : List String) : Except Fault Request :=
  match readings arguments with
  | .error f => .error f
  | .ok rs => collect .none [] rs

end CommandLine
end ClientGen
