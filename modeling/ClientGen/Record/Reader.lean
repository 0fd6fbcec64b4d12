import ClientGen.Record.Fault
import ClientGen.Table
import ClientGen.Text.Case
import ClientGen.Text.Utf8

/-!
# Reading parts of records

A reader gives what a value stands for, or all its faults in the order of the parts. Texts are taken
as they are; truth values may also be written as words and as the numbers zero and one.
-/

namespace ClientGen
namespace Record

open Decimal

/-- What a value stands for, or why it stands for nothing. -/
abbrev Result (α : Type) := Except (List Fault) α

abbrev Reader (α : Type) := Value → Result α

variable {α β : Type}

def refuse (c : Cause) : Result α :=
  .error [⟨[], c⟩]

/-- The faults seen from one step further out. -/
def under (s : Step) (r : Result α) : Result α :=
  match r with
  | .ok a => .ok a
  | .error fs => .error (fs.map (Fault.under s))

/-- Both results, or the faults of both. -/
def both (a : Result α) (b : Result β) : Result (α × β) :=
  match a, b with
  | .ok a, .ok b => .ok (a, b)
  | .ok _, .error gs => .error gs
  | .error fs, .ok _ => .error fs
  | .error fs, .error gs => .error (fs ++ gs)

/-- All results, or the faults of all. -/
def all : List (Result α) → Result (List α)
  | [] => .ok []
  | r :: rest =>
    match both r (all rest) with
    | .ok (a, as) => .ok (a :: as)
    | .error fs => .error fs

/-- A result, unless there are other faults. -/
def withFaults (r : Result α) (faults : List Fault) : Result α :=
  match r with
  | .ok a => if faults.isEmpty then .ok a else .error faults
  | .error fs => .error (fs ++ faults)

/-- A text. -/
def text : Reader String
  | .text s => .ok s
  | .bytes bs =>
    match Text.Utf8.decode bs with
    | .ok cs => .ok (String.ofList (Text.heldChars cs))
    | .error _ => refuse .textEncoding
  | _ => refuse .noText

/-- A text with at least one character, all of whose code points are characters. -/
def nonempty : Reader String := fun v =>
  match text v with
  | .ok s =>
    match Text.Utf8.encode s with
    | .error _ => refuse .textEncoding
    | .ok _ => if s.isEmpty then refuse .emptyText else .ok s
  | .error fs => .error fs

/-- A value that may be null. -/
def optional (r : Reader α) : Reader (Option α)
  | .null => .ok none
  | v =>
    match r v with
    | .ok a => .ok (some a)
    | .error fs => .error fs

def falseWords : List String := ["0", "off", "f", "false", "n", "no"]

def trueWords : List String := ["1", "on", "t", "true", "y", "yes"]

/-- The truth value of a word; case in ASCII does not count. -/
def boolOfWord (cs : List Char) : Result Bool :=
  let word := String.ofList (cs.map Char.toLower)
  if falseWords.contains word then .ok false
  else if trueWords.contains word then .ok true
  else refuse .unreadableBool

/-- The truth value of a number that fits into 64 bits. -/
def boolOfInt (n : Int) : Result Bool :=
  if n = 0 then .ok false else if n = 1 then .ok true else refuse .unreadableBool

/-- A truth value. -/
def bool : Reader Bool
  | .bool b => .ok b
  | .text s => boolOfWord s.toList
  | .bytes bs =>
    match Text.Utf8.decode bs with
    | .ok cs => boolOfWord cs
    | .error _ => refuse .unreadableBool
  | .int n => if isWord64 n then boolOfInt n else refuse .noBool
  | .float x =>
    match x.toInt? with
    | some n => if isWord64 n && isWord64 (-n) then boolOfInt n else refuse .noBool
    | none => refuse .noBool
  | _ => refuse .noBool

/-- The items of a value that can be taken for a list. -/
def items? : Value → Option (List Value)
  | .list items => some items
  | .pair a b => some [a, b]
  | .set members => some members
  | _ => none

/-- A list, each item read by `r`. -/
def list (r : Reader α) : Reader (List α) := fun v =>
  match items? v with
  | none => refuse .noList
  | some items => all (items.mapIdx fun i v => under (.index i) (r v))

/-- The name that a key is. The step to a faulty key has a further one to the key itself. -/
def keyName (k : Value) : Result String :=
  under (Step.ofKey k) (under (.name "[key]") (text k))

/-- A table, the value under each name read by `r`. -/
def table (r : Reader α) : Reader (Table α)
  | .map entries =>
    match all (entries.map fun e => both (keyName e.1) (under (Step.ofKey e.1) (r e.2))) with
    | .ok l => .ok (Table.ofList l)
    | .error fs => .error fs
  | _ => refuse .noMap

/-- What stands under a name of a record, `other` if nothing does. -/
def member (entries : List (Value × Value)) (name : String) (r : Reader α) (other : Result α) :
    Result α :=
  match Value.find? (.text name) entries with
  | some v => under (.name name) (r v)
  | none => under (.name name) other

/-- What stands under a name that must be there. -/
def required (entries : List (Value × Value)) (name : String) (r : Reader α) : Result α :=
  member entries name r (refuse .missing)

/-- What stands under a name, or its usual value. -/
def withDefault (entries : List (Value × Value)) (name : String) (r : Reader α) (usual : α) :
    Result α :=
  member entries name r (.ok usual)

/-- The faults of the keys that a record does not have. -/
def strays (names : List String) (entries : List (Value × Value)) : List Fault :=
  entries.filterMap fun e =>
    match e.1 with
    | .text s => if names.contains s then none else some ⟨[.name s], .unknownName⟩
    | k => some ⟨[Step.ofKey k], .keyNoText⟩

end Record
end ClientGen
