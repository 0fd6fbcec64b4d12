import ClientGen.Decimal.Binary64
import ClientGen.Value.Calendar

/-!
# Document values

What a schema document holds before anything is known about its meaning. A mapping keeps its entries
in order and has each key once; keys are equal as numbers where they are numbers, so `1`, `1.0` and
true are one key.
-/

namespace ClientGen

open Decimal

/-- A value of a document. -/
inductive Value
  | null
  | bool (b : Bool)
  | int (n : Int)
  | float (x : Binary64)
  | text (s : String)
  | bytes (bs : List UInt8)
  | date (d : Value.Date)
  | moment (t : Value.Moment)
  | list (items : List Value)
  | pair (first second : Value)
  | set (members : List Value)
  | map (entries : List (Value × Value))
  deriving Repr, Inhabited

namespace Value

/-- Whether the value can be a key. -/
def isKey : Value → Bool
  | .list _ | .pair _ _ | .set _ | .map _ => false
  | _ => true

/-- The whole number that a boolean, a whole number or a floating-point one stands for. -/
def whole? : Value → Option Int
  | .bool b => some (if b then 1 else 0)
  | .int n => some n
  | .float x => x.toInt?
  | _ => none

/-- Whether two keys are one. -/
def sameKey (a b : Value) : Bool :=
  match a, b with
  | .null, .null => true
  | .text s, .text t => s == t
  | .bytes s, .bytes t => s == t
  | .date d, .date e => d == e
  | .moment d, .moment e => d.same e
  | .float .nan, .float .nan => true
  | .float x, .float y => x.same y
  | a, b =>
    match a.whole?, b.whole? with
    | some m, some n => m == n
    | _, _ => false

/-- The value under a key. -/
def find? (key : Value) : List (Value × Value) → Option Value
  | [] => none
  | (k, v) :: rest => if k.sameKey key then some v else find? key rest

/-- The entries with `value` under `key`: an old key keeps its place, a new one comes last. -/
def put (key value : Value) : List (Value × Value) → List (Value × Value)
  | [] => [(key, value)]
  | (k, v) :: rest => if k.sameKey key then (k, value) :: rest else (k, v) :: put key value rest

/-- The mapping that results from putting the entries one after the other. -/
def ofEntries (entries : List (Value × Value)) : List (Value × Value) :=
  entries.foldl (fun acc e => put e.1 e.2 acc) []

/-- Empty and zero values, false and null do not count as given. -/
def isGiven : Value → Bool
  | .null => false
  | .bool b => b
  | .int n => n != 0
  | .float x => !x.isZero
  | .text s => !s.isEmpty
  | .bytes bs => !bs.isEmpty
  | .list items => !items.isEmpty
  | .set members => !members.isEmpty
  | .map entries => !entries.isEmpty
  | .date _ | .moment _ | .pair _ _ => true

/-- The word by which a message names the kind of a value. -/
def kind : Value → String
  | .null => "NoneType"
  | .bool _ => "bool"
  | .int _ => "int"
  | .float _ => "float"
  | .text _ => "str"
  | .bytes _ => "bytes"
  | .date _ => "date"
  | .moment _ => "datetime"
  | .list _ => "list"
  | .pair _ _ => "tuple"
  | .set _ => "set"
  | .map _ => "dict"

/-- The full word for the kind of a value. -/
def typeName : Value → String
  | .date _ => "datetime.date"
  | .moment _ => "datetime.datetime"
  | v => v.kind

end Value
end ClientGen
