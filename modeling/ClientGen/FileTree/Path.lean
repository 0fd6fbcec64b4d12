import ClientGen.Decimal.Digits
import ClientGen.Text.Lines
import ClientGen.Text.Quoted
import ClientGen.Text.Utf8

/-!
# Paths

A path is absolute or relative and is the list of its parts. Empty parts and single points do not
count; two points stay, because what they lead to depends on the files.
-/

namespace ClientGen
namespace FileTree

/-- Why a text cannot be handed to the system. The name of a place cannot hold the character that ends
it there, and surrogates have no bytes. -/
inductive TextFault
  | nulByte
  | encoding (f : Text.Utf8.Unencodable)
  deriving DecidableEq, Repr

def TextFault.message : TextFault → String
  | .nulByte => "embedded null byte"
  | .encoding f =>
    let place :=
      if f.first = f.last then
        "character '\\u" ++ String.ofList (Text.hex 4 f.code) ++ "' in position " ++
          Decimal.text f.first
      else "characters in position " ++ Decimal.text f.first ++ "-" ++ Decimal.text f.last
    "'utf-8' codec can't encode " ++ place ++ ": surrogates not allowed"

structure Path where
  absolute : Bool
  parts : List String
  deriving DecidableEq, Repr

namespace Path

def ofString (s : String) : Path :=
  let parts := ((Text.split '/' s.toList).filter fun p => p ≠ [] && p ≠ ['.']).map String.ofList
  ⟨s.toList.head? = some '/', parts⟩

/-- The parts with a slash between each two. -/
def slashed (parts : List String) : String :=
  String.ofList (Text.join '/' (parts.map String.toList))

/-- The written form; the path without parts is a point, or a slash if it is absolute. -/
def text (p : Path) : String :=
  if p.absolute then "/" ++ slashed p.parts
  else if p.parts.isEmpty then "." else slashed p.parts

/-- The path `q` seen from `p`. -/
def append (p q : Path) : Path :=
  if q.absolute then q else ⟨p.absolute, p.parts ++ q.parts⟩

/-- The last part. -/
def name (p : Path) : String :=
  p.parts.getLast?.getD ""

/-- The path without its last part. -/
def parent (p : Path) : Path :=
  ⟨p.absolute, p.parts.dropLast⟩

/-- The part of the name from its last point on. A point at either end of the name does not count. -/
def suffix (p : Path) : String :=
  let cs := p.name.toList
  let tail := (cs.reverse.takeWhile (· ≠ '.')).reverse
  let k := cs.length - tail.length
  if 1 < k && !tail.isEmpty then String.ofList ('.' :: tail) else ""

/-- Whether a surrogate stands for a byte that belongs to no character, as only a name can have it. -/
def isByte (n : Nat) : Bool :=
  0xDC80 ≤ n && n ≤ 0xDCFF

/-- What keeps a text from being a name; `before` code points stand before it in the path. -/
def nameFault? (before : Nat) (s : String) : Option TextFault :=
  match Text.Utf8.strayFrom isByte before (Text.codePoints s.toList) with
  | some f => some (.encoding f)
  | none => if s.toList.contains '\x00' then some .nulByte else none

/-- The number of code points of a path that stand before its next part. -/
def lead (p : Path) : Nat :=
  p.parts.foldr (fun s n => (Text.codePoints s.toList).length + 1 + n) (if p.absolute then 1 else 0)

/-- The path after two points: without its last part, if there is one that they undo. -/
def above (p : Path) : Path :=
  match p.parts.getLast? with
  | none | some ".." => if p.absolute then p else ⟨p.absolute, p.parts ++ [".."]⟩
  | some _ => p.parent

/-- Follows the parts from a path on, up to the first that is no name. -/
def faultFrom (p : Path) : List String → Option TextFault
  | [] => none
  | part :: rest =>
    if part = ".." then p.above.faultFrom rest
    else
      match nameFault? p.lead part with
      | some f => some f
      | none => faultFrom ⟨p.absolute, p.parts ++ [part]⟩ rest

/-- What keeps a path from leading to a place: the first part that is no name. -/
def fault? (p : Path) : Option TextFault :=
  faultFrom ⟨p.absolute, []⟩ p.parts

/-- The location that the parts lead to when two points undo the part before them. -/
def climb (location : List String) : List String → List String
  | [] => location
  | part :: rest => climb (if part = ".." then location.dropLast else location ++ [part]) rest

/-- The location of a path seen from the directory `cwd`, whatever files there are. -/
def resolve (cwd : List String) (p : Path) : List String :=
  climb (if p.absolute then [] else cwd) p.parts

/-- The absolute path to a location. -/
def ofLocation (location : List String) : Path :=
  ⟨true, location⟩

end Path
end FileTree
end ClientGen
