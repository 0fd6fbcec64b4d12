import ClientGen.FileTree.Path

/-!
# Trees of files

A directory holds named entries, a file holds bytes. A location is the list of names that lead from
the root to an entry. A disk is a tree with the directory in which relative paths start.
-/

namespace ClientGen
namespace FileTree

/-- What stands at a location. -/
inductive Entry
  | file (content : List UInt8)
  | dir (entries : List (String × Entry))

/-- The entries with `e` under the name `n`, in its old place if there is one. -/
def putEntry (n : String) (e : Entry) : List (String × Entry) → List (String × Entry)
  | [] => [(n, e)]
  | (m, old) :: rest => if m = n then (m, e) :: rest else (m, old) :: putEntry n e rest

namespace Entry

def isDir : Entry → Bool
  | .dir _ => true
  | .file _ => false

/-- The entry at a location below this one. -/
def at? : Entry → List String → Option Entry
  | e, [] => some e
  | .file _, _ :: _ => none
  | .dir es, n :: rest =>
    match es.lookup n with
    | some e => e.at? rest
    | none => none

/-- The tree with `new` at the location. The directory around it has to exist. -/
def set : Entry → List String → Entry → Entry
  | _, [], new => new
  | .file c, _ :: _, _ => .file c
  | .dir es, n :: rest, new =>
    .dir (putEntry n (((es.lookup n).getD (.dir [])).set rest new) es)

/-- The tree without the entry at the location. -/
def remove : Entry → List String → Entry
  | e, [] => e
  | .file c, _ :: _ => .file c
  | .dir es, [n] => .dir (es.filter fun e => e.1 ≠ n)
  | .dir es, n :: rest =>
    match es.lookup n with
    | some e => .dir (putEntry n (e.remove rest) es)
    | none => .dir es

@[simp] theorem at?_nil (e : Entry) : e.at? [] = some e := by
  cases e <;> rfl

end Entry

/-- Why a place cannot be used. -/
inductive Problem
  | missing
  | notDirectory
  | occupied
  | isDirectory
  | busy
  | text (f : TextFault)
  deriving DecidableEq, Repr

/-- Whether a text is the problem, and not what stands at the place. -/
def Problem.isText : Problem → Bool
  | .text _ => true
  | _ => false

structure Disk where
  root : Entry
  cwd : List String

namespace Disk

/-- Follows the parts from a location. Two points lead to the directory around, all else to an entry
of that name. -/
def walk (root : Entry) (location : List String) : List String → Except Problem (List String)
  | [] => .ok location
  | part :: rest =>
    match root.at? location with
    | some (.dir es) =>
      if part = ".." then walk root location.dropLast rest
      else
        match es.lookup part with
        | some _ => walk root (location ++ [part]) rest
        | none => .error .missing
    | some (.file _) => .error .notDirectory
    | none => .error .missing

/-- The location of what a path leads to. -/
def locate (d : Disk) (p : Path) : Except Problem (List String) :=
  match p.fault? with
  | some f => .error (.text f)
  | none => walk d.root (if p.absolute then [] else d.cwd) p.parts

/-- What a path leads to. -/
def entry? (d : Disk) (p : Path) : Option Entry :=
  match d.locate p with
  | .ok location => d.root.at? location
  | .error _ => none

def isDir (d : Disk) (p : Path) : Bool :=
  match d.entry? p with
  | some e => e.isDir
  | none => false

/-- The file that a path leads to. -/
def file? (d : Disk) (p : Path) : Option (List UInt8) :=
  match d.entry? p with
  | some (.file content) => some content
  | _ => none

/-- Where the last part of a path has its place, and what stands there. -/
inductive Slot
  /-- The path ends in no name: it leads to a directory, if to anything. -/
  | unnamed
  | free (location : List String)
  | taken (location : List String) (e : Entry)

/-- The place of the last part of a path. -/
def slot (d : Disk) (p : Path) : Except Problem Slot := do
  if let some f := p.fault? then throw (.text f)
  match p.parts.getLast? with
  | none => return .unnamed
  | some name =>
    if name = ".." then
      let _ ← d.locate p
      return .unnamed
    else
      let around ← d.locate p.parent
      match d.root.at? around with
      | some (.dir es) =>
        match es.lookup name with
        | some e => return .taken (around ++ [name]) e
        | none => return .free (around ++ [name])
      | _ => throw .notDirectory

/-- The disk with an entry put at a location. -/
def put (d : Disk) (location : List String) (e : Entry) : Disk :=
  { d with root := d.root.set location e }

def delete (d : Disk) (location : List String) : Disk :=
  { d with root := d.root.remove location }

/-- The absolute path that a path stands for, whatever files there are. -/
def resolve (d : Disk) (p : Path) : Path :=
  Path.ofLocation (p.resolve d.cwd)

end Disk
end FileTree
end ClientGen
