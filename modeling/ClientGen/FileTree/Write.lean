import ClientGen.Decimal.Digits
import ClientGen.FileTree.Basic
import ClientGen.Log
import ClientGen.Text.Quoted
import ClientGen.Text.Utf8

/-!
# Writing files

A file is written whole or not at all: its text goes to a temporary file beside it, which then takes
its place. Missing directories on the way are made first and stay also if the rest fails.
-/

namespace ClientGen
namespace FileTree

/-- A problem with a path, or with moving one path to another. -/
structure Fault where
  problem : Problem
  path : String
  target : Option String
  deriving DecidableEq, Repr

namespace Problem

/-- The name by which a report calls the problem. -/
def word : Problem → String
  | .missing => "FileNotFoundError"
  | .notDirectory => "NotADirectoryError"
  | .occupied => "FileExistsError"
  | .isDirectory => "IsADirectoryError"
  | .busy => "OSError"
  | .text .nulByte => "ValueError"
  | .text (.encoding _) => "UnicodeEncodeError"

/-- The number and the wording of the problem. -/
def wording : Problem → String
  | .missing => "[Errno 2] No such file or directory"
  | .notDirectory => "[Errno 20] Not a directory"
  | .occupied => "[Errno 17] File exists"
  | .isDirectory => "[Errno 21] Is a directory"
  | .busy => "[Errno 16] Device or resource busy"
  | .text f => f.message

end Problem

def Fault.message (f : Fault) : String :=
  if f.problem.isText then f.problem.wording
  else
    f.problem.wording ++ ": " ++ Text.quoted f.path ++
      match f.target with
      | none => ""
      | some t => " -> " ++ Text.quoted t

namespace Disk

/-- Makes one directory in an existing one. -/
def makeDir (d : Disk) (p : Path) : Except Problem Disk :=
  match d.slot p with
  | .error e => .error e
  | .ok (.free location) => .ok (d.put location (.dir []))
  | .ok _ => .error .occupied

/-- Makes a directory, with the missing ones around it; one that exists is as good. The number
bounds the directories around it. -/
def ensureWithin : Nat → Disk → Path → Disk × Except Fault Unit
  | 0, d, p => (d, .error ⟨.missing, p.text, none⟩)
  | n + 1, d, p =>
    let settle (d : Disk) (e : Problem) : Disk × Except Fault Unit :=
      if e ≠ .missing && !e.isText && d.isDir p then (d, .ok ())
      else (d, .error ⟨e, p.text, none⟩)
    match d.makeDir p with
    | .ok d => (d, .ok ())
    | .error .missing =>
      if p.parts.isEmpty then (d, .error ⟨.missing, p.text, none⟩)
      else
        match ensureWithin n d p.parent with
        | (d, .error f) => (d, .error f)
        | (d, .ok ()) =>
          match d.makeDir p with
          | .ok d => (d, .ok ())
          | .error e => settle d e
    | .error e => settle d e

/-- Makes a directory unless it exists. -/
def ensureDirectory (d : Disk) (p : Path) : Disk × Except Fault Unit :=
  ensureWithin (p.parts.length + 1) d p

/-- The names that the temporary file for a file may get, each with a longer mark than the one
before. -/
def temporaryName (name : String) (n : Nat) : String :=
  "." ++ name ++ "." ++ String.ofList (List.replicate (8 + n) 'X') ++ ".tmp"

/-- The first name for the temporary file that is not taken. One more than there are taken names is
enough to look at. -/
def freshName (taken : List String) (name : String) : String :=
  let names := (List.range (taken.length + 1)).map (temporaryName name)
  (names.find? fun t => !taken.contains t).getD (temporaryName name 0)

/-- The names in the directory at a location. -/
def namesAt (d : Disk) (location : List String) : List String :=
  match d.root.at? location with
  | some (.dir entries) => entries.map Prod.fst
  | _ => []

/-- Writes a file in its place. -/
def overwrite (d : Disk) (p : Path) (content : List UInt8) : Disk × Except Fault Unit :=
  let failed (e : Problem) : Disk × Except Fault Unit := (d, .error ⟨e, p.text, none⟩)
  match d.slot p with
  | .error e => failed e
  | .ok .unnamed => failed .isDirectory
  | .ok (.taken _ (.dir _)) => failed .isDirectory
  | .ok (.taken location _) => (d.put location (.file content), .ok ())
  | .ok (.free location) => (d.put location (.file content), .ok ())

/-- Moves the file at a location to a path, where it takes the place of a file. -/
def moveFile (d : Disk) (source : List String) (content : List UInt8) (p : Path) :
    Except Problem Disk :=
  match d.slot p with
  | .error e => .error e
  | .ok .unnamed => .error .busy
  | .ok (.taken _ (.dir _)) => .error .isDirectory
  | .ok (.taken location _) => .ok ((d.delete source).put location (.file content))
  | .ok (.free location) => .ok ((d.delete source).put location (.file content))

/-- Writes a temporary file and moves it to its place. If it cannot be moved it is deleted. -/
def replace (d : Disk) (p : Path) (content : List UInt8) : Disk × Except Fault Unit :=
  match p.fault? with
  | some f => (d, .error ⟨.text f, p.text, none⟩)
  | none =>
    let around := p.parent.resolve d.cwd
    let temporary := around ++ [freshName (d.namesAt around) p.name]
    let held := d.put temporary (.file content)
    match held.moveFile temporary content p with
    | .ok d => (d, .ok ())
    | .error e =>
      (held.delete temporary,
        .error ⟨e, (Path.ofLocation temporary).text, some p.text⟩)

end Disk

/-- What came of writing a file. -/
structure Written where
  disk : Disk
  result : Except Fault Nat
  log : List Log.Record

/-- Writes a text to a path as UTF-8 and tells the number of bytes. -/
def writeFile (d : Disk) (p : Path) (text : String) (atomic : Bool) : Written :=
  match d.ensureDirectory p.parent with
  | (d, .error f) => ⟨d, .error f, []⟩
  | (d, .ok ()) =>
    let ensured : Log.Record :=
      ⟨.debug, .files, "Ensured directory exists: " ++ p.parent.text⟩
    match Text.Utf8.encode text with
    | .error f => ⟨d, .error ⟨.text (.encoding f), p.text, none⟩, [ensured]⟩
    | .ok content =>
      let size := content.length
      match if atomic then d.replace p content else d.overwrite p content with
      | (d, .error f) => ⟨d, .error f, [ensured]⟩
      | (d, .ok ()) =>
        let wrote : Log.Record :=
          ⟨.debug, .files, "Wrote " ++ Decimal.text size ++ " bytes to " ++ p.text⟩
        ⟨d, .ok size, [ensured, wrote]⟩

end FileTree
end ClientGen
