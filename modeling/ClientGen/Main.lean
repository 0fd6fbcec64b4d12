import ClientGen.CommandLine.Command

/-!
# The program

The command is a function of the files that it looks at. The program surveys the places that matter,
runs the command on the survey, surveys the places that it would write to, runs it again and makes the
changes.
-/

namespace ClientGen
namespace Program

open FileTree

/-- A text as the system has it; a surrogate is shown by its escape. -/
def native (s : String) : String :=
  String.ofList ((Text.codePoints s.toList).flatMap fun n =>
    if Text.isSurrogate n then '\\' :: 'u' :: Text.hex 4 n else [Char.ofNat n])

/-- The text that the system has in this form. -/
def ofNative (s : String) : String :=
  String.ofList (Text.heldChars s.toList)

def slashed (location : List String) : String :=
  native (Path.ofLocation location).text

/-- The tree with the places from the root to a location as they are found. -/
def survey (root : Entry) (done : List String) : List String → IO Entry
  | [] => return root
  | name :: rest => do
    let here := done ++ [name]
    let place := (← IO.currentDir) / slashed here
    if ← place.isDir then
      let root := if (root.at? here).isSome then root else root.set here (.dir [])
      survey root here rest
    else if ← place.pathExists then
      let content ← IO.FS.readBinFile place
      return root.set here (.file content.data.toList)
    else return root

mutual

/-- The locations of all files in a tree, each with its content. -/
def files (location : List String) : Entry → List (List String × List UInt8)
  | .file content => [(location, content)]
  | .dir entries => filesIn location entries

def filesIn (location : List String) : List (String × Entry) → List (List String × List UInt8)
  | [] => []
  | (name, e) :: rest => files (location ++ [name]) e ++ filesIn location rest

end

/-- The files that a command has written. -/
def changes (before after : Disk) : List (List String × List UInt8) :=
  (files [] after.root).filter fun (location, content) =>
    match before.root.at? location with
    | some (.file old) => old != content
    | _ => true

/-- The location of the schema that the arguments name. -/
def schemaLocation (cwd : List String) (arguments : List String) : List String :=
  match CommandLine.request arguments with
  | .ok (.work schema _) => (Path.ofString schema).resolve cwd
  | _ => []

/-- Writes a file beside its place and moves it there. -/
def writeChange (change : List String × List UInt8) : IO Unit := do
  let around := change.1.dropLast
  let name := change.1.getLast?.getD ""
  IO.FS.createDirAll (slashed around)
  let temporary := slashed (around ++ [Disk.temporaryName name 0])
  IO.FS.writeBinFile temporary ⟨change.2.toArray⟩
  IO.FS.rename temporary (slashed change.1)

/-- A number of seconds as hours, minutes and seconds. -/
def clockText (seconds : Nat) : String :=
  let two (n : Nat) : String := String.ofList (Decimal.padded 2 n)
  two (seconds / 3600 % 24) ++ ":" ++ two (seconds / 60 % 60) ++ ":" ++ two (seconds % 60)

/-- Runs the command on the files of the machine. -/
def run (arguments : List String) : IO UInt32 := do
  let arguments := arguments.map ofNative
  let cwd := (Path.ofString (ofNative (← IO.currentDir).toString)).resolve []
  let time := clockText ((← IO.monoMsNow) / 1000)
  let root ← survey (.dir []) [] cwd
  let root ← survey root [] (schemaLocation cwd arguments)
  let planned := changes ⟨root, cwd⟩ (CommandLine.run ⟨root, cwd⟩ time arguments).disk
  let root ← planned.foldlM (fun root change => survey root [] change.1) root
  let before : Disk := ⟨root, cwd⟩
  let outcome := CommandLine.run before time arguments
  (changes before outcome.disk).forM writeChange
  IO.print (native outcome.output)
  IO.eprint (native outcome.errors)
  if let .error escape := outcome.ending then IO.eprintln (native escape.message)
  return (CommandLine.status outcome.ending).toUInt32

end Program
end ClientGen

def main (arguments : List String) : IO UInt32 :=
  ClientGen.Program.run arguments
