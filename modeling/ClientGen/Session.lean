import ClientGen.Code.Request
import ClientGen.Code.Struct
import ClientGen.FileTree.Write

/-!
# Sessions

A session collects the code of both files piece by piece and writes the files at its end. It is driven
by callbacks, which may come in any order and any number; a schema is delivered by a fixed row of
them. A callback that fails leaves the texts as they were, and what was written stays written.
-/

namespace ClientGen

open FileTree

/-- The code so far: the pieces of both files in order, the numbers of types and methods, and the sizes
of the files written. -/
structure Session where
  config : Config
  directory : Path
  types : List String
  methods : List String
  typeCount : Nat
  methodCount : Nat
  written : List (Path × Nat)

namespace Session

/-- Why a callback fails. -/
inductive Fault
  | code (f : Code.Fault)
  | file (f : FileTree.Fault)

/-- What a session is told. -/
inductive Callback
  | start
  | beforeTypes
  | type (name : String) (t : TypeDef)
  | afterTypes
  | beforeMethods
  | method (name : String) (m : Method)
  | afterMethods
  | finish

/-- A session without any code. -/
def new (directory : Path) (config : Config) : Session :=
  ⟨config, directory, [], [], 0, 0, []⟩

/-- The settings of a session that is given none: the usual ones, with its directory. -/
def configFor (directory : String) : Config :=
  { Config.usual with outputDir := directory }

def typesText (s : Session) : String :=
  Text.concat s.types

def methodsText (s : Session) : String :=
  Text.concat s.methods

/-- The names of both files with their texts. -/
def rendered (s : Session) : List (String × String) :=
  [(s.config.typesFile, s.typesText), (s.config.methodsFile, s.methodsText)]

def addType (s : Session) (piece : String) : Session :=
  { s with types := s.types ++ [piece] }

def addMethod (s : Session) (piece : String) : Session :=
  { s with methods := s.methods ++ [piece] }

/-- The sizes with that of one more file. A file that was written before keeps its place. -/
def noteSize (p : Path) (size : Nat) : List (Path × Nat) → List (Path × Nat)
  | [] => [(p, size)]
  | (q, n) :: rest => if q = p then (q, size) :: rest else (q, n) :: noteSize p size rest

/-- What came of a callback, or of a part of one. -/
structure Outcome (ε : Type) where
  disk : Disk
  session : Session
  log : List Log.Record
  fault : Option ε

/-- Writes files one after the other up to the first that fails. -/
def writeFiles (s : Session) (d : Disk) : List (String × String) → Outcome FileTree.Fault
  | [] => ⟨d, s, [], none⟩
  | (name, text) :: rest =>
    let path := s.directory.append (Path.ofString name)
    let w := writeFile d path text true
    match w.result with
    | .error f => ⟨w.disk, s, w.log, some f⟩
    | .ok size =>
      let wrote : Log.Record :=
        ⟨.info, .session, "Wrote " ++ path.text ++ " (" ++ Decimal.text size ++ " bytes)."⟩
      let o := writeFiles { s with written := noteSize path size s.written } w.disk rest
      { o with log := w.log ++ wrote :: o.log }

/-- Writes the file with the types and then the one with the methods. -/
def finish (s : Session) (d : Disk) : Outcome FileTree.Fault :=
  s.writeFiles d s.rendered

/-- The session after a callback. -/
def step (s : Session) (d : Disk) : Callback → Outcome Fault
  | .start | .afterTypes => ⟨d, s, [], none⟩
  | .beforeTypes => ⟨d, s.addType (Code.typesHeader s.config), [], none⟩
  | .type name t =>
    let log := Code.structLog s.config name t
    match Code.structText s.config name t with
    | .ok piece => ⟨d, { s.addType piece with typeCount := s.typeCount + 1 }, log, none⟩
    | .error f => ⟨d, s, log, some (.code f)⟩
  | .beforeMethods => ⟨d, s.addMethod (Code.methodsHeader s.config), [], none⟩
  | .method name m =>
    ⟨d, { s.addMethod (Code.methodText name m) with methodCount := s.methodCount + 1 },
      Code.methodLog name m, none⟩
  | .afterMethods => ⟨d, s.addMethod Code.methodsFooter, [], none⟩
  | .finish =>
    let o := s.finish d
    ⟨o.disk, o.session, o.log, o.fault.map .file⟩

/-- What is told before a callback of a delivery. -/
def Callback.announcement : Callback → List Log.Record
  | .type name _ => [⟨.debug, .session, "Generating type '" ++ name ++ "'."⟩]
  | .method name _ => [⟨.debug, .session, "Generating method '" ++ name ++ "'."⟩]
  | _ => []

/-- The session after announced callbacks, up to the first that fails. -/
def run (s : Session) (d : Disk) : List Callback → Outcome Fault
  | [] => ⟨d, s, [], none⟩
  | c :: rest =>
    let o := s.step d c
    match o.fault with
    | some f => ⟨o.disk, o.session, c.announcement ++ o.log, some f⟩
    | none =>
      let r := o.session.run o.disk rest
      { r with log := c.announcement ++ o.log ++ r.log }

/-- The callbacks that deliver a schema; the files are written only if they shall be. -/
def delivery (s : Schema) (write : Bool) : List Callback :=
  [.start, .beforeTypes] ++ s.types.toList.map (fun p => .type p.1 p.2) ++
    [.afterTypes, .beforeMethods] ++ s.methods.toList.map (fun p => .method p.1 p.2) ++
    .afterMethods :: if write then [.finish] else []

/-- What is told at the end of a delivery. -/
def closingLog (write : Bool) : List Log.Record :=
  if write then [] else [⟨.info, .session, "Skipping finish(): nothing written."⟩]

/-- What is told by a delivery itself, whatever comes of its callbacks. -/
def deliveryLog (s : Schema) (write : Bool) : List Log.Record :=
  (delivery s write).flatMap Callback.announcement ++ closingLog write

/-- The session after a schema was delivered to it. -/
def deliver (s : Session) (d : Disk) (schema : Schema) (write : Bool) : Outcome Fault :=
  let o := s.run d (delivery schema write)
  match o.fault with
  | some _ => o
  | none => { o with log := o.log ++ closingLog write }

end Session
end ClientGen
