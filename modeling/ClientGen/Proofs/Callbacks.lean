import ClientGen.Proofs.Extension
import ClientGen.Proofs.Leniency
import ClientGen.Proofs.Reports

/-! What a session holds. Whatever it was told and however often, it holds the code of the callbacks
that returned, in their order. A callback that fails leaves the texts and the counts as they were,
and a delivery is no more than its callbacks, up to the first that fails. -/

namespace ClientGen

open FileTree
open Text.Utf8 (bytes)

namespace Session

/-! ## What a session takes in -/

/-- What a callback adds to the file with the types. -/
def Callback.typePieces (c : Config) : Callback → List String
  | .beforeTypes => [Code.typesHeader c]
  | .type name t => (Code.structText c name t).toOption.toList
  | _ => []

/-- Whether a callback brings a type. -/
def Callback.isType : Callback → Bool
  | .type _ _ => true
  | _ => false

/-- Whether a callback brings a method. -/
def Callback.isMethod : Callback → Bool
  | .method _ _ => true
  | _ => false

/-- The session `z` holds what `s` held and then what the callbacks `done` have brought. -/
structure Grown (s z : Session) (done : List Callback) : Prop where
  config : z.config = s.config
  directory : z.directory = s.directory
  types : z.types = s.types ++ done.flatMap (Callback.typePieces s.config)
  methods : z.methods = s.methods ++ done.flatMap (Callback.methodPieces s.config)
  typeCount : z.typeCount = s.typeCount + done.countP Callback.isType
  methodCount : z.methodCount = s.methodCount + done.countP Callback.isMethod
  rendered : ∀ name t, .type name t ∈ done → ∃ piece, Code.structText s.config name t = .ok piece

theorem Grown.refl (s : Session) : Grown s s [] :=
  ⟨rfl, rfl, by simp, by simp, rfl, rfl, by simp⟩

theorem Grown.trans {s y z : Session} {a b : List Callback} (h : Grown s y a) (k : Grown y z b) :
    Grown s z (a ++ b) where
  config := k.config.trans h.config
  directory := k.directory.trans h.directory
  types := by rw [k.types, h.types, h.config, List.flatMap_append, List.append_assoc]
  methods := by rw [k.methods, h.methods, h.config, List.flatMap_append, List.append_assoc]
  typeCount := by rw [k.typeCount, h.typeCount, List.countP_append, Nat.add_assoc]
  methodCount := by rw [k.methodCount, h.methodCount, List.countP_append, Nat.add_assoc]
  rendered := by
    intro name t hm
    rcases List.mem_append.mp hm with hm | hm
    · exact h.rendered name t hm
    · obtain ⟨piece, hp⟩ := k.rendered name t hm
      exact ⟨piece, h.config ▸ hp⟩

/-- Only the sizes of the files that are written change at the end of a session. -/
theorem finish_session (s : Session) (d : Disk) :
    (s.finish d).session = { s with written := (s.finish d).session.written } := by
  obtain ⟨done, h⟩ := s.writeFiles_first d s.rendered
  have hs : (s.finish d).session = { s with written := noteAll s.directory done s.written } :=
    h.session
  rw [hs]

/-- A callback that returns brings its code, and one that fails brings nothing. -/
theorem step_grown (s : Session) (d : Disk) (b : Callback) :
    Grown s (s.step d b).session (if (s.step d b).fault = none then [b] else []) := by
  cases b with
  | type name t =>
    cases ht : Code.structText s.config name t with
    | error f => simpa [step, ht] using Grown.refl s
    | ok piece =>
      simp only [step, ht, if_true]
      refine ⟨rfl, rfl, ?_, ?_, rfl, rfl, ?_⟩
      · simp [addType, Callback.typePieces, ht, Except.toOption]
      · simp [addType, Callback.methodPieces]
      · intro name' t' hm
        cases List.mem_singleton.mp hm
        exact ⟨piece, ht⟩
  | finish =>
    have hs : (s.step d .finish).session = { s with written := (s.finish d).session.written } :=
      s.finish_session d
    rw [hs]
    split <;> exact ⟨rfl, rfl, by simp [Callback.typePieces], by simp [Callback.methodPieces], rfl,
      rfl, by simp⟩
  | _ =>
    simp only [step, if_true]
    exact ⟨rfl, rfl, by simp [addType, addMethod, Callback.typePieces],
      by simp [addType, addMethod, Callback.methodPieces], rfl, rfl, by simp⟩

/-! ## Runs of callbacks -/

/-- A session and the disk that it writes to. -/
structure Scene where
  session : Session
  disk : Disk

namespace Scene

/-- Why a callback fails, if it does. -/
def fault? (x : Scene) (b : Callback) : Option Fault :=
  (x.session.step x.disk b).fault

/-- What a callback leaves, whether it returns or fails. -/
def tell (x : Scene) (b : Callback) : Scene :=
  ⟨(x.session.step x.disk b).session, (x.session.step x.disk b).disk⟩

theorem tell_finish (x : Scene) : x.tell .finish =
    ⟨(x.session.finish x.disk).session, (x.session.finish x.disk).disk⟩ := by
  simp only [tell, step]

/-- Only the end leaves something else when it fails. -/
theorem tell_of_fault {x : Scene} {b : Callback} (hb : b ≠ .finish) (hf : x.fault? b ≠ none) :
    x.tell b = x := by
  cases b with
  | type name t =>
    cases ht : Code.structText x.session.config name t with
    | error f => simp only [tell, step, ht]
    | ok piece => simp [fault?, step, ht] at hf
  | finish => exact absurd rfl hb
  | _ => simp [fault?, step] at hf

/-- What callbacks leave that are told one after the other. -/
def tellAll (x : Scene) (bs : List Callback) : Scene :=
  bs.foldl tell x

/-- The callbacks before the first one that fails. -/
def returned (x : Scene) : List Callback → List Callback
  | [] => []
  | b :: rest => if x.fault? b = none then b :: (x.tell b).returned rest else []

/-- An outcome is that of callbacks up to the first that fails: each of `done` returns when they are
told in turn, and if there is one behind them, it fails and is the last that is told. -/
structure Cut (x : Scene) (bs done : List Callback) (o : Outcome Fault) : Prop where
  returned : ∀ before b rest, done = before ++ b :: rest → (x.tellAll before).fault? b = none
  whole : o.fault = none → done = bs ∧ ⟨o.session, o.disk⟩ = x.tellAll bs
  cut : ∀ f, o.fault = some f → ∃ b rest, bs = done ++ b :: rest ∧
    (x.tellAll done).fault? b = some f ∧ ⟨o.session, o.disk⟩ = (x.tellAll done).tell b

theorem Cut.nil (x : Scene) (log : List Log.Record) : Cut x [] [] ⟨x.disk, x.session, log, none⟩ :=
  ⟨by simp, fun _ => ⟨rfl, rfl⟩, fun _ hf => by cases hf⟩

theorem Cut.cons {x : Scene} {b : Callback} {bs done : List Callback} {o : Outcome Fault}
    (hb : x.fault? b = none) (h : Cut (x.tell b) bs done o) : Cut x (b :: bs) (b :: done) o where
  returned := by
    intro before b' after' he
    cases before with
    | nil =>
      obtain ⟨rfl, -⟩ := List.cons.inj he
      exact hb
    | cons first before =>
      obtain ⟨rfl, hrest⟩ := List.cons.inj he
      exact h.returned before b' after' hrest
  whole := fun hf => ⟨congrArg (b :: ·) (h.whole hf).1, (h.whole hf).2⟩
  cut := by
    intro f hf
    obtain ⟨b', rest, rfl, hb', hs⟩ := h.cut f hf
    exact ⟨b', rest, rfl, hb', hs⟩

theorem Cut.withLog {x : Scene} {bs done : List Callback} {o : Outcome Fault}
    (h : Cut x bs done o) (log : List Log.Record) : Cut x bs done { o with log := log } :=
  ⟨h.returned, h.whole, h.cut⟩

/-- A run is that of its callbacks up to the first that fails. -/
theorem run_cut (x : Scene) (bs : List Callback) :
    Cut x bs (x.returned bs) (x.session.run x.disk bs) := by
  induction bs generalizing x with
  | nil => exact .nil x []
  | cons b rest ih =>
    cases hf : x.fault? b with
    | none =>
      have hs : (x.session.step x.disk b).fault = none := hf
      simp only [returned, hf, if_true, run, hs]
      exact .withLog (.cons hf (ih (x.tell b))) _
    | some f =>
      have hs : (x.session.step x.disk b).fault = some f := hf
      simp only [returned, hf, reduceCtorEq, if_false, run, hs]
      refine ⟨by simp, fun h => (by cases h), fun g hg => ⟨b, rest, rfl, ?_, rfl⟩⟩
      cases hg
      exact hf

theorem run_grown (x : Scene) (bs : List Callback) :
    Grown x.session (x.session.run x.disk bs).session (x.returned bs) := by
  induction bs generalizing x with
  | nil => exact .refl _
  | cons b rest ih =>
    have hb := step_grown x.session x.disk b
    cases hf : x.fault? b with
    | none =>
      have hs : (x.session.step x.disk b).fault = none := hf
      simp only [hs, if_true] at hb
      simp only [returned, hf, if_true, run, hs]
      exact hb.trans (ih (x.tell b))
    | some f =>
      have hs : (x.session.step x.disk b).fault = some f := hf
      simp only [hs, reduceCtorEq, if_false] at hb
      simp only [returned, hf, reduceCtorEq, if_false, run, hs]
      exact hb

end Scene

/-! ## Acts -/

/-- What is done with a session: it is told a single callback, or a schema is delivered to it. -/
inductive Act
  | tell (b : Callback)
  | deliver (schema : Schema) (write : Bool)

/-- The callbacks of an act. -/
def Act.callbacks : Act → List Callback
  | .tell b => [b]
  | .deliver schema write => delivery schema write

namespace Scene

/-- What an act leaves, whether it returns or fails. -/
def next (x : Scene) : Act → Scene
  | .tell b => x.tell b
  | .deliver schema write =>
    let o := x.session.deliver x.disk schema write
    ⟨o.session, o.disk⟩

/-- What acts leave that follow one another, each also after one that failed. -/
def after (x : Scene) (acts : List Act) : Scene :=
  acts.foldl next x

/-- The callbacks of acts that have returned. -/
def heard (x : Scene) : List Act → List Callback
  | [] => []
  | a :: rest => x.returned a.callbacks ++ (x.next a).heard rest

theorem deliver_cut (x : Scene) (schema : Schema) (write : Bool) :
    Cut x (delivery schema write) (x.returned (delivery schema write))
      (x.session.deliver x.disk schema write) := by
  obtain ⟨log, he⟩ := x.session.deliver_eq x.disk schema write
  rw [he]
  exact (x.run_cut _).withLog log

theorem next_grown (x : Scene) (a : Act) :
    Grown x.session (x.next a).session (x.returned a.callbacks) := by
  cases a with
  | tell b =>
    exact step_grown x.session x.disk b
  | deliver schema write =>
    obtain ⟨log, he⟩ := x.session.deliver_eq x.disk schema write
    have hr := x.run_grown (delivery schema write)
    simp only [next, he]
    exact hr

/-- A delivery that does not fail brings the code of all its callbacks. -/
theorem deliver_grown {x : Scene} {schema : Schema} {write : Bool}
    (hf : (x.session.deliver x.disk schema write).fault = none) :
    Grown x.session (x.session.deliver x.disk schema write).session (delivery schema write) := by
  have hg : Grown x.session (x.session.deliver x.disk schema write).session
      (x.returned (delivery schema write)) := x.next_grown (.deliver schema write)
  rwa [((x.deliver_cut schema write).whole hf).1] at hg

theorem after_grown (x : Scene) (acts : List Act) :
    Grown x.session (x.after acts).session (x.heard acts) := by
  induction acts generalizing x with
  | nil => exact .refl _
  | cons a rest ih => exact (x.next_grown a).trans (ih (x.next a))

theorem next_reached {directory : Path} {c : Config} {x : Scene}
    (h : Reached directory c x.session) (a : Act) : Reached directory c (x.next a).session := by
  cases a with
  | tell b => exact h.step x.disk b
  | deliver schema write => exact h.deliver x.disk schema write

theorem after_reached {directory : Path} {c : Config} {x : Scene}
    (h : Reached directory c x.session) (acts : List Act) :
    Reached directory c (x.after acts).session := by
  induction acts generalizing x with
  | nil => exact h
  | cons a rest ih => exact ih (next_reached h a)

end Scene

/-! ## The code of a schema -/

section Delivery

variable (c : Config) (schema : Schema) (write : Bool)

theorem typePieces_delivery : (delivery schema write).flatMap (Callback.typePieces c) =
    Code.typesHeader c ::
      schema.types.toList.flatMap fun p => (Code.structText c p.1 p.2).toOption.toList := by
  have htypes : (schema.types.toList.map fun p => Callback.type p.1 p.2).flatMap
      (Callback.typePieces c) =
      schema.types.toList.flatMap fun p => (Code.structText c p.1 p.2).toOption.toList := by
    rw [List.flatMap_map]
    rfl
  have hmethods : (schema.methods.toList.map fun p => Callback.method p.1 p.2).flatMap
      (Callback.typePieces c) = [] := by
    simp [List.flatMap_map, Callback.typePieces]
  cases write <;> simp [delivery, htypes, hmethods, Callback.typePieces]

variable {c schema write}

/-- The code that a new session holds when a schema was delivered to it. -/
theorem deliver_pieces {directory : Path} {d : Disk}
    (hf : ((Session.new directory c).deliver d schema write).fault = none) :
    ((Session.new directory c).deliver d schema write).session.types =
        Code.typesHeader c ::
          schema.types.toList.flatMap (fun p => (Code.structText c p.1 p.2).toOption.toList) ∧
      ((Session.new directory c).deliver d schema write).session.methods =
        Code.methodsHeader c :: (schema.methods.toList.map fun p => Code.methodText p.1 p.2) ++
          [Code.methodsFooter] ∧
      ∀ p ∈ schema.types.toList, ∃ text, Code.structText c p.1 p.2 = .ok text := by
  have hgrown : Grown (Session.new directory c)
      ((Session.new directory c).deliver d schema write).session (delivery schema write) :=
    Scene.deliver_grown (x := ⟨.new directory c, d⟩) hf
  refine ⟨?_, ?_, fun p hp => hgrown.rendered p.1 p.2 (by simp [delivery, hp])⟩
  · rw [hgrown.types]
    exact typePieces_delivery c schema write
  · rw [hgrown.methods]
    exact methodPieces_delivery c schema write

end Delivery

/-! ## Files of a session -/

theorem noteAll_cons_of_not_mem {directory p : Path} {n : Nat} {files : List (String × String)}
    (h : p ∉ files.map fun q => directory.child q.1) (w : List (Path × Nat)) :
    noteAll directory files ((p, n) :: w) = (p, n) :: noteAll directory files w := by
  induction files generalizing w with
  | nil => rfl
  | cons q rest ih =>
    simp only [List.map_cons, List.mem_cons, not_or] at h
    simp only [noteAll, List.foldl_cons, noteSize, h.1, if_false] at ih ⊢
    exact ih h.2 _

/-- Where all files are written again, in their order, the sizes are those of the last time. -/
theorem noteAll_again {directory : Path} {files : List (String × String)} {w : List (Path × Nat)}
    (hn : (files.map fun q => directory.child q.1).Nodup)
    (hw : w.map Prod.fst <+: files.map fun q => directory.child q.1) :
    noteAll directory files w = files.map fun q => (directory.child q.1, (bytes q.2).length) := by
  induction files generalizing w with
  | nil =>
    have hnil : w = [] := by simpa using hw
    rw [hnil]
    rfl
  | cons q rest ih =>
    obtain ⟨hq, hrest⟩ := List.nodup_cons.mp hn
    obtain ⟨more, hmore, hfirst⟩ : ∃ more,
        more.map Prod.fst <+: rest.map (fun q => directory.child q.1) ∧
        noteSize (directory.child q.1) (bytes q.2).length w =
          (directory.child q.1, (bytes q.2).length) :: more := by
      cases w with
      | nil => exact ⟨[], by simp, rfl⟩
      | cons first more =>
        obtain ⟨hp, hmore⟩ := List.cons_prefix_cons.mp hw
        exact ⟨more, hmore, by simp [noteSize, hp]⟩
    calc noteAll directory (q :: rest) w
        = noteAll directory rest (noteSize (directory.child q.1) (bytes q.2).length w) := rfl
      _ = (directory.child q.1, (bytes q.2).length) :: noteAll directory rest more := by
          rw [hfirst, noteAll_cons_of_not_mem hq]
      _ = _ := by rw [ih hrest hmore, List.map_cons]

variable {directory : Path} {c : Config} {s : Session}

/-- At the end of a session both files are noted with their sizes, and they hold the texts. -/
theorem finish_files (h : Reached directory c s) (hc : c.PlainExtension) {d : Disk}
    (hf : (s.finish d).fault = none) :
    (s.finish d).session.written =
        s.rendered.map (fun q => (directory.child q.1, (bytes q.2).length)) ∧
      ∀ q ∈ s.rendered, (s.finish d).disk.Holds (directory.child q.1) q.2 := by
  obtain ⟨rfl, rfl, hw⟩ := h.noted
  obtain ⟨done, hfirst⟩ := writeFiles_first s d s.rendered
  obtain rfl := hfirst.all.mp hf
  refine ⟨?_, fun q hq => hfirst.holds (nodup_places hc d.cwd) hq⟩
  have hne := s.config.typesFile_ne_methodsFile s.directory
  rw [finish, hfirst.session]
  exact noteAll_again (by simp [rendered, hne]) hw

/-- What a session holds after any acts, also such as failed: the code of the callbacks that
returned, in their order, and their numbers. A type that fails changes nothing. The end changes no
text and no number; when it returns, the two files hold the texts and are noted with their sizes. A
delivery comes to its callbacks, one after the other, up to the first that fails. -/
theorem holds_what_returned (hc : c.PlainExtension) (directory : Path) (d : Disk)
    (acts : List Act) :
    let start : Scene := ⟨.new directory c, d⟩
    let x := start.after acts
    let done := start.heard acts
    let y := x.tell .finish
    x.session.typesText = Text.concat (done.flatMap (Callback.typePieces c)) ∧
    x.session.methodsText = Text.concat (done.flatMap (Callback.methodPieces c)) ∧
    x.session.typeCount = done.countP Callback.isType ∧
    x.session.methodCount = done.countP Callback.isMethod ∧
    (∀ name t, .type name t ∈ done → ∃ piece, Code.structText c name t = .ok piece) ∧
    (∀ name t, x.fault? (.type name t) ≠ none → x.tell (.type name t) = x) ∧
    y.session = { x.session with written := y.session.written } ∧
    (x.fault? .finish = none →
      y.session.written =
        [(directory.child c.typesFile, (bytes x.session.typesText).length),
          (directory.child c.methodsFile, (bytes x.session.methodsText).length)] ∧
      y.disk.Holds (directory.child c.typesFile) x.session.typesText ∧
      y.disk.Holds (directory.child c.methodsFile) x.session.methodsText) ∧
    ∀ schema write, x.Cut (delivery schema write) (x.returned (delivery schema write))
      (x.session.deliver x.disk schema write) := by
  intro start x done y
  have hgrown : Grown start.session x.session done := start.after_grown acts
  have hreached : Reached directory c x.session := Scene.after_reached (x := start) .new acts
  have hfinish : y = _ := x.tell_finish
  refine ⟨?_, ?_, ?_, ?_, hgrown.rendered, ?_, ?_, fun hf => ?_, x.deliver_cut⟩
  · rw [typesText, hgrown.types]
    rfl
  · rw [methodsText, hgrown.methods]
    rfl
  · rw [hgrown.typeCount]
    exact Nat.zero_add _
  · rw [hgrown.methodCount]
    exact Nat.zero_add _
  · intro name t hf
    exact Scene.tell_of_fault (by simp) hf
  · rw [hfinish]
    exact x.session.finish_session x.disk
  · have hnone : (x.session.finish x.disk).fault = none := by
      simpa [Scene.fault?, step] using hf
    obtain ⟨hconfig, -, -⟩ := hreached.noted
    obtain ⟨hwritten, hfiles⟩ := finish_files hreached hc hnone
    simp only [rendered, hconfig, List.forall_mem_cons, List.map_cons, List.map_nil]
      at hwritten hfiles
    rw [hfinish]
    exact ⟨hwritten, hfiles.1, hfiles.2.1⟩

/-- A type without accessor for its field, and then the head of the file with the methods. -/
theorem held_of_poll :
    let start : Scene := ⟨.new ⟨false, ["out"]⟩ Config.usual, documentDisk⟩
    let x := start.after [.deliver poll true, .tell .beforeMethods]
    Config.usual.PlainExtension ∧ x.fault? .finish = none ∧ x.session.typeCount = 0 ∧
      (x.tell .finish).disk.Holds ⟨false, ["out", "Methods.swift"]⟩
        (Code.methodsHeader Config.usual) := by
  intro start x
  have hc : Config.usual.PlainExtension := ⟨by decide, by decide⟩
  have hf : x.fault? .finish = none := by decide +kernel
  have hheard : start.heard [.deliver poll true, .tell .beforeMethods] =
      [.start, .beforeTypes, .beforeMethods] := rfl
  obtain ⟨-, hmethods, htypes, -, -, -, -, hfiles, -⟩ :=
    holds_what_returned hc ⟨false, ["out"]⟩ documentDisk [.deliver poll true, .tell .beforeMethods]
  have htext : x.session.methodsText = Code.methodsHeader Config.usual := by
    rw [show x.session.methodsText = _ from hmethods, hheard]
    simp [Callback.methodPieces, Text.concat]
  have hpath : (⟨false, ["out", "Methods.swift"]⟩ : Path) =
      (⟨false, ["out"]⟩ : Path).child Config.usual.methodsFile := by decide +kernel
  refine ⟨hc, hf, ?_, ?_⟩
  · rw [show x.session.typeCount = _ from htypes, hheard]
    rfl
  · rw [hpath, ← show x.session.methodsText = _ from htext]
    exact (hfiles hf).2.2

end Session
end ClientGen
