import ClientGen.Proofs.Prediction
import ClientGen.Proofs.Writing
import Mathlib.Data.List.Induction

/-! What a session writes. Each file stands as it was written until a later one is written to the same
place; whether both files are children of the directory of the session depends on the file extension,
which may bring further parts into their paths. -/

namespace ClientGen

open FileTree
open Text.Utf8 (bytes)

/-! ## The paths of the files -/

theorem Text.split_append_of_not_mem {sep : Char} {cs : List Char} (h : sep ∉ cs)
    {rest first : List Char} {parts : List (List Char)} (hs : split sep rest = first :: parts) :
    split sep (cs ++ rest) = (cs ++ first) :: parts := by
  induction cs with
  | nil => exact hs
  | cons c cs ih =>
    have hc : c ≠ sep := fun e => h (by simp [e])
    simp [split, hc, ih fun m => h (by simp [m])]

namespace FileTree.Path

/-- The path of a file in a directory. -/
def child (directory : Path) (name : String) : Path :=
  directory.append (ofString name)

theorem append_ofString (directory : Path) (name : String) :
    directory.append (ofString name) = directory.child name := rfl

/-- What a file extension adds to a name, and the parts below that name. -/
def extensionParts (extension : String) : String × List String :=
  match Text.split '/' extension.toList with
  | [] => ("", [])
  | first :: parts =>
    (String.ofList first, (parts.filter fun p => p ≠ [] && p ≠ ['.']).map String.ofList)

/-- The path of a name with an extension, if there is no slash in the name. -/
theorem ofString_append {lead : String} (hs : '/' ∉ lead.toList) (hl : 2 ≤ lead.toList.length)
    (extension : String) :
    ofString (lead ++ extension) =
      ⟨false, (lead ++ (extensionParts extension).1) :: (extensionParts extension).2⟩ := by
  obtain ⟨first, parts, hp⟩ := List.exists_cons_of_ne_nil
    (Text.split_ne_nil '/' extension.toList)
  have hsplit : Text.split '/' (lead ++ extension).toList = (lead.toList ++ first) :: parts := by
    rw [String.toList_append]
    exact Text.split_append_of_not_mem hs hp
  obtain ⟨x, y, more, hx⟩ : ∃ x y more, lead.toList = x :: y :: more := by
    match lead.toList, hl with
    | x :: y :: more, _ => exact ⟨x, y, more, rfl⟩
  have hhead : (lead ++ extension).toList.head? ≠ some '/' := by
    have hx' : x ≠ '/' := fun e => hs (by simp [hx, e])
    simpa [hx] using hx'
  unfold ofString
  dsimp only
  rw [hsplit, List.filter_cons_of_pos (by simp [hx]), List.map_cons, String.ofList_append,
    String.ofList_toList]
  simp only [hhead, decide_false, extensionParts, hp]

/-- Two points below a name may lead out of it again; then the name does not count. -/
theorem climb_name (location rest : List String) :
    (∃ more, ∀ x, climb (location ++ [x]) rest = location ++ x :: more) ∨
      ∃ l, ∀ x, climb (location ++ [x]) rest = l := by
  -- parts are added at the end, where two points take away what the parts before them added last
  induction rest using List.reverseRecOn with
  | nil => exact .inl ⟨[], fun x => rfl⟩
  | append_singleton rest part ih =>
    simp only [climb_append]
    rcases ih with ⟨more, hm⟩ | ⟨l, hl⟩
    · by_cases hp : part = ".."
      · rcases List.eq_nil_or_concat more with rfl | ⟨before, last, rfl⟩
        · exact .inr ⟨location, fun x => by simp [hm, climb, hp]⟩
        · refine .inl ⟨before, fun x => ?_⟩
          rw [hm, climb, if_pos hp, List.concat_eq_append, ← List.cons_append, ← List.append_assoc,
            List.dropLast_concat]
          rfl
      · exact .inl ⟨more ++ [part], fun x => by simp [hm, climb, hp]⟩
    · exact .inr ⟨climb l [part], fun x => by rw [hl]⟩

/-- Further parts that end in a name do not lead to a place right below the location, unless they
lead out of the name before them. -/
theorem climb_deep {location rest : List String} (h : rest ≠ []) (hn : rest.getLast h ≠ "..") :
    (∀ x n, climb (location ++ [x]) rest ≠ location ++ [n]) ∨
      ∃ l, ∀ x, climb (location ++ [x]) rest = l := by
  rw [← List.dropLast_concat_getLast h]
  simp only [climb_append]
  rcases climb_name location rest.dropLast with ⟨more, hm⟩ | ⟨l, hl⟩
  · refine .inl fun x n he => ?_
    simp [hm, climb, hn] at he
  · exact .inr ⟨climb l [rest.getLast h], fun x => by rw [hl]⟩

theorem append_ne_above {lead : String} (h : 2 < lead.toList.length) (a : String) :
    lead ++ a ≠ ".." := by
  intro he
  have hl := congrArg (fun s => s.toList.length) he
  simp only [String.toList_append, List.length_append] at hl
  have hpoints : "..".toList.length = 2 := rfl
  omega

variable {directory : Path} {name first : String} {rest : List String}

theorem child_eq (h : ofString name = ⟨false, first :: rest⟩) :
    directory.child name = ⟨directory.absolute, directory.parts ++ first :: rest⟩ := by
  simp [child, append, h]

/-- A file leads to its place below the directory. -/
theorem resolve_child (h : ofString name = ⟨false, first :: rest⟩) (hf : first ≠ "..")
    (cwd : List String) :
    (directory.child name).resolve cwd = climb (directory.resolve cwd ++ [first]) rest := by
  rw [child_eq h, resolve, climb_append, climb, if_neg hf]
  rfl

end FileTree.Path

namespace Config

open FileTree.Path (extensionParts)

theorem typesFile_path (c : Config) :
    Path.ofString c.typesFile =
      ⟨false, ("Types." ++ (extensionParts c.fileExtension).1) ::
        (extensionParts c.fileExtension).2⟩ :=
  Path.ofString_append (by decide) (by decide) _

theorem methodsFile_path (c : Config) :
    Path.ofString c.methodsFile =
      ⟨false, ("Methods." ++ (extensionParts c.fileExtension).1) ::
        (extensionParts c.fileExtension).2⟩ :=
  Path.ofString_append (by decide) (by decide) _

theorem types_ne_methods (a b : String) : "Types." ++ a ≠ "Methods." ++ b := by
  intro h
  simpa using congrArg String.toList h

/-- Both files have paths of their own in each directory. -/
theorem typesFile_ne_methodsFile (directory : Path) (c : Config) :
    directory.child c.typesFile ≠ directory.child c.methodsFile := by
  rw [Path.child_eq c.typesFile_path, Path.child_eq c.methodsFile_path]
  intro h
  simp only [FileTree.Path.mk.injEq, true_and, List.append_cancel_left_eq, List.cons.injEq, and_true] at h
  exact types_ne_methods _ _ h

end Config

namespace Session

/-! ## Writing files one after the other -/

/-- The sizes with those of further files. -/
def noteAll (directory : Path) (files : List (String × String)) (written : List (Path × Nat)) :
    List (Path × Nat) :=
  files.foldl (fun w q => noteSize (directory.child q.1) (bytes q.2).length w) written

/-- What comes of writing files one after the other: those before the first that fails are written
and noted, and no other has changed. If the fault is of a text, it is that of the file that fails. -/
structure WroteFirst (s : Session) (d : Disk) (files done : List (String × String))
    (o : Outcome FileTree.Fault) : Prop where
  first : done <+: files
  all : o.fault = none ↔ done = files
  wrote : Disk.Wrote d o.disk
    (done.reverse.map fun q => ((s.directory.child q.1).resolve d.cwd, bytes q.2))
  placed : ∀ q ∈ done, Disk.Placed o.disk (s.directory.child q.1)
  encodable : ∀ q ∈ done, Text.Utf8.Encodable q.2
  session : o.session = { s with written := noteAll s.directory done s.written }
  text : ∀ f t, o.fault = some f → f.problem = .text t →
    ∃ q, done ++ [q] <+: files ∧ t.Of (s.directory.child q.1) q.2

theorem writeFiles_first (s : Session) (d : Disk) (files : List (String × String)) :
    ∃ done, WroteFirst s d files done (s.writeFiles d files) := by
  induction files generalizing s d with
  | nil => exact ⟨[], by simp, iff_of_true rfl rfl, .refl d, by simp, by simp, rfl,
      fun _ _ hf => by cases hf⟩
  | cons q rest ih =>
    obtain ⟨name, text⟩ := q
    simp only [writeFiles, Path.append_ofString]
    split
    · next f hw =>
      obtain ⟨hd, ht⟩ := Disk.writeFile_error hw
      refine ⟨[], by simp, by simp, hd, by simp, by simp, rfl, fun g t hg hp => ?_⟩
      cases hg
      exact ⟨(name, text), by simp, ht t hp⟩
    · next size hw =>
      obtain ⟨he, rfl, hp, hd⟩ := Disk.writeFile_ok hw
      -- the rest is written to the disk, and noted in the session, that the first file leaves
      obtain ⟨done, h⟩ := ih
        { s with written := noteSize (s.directory.child name) (bytes text).length s.written }
        (writeFile d (s.directory.child name) text true).disk
      refine ⟨(name, text) :: done, ?_, ?_, ?_, ?_, ?_, h.session, fun f t hf ht => ?_⟩
      · exact List.cons_prefix_cons.mpr ⟨rfl, h.first⟩
      · exact h.all.trans (List.cons_inj_right _).symm
      · have hw := hd.trans h.wrote
        rw [hd.cwd] at hw
        rwa [List.reverse_cons, List.map_append]
      · intro q hq
        rcases List.mem_cons.mp hq with rfl | hq
        · exact h.wrote.placed hp
        · exact h.placed q hq
      · exact List.forall_mem_cons.mpr ⟨he, h.encodable⟩
      · obtain ⟨q, hq, hof⟩ := h.text f t hf ht
        exact ⟨q, List.cons_prefix_cons.mpr ⟨rfl, hq⟩, hof⟩

/-- Files with places of their own all stand as they were written. -/
theorem WroteFirst.file?_eq {s : Session} {d : Disk} {files done : List (String × String)}
    {o : Outcome FileTree.Fault} (h : WroteFirst s d files done o)
    (hn : (done.map fun q => (s.directory.child q.1).resolve d.cwd).Nodup) {q : String × String}
    (hq : q ∈ done) : o.disk.file? (s.directory.child q.1) = some (bytes q.2) := by
  have hl : (done.reverse.map fun q => ((s.directory.child q.1).resolve d.cwd, bytes q.2)).lookup
      ((s.directory.child q.1).resolve d.cwd) = some (bytes q.2) := by
    refine lookup_of_nodup ?_ (List.mem_map.mpr ⟨q, by simpa using hq, rfl⟩)
    simpa [Function.comp_def] using hn
  refine (h.placed q hq).file?_eq ?_
  rw [h.wrote.cwd]
  exact (h.wrote.tree.there _ _ hl).2

theorem WroteFirst.holds {s : Session} {d : Disk} {files done : List (String × String)}
    {o : Outcome FileTree.Fault} (h : WroteFirst s d files done o)
    (hn : (done.map fun q => (s.directory.child q.1).resolve d.cwd).Nodup) {q : String × String}
    (hq : q ∈ done) : o.disk.Holds (s.directory.child q.1) q.2 :=
  Disk.holds_of_file? (h.encodable q hq) (h.file?_eq hn hq)

/-! ## Sessions that were told something -/

/-- The sessions that come of a new one by callbacks, whatever the disk was at each. -/
inductive Reached (directory : Path) (c : Config) : Session → Prop
  | new : Reached directory c (.new directory c)
  | step {s : Session} (d : Disk) (b : Callback) (h : Reached directory c s) :
    Reached directory c (s.step d b).session

theorem names_noteSize (p : Path) (n : Nat) (w : List (Path × Nat)) :
    (noteSize p n w).map Prod.fst =
      if p ∈ w.map Prod.fst then w.map Prod.fst else w.map Prod.fst ++ [p] := by
  induction w with
  | nil => simp [noteSize]
  | cons q rest ih =>
    by_cases h : q.1 = p
    · simp [noteSize, h]
    · have hp : p ≠ q.1 := fun e => h e.symm
      simp only [noteSize, h, if_false, List.map_cons, ih, List.mem_cons, hp, false_or]
      split <;> simp_all

/-- What comes of telling a session something that writes no file. -/
structure Idle {ε : Type} (s : Session) (d : Disk) (o : Outcome ε) : Prop where
  disk : o.disk = d
  config : o.session.config = s.config
  directory : o.session.directory = s.directory
  written : o.session.written = s.written

theorem step_idle {b : Callback} (s : Session) (d : Disk) (h : b ≠ .finish) :
    Idle s d (s.step d b) := by
  cases b with
  | type name t =>
    simp only [step]
    split <;> exact ⟨rfl, rfl, rfl, rfl⟩
  | finish => exact absurd rfl h
  | _ => exact ⟨rfl, rfl, rfl, rfl⟩

theorem run_idle (s : Session) (d : Disk) {bs : List Callback} (h : .finish ∉ bs) :
    Idle s d (s.run d bs) := by
  induction bs generalizing s d with
  | nil => exact ⟨rfl, rfl, rfl, rfl⟩
  | cons b rest ih =>
    have hb := step_idle (b := b) s d fun e => h (by simp [e])
    have hr := ih (s.step d b).session (s.step d b).disk fun m => h (by simp [m])
    simp only [Session.run]
    split
    · exact ⟨hb.disk, hb.config, hb.directory, hb.written⟩
    · exact ⟨hr.disk.trans hb.disk, hr.config.trans hb.config, hr.directory.trans hb.directory,
        hr.written.trans hb.written⟩

theorem deliver_idle (s : Session) (d : Disk) (schema : Schema) :
    Idle s d (s.deliver d schema false) := by
  have hr := run_idle s d (finish_not_mem_delivery schema)
  obtain ⟨log, he⟩ := s.deliver_eq d schema false
  rw [he]
  exact ⟨hr.disk, hr.config, hr.directory, hr.written⟩

/-- A callback writes some of the files, the first ones, or none. -/
theorem step_written (s : Session) (d : Disk) (b : Callback) :
    (s.step d b).session.config = s.config ∧ (s.step d b).session.directory = s.directory ∧
      ∃ done, done <+: s.rendered ∧
        (s.step d b).session.written = noteAll s.directory done s.written := by
  by_cases hb : b = .finish
  · subst hb
    obtain ⟨done, h⟩ := writeFiles_first s d s.rendered
    have hs : (s.step d .finish).session = { s with written := noteAll s.directory done s.written } :=
      h.session
    exact ⟨by rw [hs], by rw [hs], done, h.first, by rw [hs]⟩
  · have h := step_idle s d hb
    exact ⟨h.config, h.directory, [], List.nil_prefix, h.written⟩

theorem prefix_pair {α : Type} {l : List α} {a b : α} (h : l <+: [a, b]) :
    l = [] ∨ l = [a] ∨ l = [a, b] := by
  match l with
  | [] => exact .inl rfl
  | [x] => simp_all
  | x :: y :: rest => simp_all

variable {directory : Path} {c : Config} {s : Session}

/-- What a session has noted as written are the first of its two files. -/
theorem Reached.noted (h : Reached directory c s) :
    s.config = c ∧ s.directory = directory ∧
      s.written.map Prod.fst <+: [directory.child c.typesFile, directory.child c.methodsFile] := by
  induction h with
  | new => exact ⟨rfl, rfl, by simp [Session.new]⟩
  | @step s d b _ ih =>
    obtain ⟨hc, hd, hw⟩ := ih
    obtain ⟨hc', hd', done, hdone, hw'⟩ := step_written s d b
    refine ⟨hc'.trans hc, hd'.trans hd, ?_⟩
    rw [hw', hd]
    have hne := c.typesFile_ne_methodsFile directory
    rw [rendered, hc] at hdone
    rcases prefix_pair hw with hw | hw | hw <;>
      rcases prefix_pair hdone with rfl | rfl | rfl <;>
      simp [noteAll, names_noteSize, hw, hne, hne.symm]

theorem Reached.run (h : Reached directory c s) (d : Disk) (bs : List Callback) :
    Reached directory c (s.run d bs).session := by
  induction bs generalizing s d with
  | nil => exact h
  | cons b rest ih =>
    simp only [Session.run]
    split
    · exact h.step d b
    · exact ih (h.step d b) _

theorem Reached.deliver (h : Reached directory c s) (d : Disk) (schema : Schema) (write : Bool) :
    Reached directory c (s.deliver d schema write).session := by
  obtain ⟨log, he⟩ := s.deliver_eq d schema write
  rw [he]
  exact h.run d _

/-! ## Files in the directory of the session -/

/-- The disks before and after the files of a session were written into its directory: two files
right below it hold the texts, and no other file has changed. -/
structure Contained (s : Session) (before after : Disk) : Prop where
  isDir : after.isDir s.directory = true
  children : ∃ types methods : String, types ≠ methods ∧
    after.locate (s.directory.child s.config.typesFile) =
      .ok (s.directory.resolve before.cwd ++ [types]) ∧
    after.locate (s.directory.child s.config.methodsFile) =
      .ok (s.directory.resolve before.cwd ++ [methods]) ∧
    ∀ l, l ≠ s.directory.resolve before.cwd ++ [types] →
      l ≠ s.directory.resolve before.cwd ++ [methods] →
      after.root.look l = before.root.look l ∨
        (before.root.look l = none ∧ after.root.look l = some none)
  texts : ∀ q ∈ s.rendered, after.Holds (s.directory.child q.1) q.2

open FileTree.Path (extensionParts)

/-- The locations of both files. -/
theorem resolve_files (s : Session) (cwd : List String) :
    (s.directory.child s.config.typesFile).resolve cwd =
        Path.climb (s.directory.resolve cwd ++ ["Types." ++ (extensionParts s.config.fileExtension).1])
          (extensionParts s.config.fileExtension).2 ∧
      (s.directory.child s.config.methodsFile).resolve cwd =
        Path.climb
          (s.directory.resolve cwd ++ ["Methods." ++ (extensionParts s.config.fileExtension).1])
          (extensionParts s.config.fileExtension).2 :=
  ⟨Path.resolve_child s.config.typesFile_path (Path.append_ne_above (by decide) _) cwd,
    Path.resolve_child s.config.methodsFile_path (Path.append_ne_above (by decide) _) cwd⟩

/-- An extension without parts of its own puts both files right below the directory. -/
theorem contained_of_single {d : Disk} {o : Outcome FileTree.Fault}
    (h : WroteFirst s d s.rendered s.rendered o)
    (hs : (extensionParts s.config.fileExtension).2 = []) : Contained s d o.disk := by
  obtain ⟨ht, hm⟩ := resolve_files s d.cwd
  rw [hs, Path.climb] at ht hm
  have hne := Config.types_ne_methods (extensionParts s.config.fileExtension).1
    (extensionParts s.config.fileExtension).1
  have hplaces : (s.rendered.map fun q => (s.directory.child q.1).resolve d.cwd).Nodup := by
    simp [rendered, ht, hm, hne]
  have hlocate : ∀ q ∈ s.rendered,
      o.disk.locate (s.directory.child q.1) = .ok ((s.directory.child q.1).resolve d.cwd) := by
    intro q hq
    rw [← h.wrote.cwd]
    exact Disk.locate_of_file? (h.file?_eq hplaces hq)
  refine ⟨?_, ⟨_, _, hne, ?_, ?_, fun l hlt hlm => h.wrote.tree.elsewhere l ?_⟩,
    fun q hq => h.holds hplaces hq⟩
  · have ha := (h.placed (s.config.typesFile, s.typesText) (by simp [rendered])).around
    rwa [Path.child_eq s.config.typesFile_path, hs, Path.parent, List.dropLast_concat] at ha
  · rw [← ht]
    exact hlocate (s.config.typesFile, s.typesText) (by simp [rendered])
  · rw [← hm]
    exact hlocate (s.config.methodsFile, s.methodsText) (by simp [rendered])
  · simp [rendered, ht, hm, List.lookup_cons, beq_eq_false_iff_ne.mpr hlt,
      beq_eq_false_iff_ne.mpr hlm]

/-- An extension with parts of its own puts the files elsewhere, or both into one place. -/
theorem single_of_contained {d : Disk} {o : Outcome FileTree.Fault}
    (h : WroteFirst s d s.rendered s.rendered o) (hc : Contained s d o.disk) :
    (extensionParts s.config.fileExtension).2 = [] := by
  by_contra hs
  obtain ⟨types, methods, hne, ht, hm, -⟩ := hc.children
  replace ht := Disk.locate_eq_resolve ht
  replace hm := Disk.locate_eq_resolve hm
  obtain ⟨ht', hm'⟩ := resolve_files s d.cwd
  rw [h.wrote.cwd, ht'] at ht
  rw [h.wrote.cwd, hm'] at hm
  have hlast : (extensionParts s.config.fileExtension).2.getLast hs ≠ ".." := by
    have hp := (h.placed (s.config.typesFile, s.typesText) (by simp [rendered])).notAbove
    rw [Path.child_eq s.config.typesFile_path, Path.name] at hp
    simpa [List.getLast?_append, List.getLast?_cons, List.getLast?_eq_some_getLast hs] using hp
  rcases Path.climb_deep hs hlast with hdeep | ⟨l, hl⟩
  · exact hdeep _ _ ht.symm
  · rw [hl] at ht hm
    exact hne (by simpa using ht.trans hm.symm)

/-- When all files of a session are written, both are noted with their sizes. They are two files right
below the directory of the session, with both texts, and the only ones that have changed, just if the
file extension brings no further part into their paths. -/
theorem finish_contained_iff (h : Reached directory c s) (d : Disk)
    (hf : (s.finish d).fault = none) :
    (s.finish d).session.written =
        [(directory.child c.typesFile, (bytes s.typesText).length),
          (directory.child c.methodsFile, (bytes s.methodsText).length)] ∧
      (Contained s d (s.finish d).disk ↔ (Path.ofString c.typesFile).parts.length = 1) := by
  obtain ⟨rfl, rfl, hw⟩ := h.noted
  obtain ⟨done, hfirst⟩ := writeFiles_first s d s.rendered
  obtain rfl := hfirst.all.mp hf
  constructor
  · have hne := s.config.typesFile_ne_methodsFile s.directory
    rw [finish, hfirst.session]
    rcases prefix_pair hw with hw | hw | hw
    all_goals simp only [List.map_eq_nil_iff, List.map_eq_cons_iff] at hw
    · simp [noteAll, rendered, hw, noteSize, hne]
    · obtain ⟨⟨p, n⟩, w, hw, rfl, rfl⟩ := hw
      simp [noteAll, rendered, hw, noteSize, hne]
    · obtain ⟨⟨p, n⟩, w, hw, rfl, ⟨q, m⟩, w', rfl, rfl, rfl⟩ := hw
      simp [noteAll, rendered, hw, noteSize, hne]
  · rw [s.config.typesFile_path, List.length_cons, Nat.add_eq_right, List.length_eq_zero_iff]
    exact ⟨single_of_contained hfirst, contained_of_single hfirst⟩

/-- A disk with an older file of types in the directory, and with another file. -/
def olderDisk : Disk :=
  ⟨.dir [("out", .dir [("Types.swift", .file [47, 47]), ("notes", .file [33])])], []⟩

theorem finish_contained_older :
    let s := ((Session.new ⟨false, ["out"]⟩ Config.usual).step olderDisk .beforeMethods).session
    Reached ⟨false, ["out"]⟩ Config.usual s ∧ (s.finish olderDisk).fault = none ∧
      Contained s olderDisk (s.finish olderDisk).disk := by
  have h : Reached ⟨false, ["out"]⟩ Config.usual
      ((Session.new ⟨false, ["out"]⟩ Config.usual).step olderDisk .beforeMethods).session :=
    .step olderDisk .beforeMethods .new
  have hf : (((Session.new ⟨false, ["out"]⟩ Config.usual).step olderDisk
      .beforeMethods).session.finish olderDisk).fault = none := by decide +kernel
  exact ⟨h, hf, (finish_contained_iff h olderDisk hf).2.mpr (by decide +kernel)⟩

/-- Settings under which both files have a path out of the directory and to one place. -/
def climbing : Config :=
  { Config.usual with fileExtension := "x/../../Client" }

/-- A session for a schema without types and methods. -/
def climbingSession : Session :=
  ((Session.new ⟨false, ["out"]⟩ climbing).deliver ⟨.dir [], []⟩ ⟨.empty, .empty, none⟩
    false).session

/-- Settings that are accepted may put the files elsewhere. -/
theorem finish_not_contained :
    Record.config (.map [(.text "file_extension", .text "x/../../Client")]) = .ok climbing ∧
      Reached ⟨false, ["out"]⟩ climbing climbingSession ∧
      (climbingSession.finish ⟨.dir [], []⟩).fault = none ∧
      ¬ Contained climbingSession ⟨.dir [], []⟩ (climbingSession.finish ⟨.dir [], []⟩).disk := by
  refine ⟨rfl, Reached.new.deliver _ _ _, by decide +kernel, fun h => ?_⟩
  obtain ⟨types, methods, -, ht, -⟩ := h.children
  obtain ⟨done, hfirst⟩ := climbingSession.writeFiles_first ⟨.dir [], []⟩ climbingSession.rendered
  have hcwd : (climbingSession.finish ⟨.dir [], []⟩).disk.cwd = [] := hfirst.wrote.cwd
  have hpath : (climbingSession.directory.child climbingSession.config.typesFile).resolve [] =
      ["Client"] := by decide +kernel
  have hout : climbingSession.directory.resolve [] = ["out"] := by decide +kernel
  have hl := Disk.locate_eq_resolve ht
  rw [hcwd, hpath, hout] at hl
  simp at hl

end Session
end ClientGen
