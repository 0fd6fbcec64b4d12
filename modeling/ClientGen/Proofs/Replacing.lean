import ClientGen.Proofs.Writing

/-! Writing a file is all or nothing. What is new besides the file are the directories on the way to it;
where it fails, these are all that may be new. So after any writes each file holds what was written to it
last, and it makes no difference to the tree whether a file came to its place by way of a temporary
one. -/

namespace ClientGen
namespace FileTree

namespace Path

/-- Without two points in it a path leads straight down. -/
theorem resolve_of_straight {p : Path} (cwd : List String) (h : ".." ∉ p.parts) :
    p.resolve cwd = (if p.absolute then [] else cwd) ++ p.parts := by
  have hclimb (location parts : List String) (h : ".." ∉ parts) :
      climb location parts = location ++ parts := by
    induction parts generalizing location with
    | nil => simp [climb]
    | cons part rest ih =>
      obtain ⟨hp, hrest⟩ := not_or.mp (mt List.mem_cons.mpr h)
      simp [climb, Ne.symm hp, ih _ hrest]
  exact hclimb _ _ h

theorem straight_parent {p : Path} (h : ".." ∉ p.parts) : ".." ∉ p.parent.parts :=
  fun hm => h ((List.dropLast_sublist _).subset hm)

theorem parent_resolve_prefix {p : Path} (cwd : List String) (h : ".." ∉ p.parts) :
    p.parent.resolve cwd <+: p.resolve cwd := by
  rw [resolve_of_straight cwd h, resolve_of_straight cwd (straight_parent h)]
  exact (List.prefix_append_right_inj _).mpr (List.dropLast_prefix _)

/-- The place of a named path is not on the way to the directory around it. -/
theorem resolve_not_prefix {p : Path} (cwd : List String) (hp : p.parts ≠ [])
    (h : ".." ∉ p.parts) : ¬ p.resolve cwd <+: p.parent.resolve cwd := by
  have hname : p.name ≠ ".." := by
    intro he
    refine h ?_
    rw [parts_eq hp, he]
    simp
  intro hpre
  have hlen := hpre.length_le
  rw [resolve_eq cwd hp hname, List.length_append, List.length_singleton] at hlen
  omega

end Path

/-! ## New directories on the way -/

/-- Nothing has changed at a location, but that there may be a directory where nothing was, if it is on
the way to `around`. -/
def Paved (before after : Entry) (around l : List String) : Prop :=
  after.look l = before.look l ∨
    (l <+: around ∧ before.look l = none ∧ after.look l = some none)

namespace Paved

variable {a b c : Entry} {around further l : List String}

theorem refl (a : Entry) (around l : List String) : Paved a a around l :=
  .inl rfl

theorem trans (h : Paved a b around l) (k : Paved b c around l) : Paved a c around l := by
  rcases k with hc | ⟨hl, hb, hc⟩
  · rcases h with hb | ⟨hl, ha, hb⟩
    · exact .inl (hc.trans hb)
    · exact .inr ⟨hl, ha, hc.trans hb⟩
  · rcases h with hb' | ⟨-, -, hb'⟩
    · exact .inr ⟨hl, hb' ▸ hb, hc⟩
    · rw [hb] at hb'
      cases hb'

theorem mono (hw : around <+: further) (h : Paved a b around l) : Paved a b further l :=
  h.imp_right fun ⟨hl, hs⟩ => ⟨hl.trans hw, hs⟩

end Paved

namespace Disk

variable {d d' : Disk} {p : Path}

theorem makeDir_paved (h : d.makeDir p = .ok d') (l : List String) :
    Paved d.root d'.root (p.resolve d.cwd) l := by
  obtain ⟨hn, hl⟩ := look_makeDir h
  by_cases he : l = p.resolve d.cwd
  · subst he
    exact .inr ⟨List.prefix_rfl, hn, by simp [hl]⟩
  · exact .inl (by rw [hl, Function.update_of_ne he])

/-- The directories that are made for a path are on the way to it. -/
theorem ensureWithin_paved (n : Nat) (d : Disk) {p : Path} (h : ".." ∉ p.parts) (l : List String) :
    Paved d.root (ensureWithin n d p).1.root (p.resolve d.cwd) l := by
  induction n generalizing d p with
  | zero => exact .refl ..
  | succ n ih =>
    have hsettle (d : Disk) (e : Problem) :
        (if e ≠ .missing && !e.isText && d.isDir p then (d, .ok ())
          else (d, .error ⟨e, p.text, none⟩) : Disk × Except Fault Unit).1 = d := by
      split <;> rfl
    rw [ensureWithin]
    dsimp only
    split
    · next made hm => exact makeDir_paved hm l
    · split
      · exact .refl ..
      · have hup := (ih d (Path.straight_parent h)).mono (Path.parent_resolve_prefix d.cwd h)
        have hcwd := (ensureWithin_ensured n d p.parent).wrote.cwd
        split
        · next mid f hu => rwa [hu] at hup
        · next mid hu =>
          rw [hu] at hup hcwd
          dsimp only at hup hcwd
          -- the directories around `p` were on the way to it, and `p` itself is its end
          split
          · next made hm =>
            have hlast := makeDir_paved hm l
            rw [hcwd] at hlast
            exact hup.trans hlast
          · next e hm => rwa [hsettle]
    · next e _ hm =>
      rw [hsettle]
      exact .refl ..

theorem ensureDirectory_paved (d : Disk) (h : ".." ∉ p.parts) (l : List String) :
    Paved d.root (d.ensureDirectory p).1.root (p.resolve d.cwd) l :=
  ensureWithin_paved _ d h l

/-! ## One write -/

section Write

variable {text : String}

/-- A text that was written is the content of its file, and nothing else has changed but that there are
the directories on the way. -/
theorem writeFile_all {n : Nat} (hp : ".." ∉ p.parts)
    (h : (writeFile d p text true).result = .ok n) :
    n = (Text.Utf8.bytes text).length ∧ (writeFile d p text true).disk.Holds p text ∧
      ∀ l, l ≠ p.resolve d.cwd →
        Paved d.root (writeFile d p text true).disk.root (p.parent.resolve d.cwd) l := by
  obtain ⟨he, hn, hplaced, hw⟩ := writeFile_ok h
  refine ⟨hn, holds_of_file? he (hplaced.file?_eq ?_), fun l hl => ?_⟩
  · rw [hw.cwd]
    exact (hw.tree.there _ _ List.lookup_cons_self).2
  · obtain ⟨-, mid, hm, hmid, hfree⟩ := exists_placed h
    rw [writeFile_of_placed he hm hmid hfree]
    have hcwd := (ensureDirectory_ensured d p.parent).wrote.cwd
    have hup := ensureDirectory_paved d (Path.straight_parent hp) l
    rw [hm] at hcwd hup
    dsimp only at hcwd hup ⊢
    -- in the tree with these directories only the place of the file changes
    refine hup.trans (.inl ?_)
    rw [← hcwd] at hl hfree ⊢
    rw [hmid.look_put_file hfree, Function.update_of_ne hl]

/-- Where writing fails, what was there has not changed. -/
theorem writeFile_nothing {f : Fault} (hp : ".." ∉ p.parts)
    (h : (writeFile d p text true).result = .error f) (l : List String) :
    Paved d.root (writeFile d p text true).disk.root (p.parent.resolve d.cwd) l := by
  rw [(disk_of_error h).1]
  exact ensureDirectory_paved d (Path.straight_parent hp) l

/-- By way of a temporary file or at once, a file is written to the same effect. -/
theorem writeFile_same {n : Nat} {atomic : Bool}
    (h : (writeFile d p text atomic).result = .ok n) (other : Bool) :
    writeFile d p text atomic = writeFile d p text other := by
  obtain ⟨he, mid, hm, hmid, hfree⟩ := exists_placed h
  rw [writeFile_of_placed he hm hmid hfree, writeFile_of_placed he hm hmid hfree]

end Write

/-! ## One write after the other -/

/-- Writes texts to paths, each whether or not the one before could be written. What was written is
told, the last one first. -/
def writeEach (d : Disk) : List (Path × String) → Disk × List (Path × String)
  | [] => (d, [])
  | q :: rest =>
    let w := writeFile d q.1 q.2 true
    let r := writeEach w.disk rest
    match w.result with
    | .ok _ => (r.1, r.2 ++ [q])
    | .error _ => r

/-- What was written, by its places. -/
def stored (d : Disk) (done : List (Path × String)) : List (List String × List UInt8) :=
  done.map fun q => (q.1.resolve d.cwd, Text.Utf8.bytes q.2)

theorem lookup_stored (d : Disk) (done : List (Path × String)) (place : List String) :
    (stored d done).lookup place =
      (done.find? fun q => q.1.resolve d.cwd == place).map fun q => Text.Utf8.bytes q.2 := by
  induction done with
  | nil => rfl
  | cons q rest ih =>
    rw [stored, List.map_cons, List.lookup_cons, List.find?_cons]
    by_cases h : place = q.1.resolve d.cwd
    · simp [h]
    · have h' : ¬ q.1.resolve d.cwd = place := fun e => h e.symm
      simp only [beq_eq_false_iff_ne.mpr h, beq_eq_false_iff_ne.mpr h']
      exact ih

theorem writeEach_wrote (d : Disk) (ws : List (Path × String)) :
    Wrote d (writeEach d ws).1 (stored d (writeEach d ws).2) ∧
      ∀ q ∈ (writeEach d ws).2, Text.Utf8.Encodable q.2 ∧ Placed (writeEach d ws).1 q.1 := by
  induction ws generalizing d with
  | nil => exact ⟨.refl d, by simp [writeEach]⟩
  | cons q rest ih =>
    obtain ⟨hrest, hplaced⟩ := ih (writeFile d q.1 q.2 true).disk
    rw [writeEach]
    split
    · next n hw =>
      obtain ⟨he, -, hp, hfirst⟩ := writeFile_ok hw
      have h := hfirst.trans hrest
      rw [stored, hfirst.cwd] at h
      refine ⟨?_, fun w hm => ?_⟩
      · simpa [stored] using h
      · rcases List.mem_append.mp hm with hm | hm
        · exact hplaced w hm
        · rw [List.mem_singleton.mp hm]
          exact ⟨he, hrest.placed hp⟩
    · next f hw =>
      have hfirst := (writeFile_error hw).1
      have h := hfirst.trans hrest
      rw [stored, hfirst.cwd, List.append_nil] at h
      exact ⟨h, hplaced⟩

/-- A file holds what was last written to its place. -/
theorem writeEach_last (d : Disk) (ws : List (Path × String)) {q : Path × String}
    (hq : q ∈ (writeEach d ws).2) :
    ∃ last, (writeEach d ws).2.find? (fun w => w.1.resolve d.cwd == q.1.resolve d.cwd) = some last ∧
      (writeEach d ws).1.Holds q.1 last.2 := by
  obtain ⟨hw, hplaced⟩ := writeEach_wrote d ws
  have hsome : ((writeEach d ws).2.find? fun w =>
      w.1.resolve d.cwd == q.1.resolve d.cwd).isSome := List.find?_isSome.mpr ⟨q, hq, by simp⟩
  obtain ⟨last, hlast⟩ := Option.isSome_iff_exists.mp hsome
  have he := (hplaced last (List.mem_of_find?_eq_some hlast)).1
  refine ⟨last, hlast, holds_of_file? he ((hplaced q hq).2.file?_eq ?_)⟩
  rw [hw.cwd]
  refine (hw.tree.there _ _ ?_).2
  rw [lookup_stored, hlast, Option.map_some]

/-- Writing a file either leaves it with the whole text, whose length in bytes is told, or changes
nothing at all; either way there may be new directories on the way to it. After any such writes each
file holds what was last written to its place. To write by way of a temporary file or at once makes no
difference if it does not fail. -/
theorem writes_all_or_nothing (d : Disk) :
    (∀ (p : Path) (text : String), p.parts ≠ [] → ".." ∉ p.parts →
      (∀ n, (writeFile d p text true).result = .ok n →
        n = (Text.Utf8.bytes text).length ∧ (writeFile d p text true).disk.Holds p text ∧
        ∀ l, l ≠ p.resolve d.cwd →
          Paved d.root (writeFile d p text true).disk.root (p.parent.resolve d.cwd) l) ∧
      ∀ f, (writeFile d p text true).result = .error f →
        (writeFile d p text true).disk.root.look (p.resolve d.cwd) = d.root.look (p.resolve d.cwd) ∧
        ∀ l, Paved d.root (writeFile d p text true).disk.root (p.parent.resolve d.cwd) l) ∧
    (∀ (ws : List (Path × String)), ∀ q ∈ (writeEach d ws).2, ∃ last,
      (writeEach d ws).2.find? (fun w => w.1.resolve d.cwd == q.1.resolve d.cwd) = some last ∧
      (writeEach d ws).1.Holds q.1 last.2) ∧
    ∀ (p : Path) (text : String) (atomic : Bool) (n : Nat),
      (writeFile d p text atomic).result = .ok n →
        writeFile d p text atomic = writeFile d p text !atomic := by
  refine ⟨fun p text hp hup => ⟨fun n h => writeFile_all hup h, fun f h => ?_⟩,
    fun ws q hq => writeEach_last d ws hq, fun p text atomic n h => writeFile_same h _⟩
  have hall := writeFile_nothing hup h
  refine ⟨(hall _).resolve_right fun hnew => ?_, hall⟩
  exact Path.resolve_not_prefix d.cwd hp hup hnew.1

/-- A disk with one file. -/
def notes : Disk :=
  ⟨.dir [("notes", .file [104, 101, 121])], []⟩

theorem notes_all_or_nothing :
    (writeFile notes ⟨false, ["out", "a.txt"]⟩ "hi" true).disk.Holds ⟨false, ["out", "a.txt"]⟩ "hi" ∧
    (writeFile notes ⟨false, ["notes", "a.txt"]⟩ "hi" true).disk.root.look ["notes"] =
      some (some [104, 101, 121]) ∧
    (writeEach notes [(⟨false, ["notes"]⟩, "hi"), (⟨false, ["notes", "a.txt"]⟩, "hey"),
      (⟨true, ["notes"]⟩, "you")]).1.Holds ⟨false, ["notes"]⟩ "you" ∧
    writeFile notes ⟨false, ["out", "a.txt"]⟩ "hi" true =
      writeFile notes ⟨false, ["out", "a.txt"]⟩ "hi" false := by
  obtain ⟨one, several, same⟩ := writes_all_or_nothing notes
  have hok : (writeFile notes ⟨false, ["out", "a.txt"]⟩ "hi" true).result = .ok 2 := by rfl
  have herr : (writeFile notes ⟨false, ["notes", "a.txt"]⟩ "hi" true).result =
      .error ⟨.occupied, "notes", none⟩ := by rfl
  obtain ⟨-, hfile, -⟩ := (one ⟨false, ["out", "a.txt"]⟩ "hi" (by simp) (by simp)).1 2 hok
  obtain ⟨-, hkept⟩ := (one ⟨false, ["notes", "a.txt"]⟩ "hi" (by simp) (by simp)).2 _ herr
  refine ⟨hfile, ?_, ?_, same _ _ true 2 hok⟩
  · rcases hkept ["notes"] with h | ⟨-, h, -⟩
    · exact h
    · cases h
  · obtain ⟨last, hlast, hfile⟩ := several [(⟨false, ["notes"]⟩, "hi"),
      (⟨false, ["notes", "a.txt"]⟩, "hey"), (⟨true, ["notes"]⟩, "you")] (⟨false, ["notes"]⟩, "hi")
      (List.mem_cons_of_mem _ (List.mem_singleton.mpr rfl))
    rw [← Option.some.inj hlast] at hfile
    exact hfile

end Disk
end FileTree
end ClientGen
