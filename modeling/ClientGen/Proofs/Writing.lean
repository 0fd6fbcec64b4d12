import ClientGen.Proofs.Paths
import Mathlib.Data.List.Nodup
import Mathlib.Data.List.Perm.Subperm

/-! Writing a file: either it stands whole in its place, or no file has changed. What else is new are
directories on the way to it; the temporary file is gone. -/

namespace ClientGen
namespace FileTree

/-- The fault keeps a text from being written to a path: it is that of a part of the path, or the text
has no bytes. -/
def TextFault.Of (t : TextFault) (p : Path) (text : String) : Prop :=
  p.fault? = some t ∨ ∃ f, t = .encoding f ∧ Text.Utf8.encode text = .error f

namespace Disk

variable {d d' : Disk} {p : Path}

/-- The disk has a file for the path, with the bytes of the text. -/
def Holds (d : Disk) (p : Path) (text : String) : Prop :=
  ∃ content, Text.Utf8.encode text = .ok content ∧ d.file? p = some content

theorem holds_of_file? {text : String} (he : Text.Utf8.Encodable text)
    (h : d.file? p = some (Text.Utf8.bytes text)) : d.Holds p text :=
  ⟨_, Text.Utf8.encode_of_encodable he, h⟩

/-! ## Changes at one location -/

theorem look_put {around : List String} {name : String} {new : Entry}
    (ha : d.root.look around = some none) (hn : new.Bare)
    (ho : d.root.look (around ++ [name]) ≠ some none) :
    (d.put (around ++ [name]) new).root.look =
      Function.update d.root.look (around ++ [name]) (some new.bytes?) :=
  Entry.look_set ha hn ho

/-! ## Directories -/

theorem makeDir_ok (h : d.makeDir p = .ok d') :
    Placed d p ∧ d.root.look (p.resolve d.cwd) = none ∧
      d' = d.put (p.resolve d.cwd) (.dir []) := by
  unfold makeDir at h
  split at h
  · cases h
  · next location hs =>
    cases h
    obtain ⟨hp, rfl, hn⟩ := slot_free hs
    exact ⟨hp, hn, rfl⟩
  · cases h

theorem makeDir_text {t : TextFault} (h : d.makeDir p = .error (.text t)) : p.fault? = some t := by
  unfold makeDir at h
  split at h
  · next e hs => exact slot_text (Except.error.inj h ▸ hs)
  · cases h
  · cases h

/-- A directory that was made is where nothing was. -/
theorem look_makeDir (h : d.makeDir p = .ok d') : d.root.look (p.resolve d.cwd) = none ∧
    d'.root.look = Function.update d.root.look (p.resolve d.cwd) (some none) := by
  obtain ⟨hp, hn, rfl⟩ := makeDir_ok h
  refine ⟨hn, ?_⟩
  rw [hp.resolve_eq] at hn ⊢
  exact look_put hp.look_around Entry.bare_empty (by simp [hn])

/-- A directory that was made is there, and nothing else has changed. -/
theorem makeDir_wrote (h : d.makeDir p = .ok d') : Wrote d d' [] ∧ d'.isDir p = true := by
  obtain ⟨hn, hl⟩ := look_makeDir h
  obtain ⟨hp, -, rfl⟩ := makeDir_ok h
  have hw : Wrote d (d.put (p.resolve d.cwd) (.dir [])) [] := ⟨.of_new_dir hn hl, rfl⟩
  have hd : (d.put (p.resolve d.cwd) (.dir [])).root.look (p.resolve d.cwd) = some none := by
    simp [hl]
  exact ⟨hw, isDir_iff.mpr ⟨(hw.placed hp).locate_eq (by rw [show
    (d.put (p.resolve d.cwd) (.dir [])).cwd = d.cwd from rfl, hd]; simp), hd⟩⟩

/-- What making a directory comes to: at most directories are new, and it is there unless there is a
fault. If the fault is of a text, the text is a part of the path. -/
structure Ensured (d : Disk) (p : Path) (r : Disk × Except Fault Unit) : Prop where
  wrote : Wrote d r.1 []
  isDir : r.2 = .ok () → r.1.isDir p = true
  text : ∀ f t, r.2 = .error f → f.problem = .text t → p.fault? = some t

/-- A directory that cannot be made is as good if it exists. -/
theorem ensured_settle (d : Disk) {e : Problem} (he : ∀ t, e = .text t → p.fault? = some t) :
    Ensured d p (if e ≠ .missing && !e.isText && d.isDir p then (d, .ok ())
      else (d, .error ⟨e, p.text, none⟩)) := by
  split
  · next h =>
    simp only [Bool.and_eq_true] at h
    exact ⟨.refl d, fun _ => h.2, fun _ _ hf => (by cases hf)⟩
  · refine ⟨.refl d, fun h => (by cases h), fun f t hf ht => ?_⟩
    cases hf
    exact he t ht

theorem ensured_made (h : d.makeDir p = .ok d') : Ensured d p (d', .ok ()) :=
  ⟨(makeDir_wrote h).1, fun _ => (makeDir_wrote h).2, fun _ _ hf => (by cases hf)⟩

theorem ensureWithin_ensured (n : Nat) (d : Disk) (p : Path) :
    Ensured d p (ensureWithin n d p) := by
  have hmissing (d : Disk) (p : Path) : Ensured d p (d, .error ⟨.missing, p.text, none⟩) := by
    refine ⟨.refl d, fun h => (by cases h), fun f t hf ht => ?_⟩
    cases hf
    cases ht
  induction n generalizing d p with
  | zero => exact hmissing d p
  | succ n ih =>
    have htext (d : Disk) {e : Problem} (he : d.makeDir p = .error e) :
        ∀ t, e = .text t → p.fault? = some t := fun t ht => makeDir_text (ht ▸ he)
    rw [ensureWithin]
    dsimp only
    split
    · next made hm => exact ensured_made hm
    · next hm =>
      split
      · exact hmissing d p
      · have hup := ih d p.parent
        split
        · next mid f hu =>
          rw [hu] at hup
          exact ⟨hup.wrote, fun h => (by cases h),
            fun g t hg ht => Path.fault?_of_parent (hup.text g t hg ht)⟩
        · next mid hu =>
          rw [hu] at hup
          -- the directories around it are made by now, so what comes of `p` itself starts from there
          have hlast {r : Disk × Except Fault Unit} (h : Ensured mid p r) : Ensured d p r :=
            ⟨by simpa using hup.wrote.trans h.wrote, h.isDir, h.text⟩
          split
          · next made hm => exact hlast (ensured_made hm)
          · next e hm => exact hlast (ensured_settle mid (htext mid hm))
    · next e _ hm => exact ensured_settle d (htext d hm)

theorem ensureDirectory_ensured (d : Disk) (p : Path) : Ensured d p (d.ensureDirectory p) :=
  ensureWithin_ensured _ d p

theorem makeDir_of_isDir (h : d.isDir p = true) : d.makeDir p = .error .occupied := by
  obtain ⟨hl, hd⟩ := isDir_iff.mp h
  obtain ⟨hn, -⟩ := locate_ok_iff.mp hl
  by_cases hp : p.parts = []
  · have hs : d.slot p = .ok .unnamed := by simp [slot_eq, hn, hp]
    simp only [makeDir, hs]
  · by_cases hname : p.name = ".."
    · have hg : p.parts.getLast? = some ".." := hname ▸ Path.getLast?_parts hp
      have hs : d.slot p = .ok .unnamed := by simp [slot_eq, hn, hg, hl, Except.map]
      simp only [makeDir, hs]
    · obtain ⟨es, hes⟩ := Entry.look_eq_dir_iff.mp hd
      have hs := slot_of_placed (placed_of_locate hl hp hname)
      simp only [makeDir, hs, hes]

/-- An existing directory needs not be made. -/
theorem ensureDirectory_of_isDir (h : d.isDir p = true) : d.ensureDirectory p = (d, .ok ()) := by
  simp [ensureDirectory, ensureWithin, makeDir_of_isDir h, h, Problem.isText]

/-! ## The temporary file -/

theorem length_temporaryName (name : String) (n : Nat) :
    (temporaryName name n).length = name.length + n + 14 := by
  have hdot : ".".length = 1 := rfl
  have htmp : ".tmp".length = 4 := rfl
  simp only [temporaryName, String.length_append, String.length_ofList, List.length_replicate, hdot,
    htmp]
  omega

/-- One more name than there are taken ones cannot all be taken. -/
theorem freshName_not_mem (taken : List String) (name : String) : freshName taken name ∉ taken := by
  have hnodup : ((List.range (taken.length + 1)).map (temporaryName name)).Nodup := by
    refine List.Nodup.map (fun m n h => ?_) List.nodup_range
    have hl := congrArg String.length h
    rw [length_temporaryName, length_temporaryName] at hl
    omega
  have hfree : ¬ (List.range (taken.length + 1)).map (temporaryName name) ⊆ taken := by
    intro hsub
    have hl := (List.subperm_of_subset hnodup hsub).length_le
    simp only [List.length_map, List.length_range] at hl
    omega
  unfold freshName
  dsimp only
  cases hf : ((List.range (taken.length + 1)).map (temporaryName name)).find?
      fun t => !taken.contains t with
  | some t => simpa using List.find?_some hf
  | none =>
    refine absurd (fun t ht => ?_) hfree
    simpa using List.find?_eq_none.mp hf t ht

/-- The location of the temporary file is free. -/
theorem look_fresh {around : List String} (name : String) (ha : d.root.look around = some none) :
    d.root.look (around ++ [freshName (d.namesAt around) name]) = none := by
  obtain ⟨es, hes⟩ := Entry.look_eq_dir_iff.mp ha
  rw [Entry.look_eq_none_iff, ← Entry.lookup_eq_at? hes]
  cases hl : es.lookup (freshName (d.namesAt around) name) with
  | none => rfl
  | some e =>
    have hm := mem_names_of_lookup hl
    have hn : d.namesAt around = es.map Prod.fst := by simp [namesAt, hes]
    exact absurd (hn ▸ hm) (freshName_not_mem _ _)

section Replace

variable {content : List UInt8} {temporary : List String}

theorem moveFile_ok (h : d.moveFile temporary content p = .ok d') :
    Placed d p ∧ d.root.look (p.resolve d.cwd) ≠ some none ∧
      d' = (d.delete temporary).put (p.resolve d.cwd) (.file content) := by
  unfold moveFile at h
  split at h
  · cases h
  · cases h
  · cases h
  · next location e hdir hs =>
    cases h
    obtain ⟨hp, rfl, he⟩ := slot_taken hs
    refine ⟨hp, fun hd => ?_, rfl⟩
    cases e with
    | dir es => exact hdir es rfl
    | file old => simp [he, Entry.bytes?] at hd
  · next location hs =>
    cases h
    obtain ⟨hp, rfl, hn⟩ := slot_free hs
    exact ⟨hp, by simp [hn], rfl⟩

/-- A placed path where no directory stands has a place for a file. -/
theorem Placed.slot_cases (hp : Placed d p) (hl : d.root.look (p.resolve d.cwd) ≠ some none) :
    d.slot p = .ok (.free (p.resolve d.cwd)) ∨
      ∃ old, d.slot p = .ok (.taken (p.resolve d.cwd) (.file old)) := by
  rw [slot_of_placed hp]
  cases hx : d.root.at? (p.resolve d.cwd) with
  | none => exact .inl rfl
  | some e =>
    cases e with
    | file old => exact .inr ⟨old, rfl⟩
    | dir es => exact absurd (Entry.look_eq_dir_iff.mpr ⟨es, hx⟩) hl

theorem moveFile_of_placed (hp : Placed d p) (hl : d.root.look (p.resolve d.cwd) ≠ some none) :
    d.moveFile temporary content p =
      .ok ((d.delete temporary).put (p.resolve d.cwd) (.file content)) := by
  unfold moveFile
  rcases hp.slot_cases hl with hs | ⟨old, hs⟩ <;> simp only [hs]

/-- Writing a file in its place comes to a new file there, or it fails and changes nothing. -/
theorem overwrite_ok_iff :
    d.overwrite p content = (d', .ok ()) ↔ Placed d p ∧ d.root.look (p.resolve d.cwd) ≠ some none ∧
      d' = d.put (p.resolve d.cwd) (.file content) := by
  constructor
  · intro h
    unfold overwrite at h
    dsimp only at h
    split at h
    · cases h
    · cases h
    · cases h
    · next location e hdir hs =>
      cases h
      obtain ⟨hp, rfl, he⟩ := slot_taken hs
      refine ⟨hp, fun hd => ?_, rfl⟩
      cases e with
      | dir es => exact hdir es rfl
      | file old => simp [he, Entry.bytes?] at hd
    · next location hs =>
      cases h
      obtain ⟨hp, rfl, hn⟩ := slot_free hs
      exact ⟨hp, by simp [hn], rfl⟩
  · rintro ⟨hp, hl, rfl⟩
    unfold overwrite
    rcases hp.slot_cases hl with hs | ⟨old, hs⟩ <;> simp only [hs]

theorem moveFile_text {t : TextFault} (h : d.moveFile temporary content p = .error (.text t)) :
    p.fault? = some t := by
  unfold moveFile at h
  split at h
  · next e hs => exact slot_text (Except.error.inj h ▸ hs)
  all_goals cases h

/-- The location of the temporary file for `p`. -/
def heldAt (d : Disk) (p : Path) : List String :=
  p.parent.resolve d.cwd ++ [freshName (d.namesAt (p.parent.resolve d.cwd)) p.name]

/-- The disk with the temporary file for `p`. -/
def held (d : Disk) (p : Path) (content : List UInt8) : Disk :=
  d.put (heldAt d p) (.file content)

/-- Replacing a file is to hold a temporary one and to move it, or else to delete it. -/
theorem replace_eq (content : List UInt8) (h : p.fault? = none) :
    d.replace p content =
      match (held d p content).moveFile (heldAt d p) content p with
      | .ok d => (d, .ok ())
      | .error e => ((held d p content).delete (heldAt d p),
          .error ⟨e, (Path.ofLocation (heldAt d p)).text, some p.text⟩) := by
  unfold replace
  rw [h]
  rfl

variable (content) (hd : d.isDir p.parent = true)
include hd

theorem look_heldAt : d.root.look (heldAt d p) = none :=
  look_fresh p.name (isDir_iff.mp hd).2

theorem look_held : (held d p content).root.look =
    Function.update d.root.look (heldAt d p) (some (some content)) :=
  look_put (isDir_iff.mp hd).2 (Entry.bare_file content) (by
    rw [look_fresh p.name (isDir_iff.mp hd).2]
    simp)

theorem wrote_held : Wrote d (held d p content) [(heldAt d p, content)] :=
  ⟨.of_file (by simp [look_heldAt hd]) (look_held content hd), rfl⟩

/-- Without its temporary file the disk is as it was. -/
theorem delete_held : (held d p content).delete (heldAt d p) = d := by
  obtain ⟨es, hes⟩ := Entry.look_eq_dir_iff.mp (isDir_iff.mp hd).2
  have hn : d.namesAt (p.parent.resolve d.cwd) = es.map Prod.fst := by simp [namesAt, hes]
  have hfree : freshName (d.namesAt (p.parent.resolve d.cwd)) p.name ∉ es.map Prod.fst :=
    hn ▸ freshName_not_mem _ _
  have hroot : (d.root.set (heldAt d p) (.file content)).remove (heldAt d p) = d.root :=
    Entry.remove_set _ hes hfree
  simp only [held, put, delete, hroot]

/-- Replacing a file ends with the new file in its place, as if it were written there at once. -/
theorem replace_ok_iff :
    d.replace p content = (d', .ok ()) ↔ Placed d p ∧ d.root.look (p.resolve d.cwd) ≠ some none ∧
      d' = d.put (p.resolve d.cwd) (.file content) := by
  have hheld := wrote_held content hd
  constructor
  · intro h
    cases hn : p.fault? with
    | some t => simp [replace, hn] at h
    | none =>
      rw [replace_eq content hn] at h
      split at h
      · next made hm =>
        obtain ⟨hp, hold, rfl⟩ := moveFile_ok hm
        cases h
        rw [delete_held content hd]
        exact ⟨⟨hn, hp.named, hp.notAbove, hd⟩, fun he => hold (hheld.tree.dirs he), rfl⟩
      · cases h
  · rintro ⟨hp, hl, rfl⟩
    have hfree : (held d p content).root.look (p.resolve d.cwd) ≠ some none := by
      rw [look_held content hd]
      by_cases he : p.resolve d.cwd = heldAt d p
      · simp [he]
      · rwa [Function.update_of_ne he]
    rw [replace_eq content hp.noFault, moveFile_of_placed (hheld.placed hp) hfree,
      delete_held content hd]
    rfl

/-- Where replacing a file fails, the disk is as before. -/
theorem replace_error {f : Fault} (h : d.replace p content = (d', .error f)) :
    d' = d ∧ ∀ t, f.problem = .text t → p.fault? = some t := by
  cases hn : p.fault? with
  | some t =>
    simp only [replace, hn, Prod.mk.injEq, Except.error.injEq] at h
    obtain ⟨rfl, rfl⟩ := h
    exact ⟨rfl, fun u hu => by rw [Problem.text.inj hu]⟩
  | none =>
    rw [replace_eq content hn] at h
    split at h
    · cases h
    · next e hm =>
      cases h
      refine ⟨delete_held content hd, fun t ht => ?_⟩
      have he : e = .text t := ht
      rw [← hn]
      exact moveFile_text (he ▸ hm)

end Replace

theorem Placed.look_put_file (hp : Placed d p) (hl : d.root.look (p.resolve d.cwd) ≠ some none)
    (content : List UInt8) : (d.put (p.resolve d.cwd) (.file content)).root.look =
      Function.update d.root.look (p.resolve d.cwd) (some (some content)) := by
  rw [hp.resolve_eq] at hl ⊢
  exact look_put hp.look_around (Entry.bare_file content) hl

/-- A file that is put in its place. -/
theorem Placed.wrote_put (hp : Placed d p) (hl : d.root.look (p.resolve d.cwd) ≠ some none)
    (content : List UInt8) :
    Wrote d (d.put (p.resolve d.cwd) (.file content)) [(p.resolve d.cwd, content)] :=
  ⟨.of_file hl (hp.look_put_file hl content), rfl⟩

/-! ## Files -/

/-- What is told of a text that was written to a path. -/
def writtenLog (p : Path) (text : String) : List Log.Record :=
  [⟨.debug, .files, "Ensured directory exists: " ++ p.parent.text⟩,
    ⟨.debug, .files,
      "Wrote " ++ Decimal.text (Text.Utf8.bytes text).length ++ " bytes to " ++ p.text⟩]

section File

variable {text : String} {atomic : Bool}

/-- A text can be written if it has bytes, the directory around the file can be made and no directory is
in its place. -/
theorem writeFile_of_placed {mid : Disk} (he : Text.Utf8.Encodable text)
    (h : d.ensureDirectory p.parent = (mid, .ok ())) (hp : Placed mid p)
    (hl : mid.root.look (p.resolve d.cwd) ≠ some none) :
    writeFile d p text atomic =
      ⟨mid.put (p.resolve d.cwd) (.file (Text.Utf8.bytes text)),
        .ok (Text.Utf8.bytes text).length, writtenLog p text⟩ := by
  have hens := ensureDirectory_ensured d p.parent
  rw [h] at hens
  have hcwd : mid.cwd = d.cwd := hens.wrote.cwd
  rw [← hcwd] at hl ⊢
  have hreplace := (replace_ok_iff (Text.Utf8.bytes text) hp.around).mpr ⟨hp, hl, rfl⟩
  have hover : mid.overwrite p (Text.Utf8.bytes text) = (_, .ok ()) :=
    overwrite_ok_iff.mpr ⟨hp, hl, rfl⟩
  unfold writeFile
  rw [h, Text.Utf8.encode_of_encodable he]
  cases atomic <;> simp [hreplace, hover, writtenLog]

/-- A text without bytes is not written, but there is the directory for it. -/
theorem writeFile_of_unencodable {mid : Disk} {f : Text.Utf8.Unencodable}
    (he : Text.Utf8.encode text = .error f) (h : d.ensureDirectory p.parent = (mid, .ok ())) :
    writeFile d p text atomic = ⟨mid, .error ⟨.text (.encoding f), p.text, none⟩,
      [⟨.debug, .files, "Ensured directory exists: " ++ p.parent.text⟩]⟩ := by
  simp only [writeFile, h, he]

/-- What must hold for a text to have been written: it has bytes, the directory around the file was made,
and no directory was in its place. -/
theorem exists_placed {n : Nat} (h : (writeFile d p text atomic).result = .ok n) :
    Text.Utf8.Encodable text ∧ ∃ mid, d.ensureDirectory p.parent = (mid, .ok ()) ∧ Placed mid p ∧
      mid.root.look (p.resolve d.cwd) ≠ some none := by
  have hens := ensureDirectory_ensured d p.parent
  unfold writeFile at h
  split at h
  · cases h
  · next mid hm =>
    rw [hm] at hens
    have hcwd : mid.cwd = d.cwd := hens.wrote.cwd
    dsimp only at h
    split at h
    · cases h
    · next content hc =>
      refine ⟨(Text.Utf8.encode_ok_iff.mp hc).1, mid, hm, ?_⟩
      split at h
      · cases h
      · next after hr =>
        rw [← hcwd]
        cases atomic with
        | true =>
          obtain ⟨hp, hl, -⟩ := (replace_ok_iff _ (hens.isDir rfl)).mp hr
          exact ⟨hp, hl⟩
        | false =>
          obtain ⟨hp, hl, -⟩ := overwrite_ok_iff.mp hr
          exact ⟨hp, hl⟩

/-- A text that was written stands in its place, and nothing else but directories is new. -/
theorem writeFile_ok {n : Nat} (h : (writeFile d p text true).result = .ok n) :
    Text.Utf8.Encodable text ∧ n = (Text.Utf8.bytes text).length ∧
      Placed (writeFile d p text true).disk p ∧
      Wrote d (writeFile d p text true).disk [(p.resolve d.cwd, Text.Utf8.bytes text)] := by
  obtain ⟨he, mid, hm, hp, hl⟩ := exists_placed h
  have hens := ensureDirectory_ensured d p.parent
  rw [hm] at hens
  rw [writeFile_of_placed he hm hp hl] at h ⊢
  have hcwd : mid.cwd = d.cwd := hens.wrote.cwd
  rw [← hcwd] at hl ⊢
  have hw := hp.wrote_put hl (Text.Utf8.bytes text)
  exact ⟨he, (Except.ok.inj h).symm, hw.placed hp, hens.wrote.trans hw⟩

theorem writeFile_log {n : Nat} (h : (writeFile d p text true).result = .ok n) :
    (writeFile d p text true).log = writtenLog p text := by
  obtain ⟨he, mid, hm, hp, hl⟩ := exists_placed h
  rw [writeFile_of_placed he hm hp hl]

/-- Where writing fails, only the directories around the file may have been made. If the fault is of a
text, it is that of the path or of the text that was to be written. -/
theorem disk_of_error {f : Fault} (h : (writeFile d p text true).result = .error f) :
    (writeFile d p text true).disk = (d.ensureDirectory p.parent).1 ∧
      ∀ t, f.problem = .text t → t.Of p text := by
  have hens := ensureDirectory_ensured d p.parent
  unfold writeFile at h ⊢
  split at h
  · next mid g hm =>
    rw [hm] at hens
    cases h
    exact ⟨by rw [hm], fun t ht => .inl (Path.fault?_of_parent (hens.text f t rfl ht))⟩
  · next mid hm =>
    rw [hm] at hens
    cases hc : Text.Utf8.encode text with
    | error g =>
      simp only [hc, Except.error.injEq] at h ⊢
      subst h
      exact ⟨by rw [hm], fun t ht => .inr ⟨g, (Problem.text.inj ht).symm, hc⟩⟩
    | ok content =>
      simp only [hc, if_true] at h ⊢
      cases hr : mid.replace p content with
      | mk after result =>
        cases result with
        | ok u => simp [hr] at h
        | error g =>
          rw [hr] at h
          obtain ⟨rfl, ht⟩ := replace_error _ (hens.isDir rfl) hr
          cases h
          exact ⟨by rw [hm], fun t hg => .inl (ht t hg)⟩

/-- Where writing fails, all files are as before. -/
theorem writeFile_error {f : Fault} (h : (writeFile d p text true).result = .error f) :
    Wrote d (writeFile d p text true).disk [] ∧ ∀ t, f.problem = .text t → t.Of p text := by
  obtain ⟨he, ht⟩ := disk_of_error h
  rw [he]
  exact ⟨(ensureDirectory_ensured d p.parent).wrote, ht⟩

end File

end Disk
end FileTree
end ClientGen
