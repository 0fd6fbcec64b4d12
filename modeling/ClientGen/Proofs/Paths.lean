import ClientGen.Proofs.Locations

/-! Where paths lead. A way that exists leads to the location that its parts say, and stays when files
are written. -/

namespace ClientGen
namespace FileTree

namespace Path

theorem climb_append (location a b : List String) :
    climb location (a ++ b) = climb (climb location a) b := by
  induction a generalizing location with
  | nil => rfl
  | cons part rest ih => simp [climb, ih]

/-- Where the parts before are names, the fault is that of the parts behind them. -/
theorem exists_faultFrom_append (p : Path) (a : List String) :
    ∃ q : Path, ∀ b, p.faultFrom (a ++ b) = (p.faultFrom a).or (q.faultFrom b) := by
  induction a generalizing p with
  | nil => exact ⟨p, fun b => by simp [faultFrom]⟩
  | cons part rest ih =>
    by_cases hp : part = ".."
    · simpa [faultFrom, hp] using ih p.above
    · cases hf : nameFault? p.lead part with
      | some f => exact ⟨p, fun b => by simp [faultFrom, hp, hf]⟩
      | none => simpa [faultFrom, hp, hf] using ih ⟨p.absolute, p.parts ++ [part]⟩

/-- What keeps the parent of a path from leading to a place keeps the path from it. -/
theorem fault?_of_parent {p : Path} {t : TextFault} (h : p.parent.fault? = some t) :
    p.fault? = some t := by
  obtain ⟨q, hq⟩ := exists_faultFrom_append ⟨p.absolute, []⟩ p.parts.dropLast
  have hp : p.parts = p.parts.dropLast ++ p.parts.drop (p.parts.length - 1) := by
    rw [List.dropLast_eq_take, List.take_append_drop]
  unfold fault?
  rw [hp, hq, show faultFrom ⟨p.absolute, []⟩ p.parts.dropLast = some t from h, Option.some_or]

theorem fault?_parent {p : Path} (h : p.fault? = none) : p.parent.fault? = none := by
  cases hp : p.parent.fault? with
  | none => rfl
  | some t =>
    rw [fault?_of_parent hp] at h
    cases h

theorem parts_eq {p : Path} (h : p.parts ≠ []) : p.parts = p.parts.dropLast ++ [p.name] := by
  unfold name
  rw [List.getLast?_eq_some_getLast h, Option.getD_some, List.dropLast_concat_getLast]

theorem getLast?_parts {p : Path} (h : p.parts ≠ []) : p.parts.getLast? = some p.name := by
  rw [parts_eq h]
  simp

/-- A path that ends in a name leads to that name in the directory that its parent leads to. -/
theorem resolve_eq {p : Path} (cwd : List String) (h : p.parts ≠ []) (hn : p.name ≠ "..") :
    p.resolve cwd = p.parent.resolve cwd ++ [p.name] := by
  unfold resolve parent
  rw [parts_eq h, climb_append, List.dropLast_concat]
  simp [climb, hn]

end Path

namespace Disk

theorem walk_cons (root : Entry) (location : List String) (part : String) (rest l : List String) :
    walk root location (part :: rest) = .ok l ↔
      root.look location = some none ∧
      ((part = ".." ∧ walk root location.dropLast rest = .ok l) ∨
        (part ≠ ".." ∧ root.look (location ++ [part]) ≠ none ∧
          walk root (location ++ [part]) rest = .ok l)) := by
  rw [walk, Entry.look_eq_dir_iff]
  cases hx : root.at? location with
  | none => simp
  | some x =>
    cases x with
    | file content => simp
    | dir es =>
      have hl := Entry.lookup_eq_at? hx part
      by_cases hp : part = ".."
      · simp [hp]
      · cases he : es.lookup part with
        | none => simp [hp, Entry.look, ← hl, he]
        | some e => simp [hp, Entry.look, ← hl, he]

/-- A way that exists leads where its parts say. -/
theorem walk_eq_climb {root : Entry} {location parts l : List String}
    (h : walk root location parts = .ok l) : l = Path.climb location parts := by
  induction parts generalizing location with
  | nil => cases h; rfl
  | cons part rest ih =>
    obtain ⟨-, ⟨hp, hw⟩ | ⟨hp, -, hw⟩⟩ := (walk_cons ..).mp h
    · simpa [Path.climb, hp] using ih hw
    · simpa [Path.climb, hp] using ih hw

theorem walk_append (root : Entry) (location a b l : List String) :
    walk root location (a ++ b) = .ok l ↔
      ∃ m, walk root location a = .ok m ∧ walk root m b = .ok l := by
  induction a generalizing location with
  | nil => simp [walk]
  | cons part rest ih =>
    simp only [List.cons_append, walk_cons, ih]
    constructor
    · rintro ⟨hd, ⟨hp, m, hm, hl⟩ | ⟨hp, hs, m, hm, hl⟩⟩
      · exact ⟨m, ⟨hd, .inl ⟨hp, hm⟩⟩, hl⟩
      · exact ⟨m, ⟨hd, .inr ⟨hp, hs, hm⟩⟩, hl⟩
    · rintro ⟨m, ⟨hd, ⟨hp, hm⟩ | ⟨hp, hs, hm⟩⟩, hl⟩
      · exact ⟨hd, .inl ⟨hp, m, hm, hl⟩⟩
      · exact ⟨hd, .inr ⟨hp, hs, m, hm, hl⟩⟩

/-- A way stays when files are written. -/
theorem walk_filled {a b : Entry} {fs : List (List String × List UInt8)} (h : Filled a b fs)
    {location parts l : List String} (hw : walk a location parts = .ok l) :
    walk b location parts = .ok l := by
  induction parts generalizing location with
  | nil => exact hw
  | cons part rest ih =>
    obtain ⟨hd, hr⟩ := (walk_cons ..).mp hw
    refine (walk_cons ..).mpr ⟨h.dirs hd, ?_⟩
    rcases hr with ⟨hp, hw⟩ | ⟨hp, hs, hw⟩
    · exact .inl ⟨hp, ih hw⟩
    · exact .inr ⟨hp, h.kept hs, ih hw⟩

theorem walk_ne_text (root : Entry) (location parts : List String) (t : TextFault) :
    walk root location parts ≠ .error (.text t) := by
  induction parts generalizing location with
  | nil => simp [walk]
  | cons part rest ih =>
    rw [walk]
    split
    · split
      · exact ih _
      · split
        · exact ih _
        · simp
    · simp
    · simp

/-- The disks before and after files were written, the last one first. -/
structure Wrote (d d' : Disk) (files : List (List String × List UInt8)) : Prop where
  tree : Filled d.root d'.root files
  cwd : d'.cwd = d.cwd

variable {d d' : Disk} {p : Path} {fs : List (List String × List UInt8)}

theorem Wrote.refl (d : Disk) : Wrote d d [] :=
  ⟨.refl d.root, rfl⟩

theorem Wrote.trans {d'' : Disk} {gs : List (List String × List UInt8)} (h : Wrote d d' fs)
    (k : Wrote d' d'' gs) : Wrote d d'' (gs ++ fs) :=
  ⟨h.tree.trans k.tree, k.cwd.trans h.cwd⟩

theorem locate_ok_iff {l : List String} :
    d.locate p = .ok l ↔
      p.fault? = none ∧ walk d.root (if p.absolute then [] else d.cwd) p.parts = .ok l := by
  unfold locate
  cases p.fault? <;> simp

theorem locate_eq_resolve {l : List String} (h : d.locate p = .ok l) : l = p.resolve d.cwd :=
  walk_eq_climb (locate_ok_iff.mp h).2

theorem Wrote.locate {l : List String} (h : Wrote d d' fs) (hl : d.locate p = .ok l) :
    d'.locate p = .ok l := by
  rw [locate_ok_iff] at hl ⊢
  rw [h.cwd]
  exact ⟨hl.1, walk_filled h.tree hl.2⟩

theorem isDir_iff :
    d.isDir p = true ↔
      d.locate p = .ok (p.resolve d.cwd) ∧ d.root.look (p.resolve d.cwd) = some none := by
  unfold isDir entry?
  cases hl : d.locate p with
  | error e => simp
  | ok l =>
    rw [← locate_eq_resolve hl, Entry.look]
    dsimp only
    cases d.root.at? l with
    | none => simp
    | some x => cases x <;> simp [Entry.isDir, Entry.bytes?]

theorem Wrote.isDir (h : Wrote d d' fs) (hd : d.isDir p = true) : d'.isDir p = true := by
  rw [isDir_iff] at hd ⊢
  rw [h.cwd]
  exact ⟨h.locate hd.1, h.tree.dirs hd.2⟩

/-- The path ends in a name, and the directory for that name exists. -/
structure Placed (d : Disk) (p : Path) : Prop where
  noFault : p.fault? = none
  named : p.parts ≠ []
  notAbove : p.name ≠ ".."
  around : d.isDir p.parent = true

theorem Wrote.placed (h : Wrote d d' fs) (hp : Placed d p) : Placed d' p :=
  ⟨hp.noFault, hp.named, hp.notAbove, h.isDir hp.around⟩

theorem Placed.resolve_eq (hp : Placed d p) :
    p.resolve d.cwd = p.parent.resolve d.cwd ++ [p.name] :=
  Path.resolve_eq d.cwd hp.named hp.notAbove

theorem Placed.look_around (hp : Placed d p) : d.root.look (p.parent.resolve d.cwd) = some none :=
  (isDir_iff.mp hp.around).2

/-- A placed path leads to what stands at its location. -/
theorem Placed.locate_eq (hp : Placed d p) (hs : d.root.look (p.resolve d.cwd) ≠ none) :
    d.locate p = .ok (p.resolve d.cwd) := by
  obtain ⟨hl, hd⟩ := isDir_iff.mp hp.around
  rw [hp.resolve_eq] at hs ⊢
  refine locate_ok_iff.mpr ⟨hp.noFault, ?_⟩
  rw [Path.parts_eq hp.named, walk_append]
  refine ⟨_, (locate_ok_iff.mp hl).2, ?_⟩
  rw [walk_cons]
  exact ⟨hd, .inr ⟨hp.notAbove, hs, rfl⟩⟩

theorem Placed.file?_eq (hp : Placed d p) {content : List UInt8}
    (hf : d.root.look (p.resolve d.cwd) = some (some content)) : d.file? p = some content := by
  have hl := hp.locate_eq (by simp [hf])
  unfold file? entry?
  simp only [hl, Entry.look_eq_file_iff.mp hf]

theorem locate_of_file? {content : List UInt8} (h : d.file? p = some content) :
    d.locate p = .ok (p.resolve d.cwd) := by
  cases hl : d.locate p with
  | error e => simp [file?, entry?, hl] at h
  | ok l => rw [locate_eq_resolve hl]

theorem entry?_of_file? {content : List UInt8} (h : d.file? p = some content) :
    d.entry? p = some (.file content) := by
  unfold file? at h
  split at h
  · next he => rw [he, Option.some.inj h]
  · cases h

theorem look_of_file? {content : List UInt8} (h : d.file? p = some content) :
    d.root.look (p.resolve d.cwd) = some (some content) := by
  have he := entry?_of_file? h
  unfold entry? at he
  rw [locate_of_file? h] at he
  exact Entry.look_eq_file_iff.mpr he

/-- A file that is not written to remains. -/
theorem Wrote.file?_eq {files : List (List String × List UInt8)} (h : Wrote d d' files)
    {content : List UInt8} (hf : d.file? p = some content)
    (hn : files.lookup (p.resolve d.cwd) = none) : d'.file? p = some content := by
  have hlook := look_of_file? hf
  have hafter : d'.root.look (p.resolve d.cwd) = some (some content) := by
    rcases h.tree.elsewhere _ hn with he | ⟨he, -⟩
    · rw [he, hlook]
    · cases he.symm.trans hlook
  unfold file? entry?
  rw [h.locate (locate_of_file? hf)]
  simp only [Entry.look_eq_file_iff.mp hafter]

/-- The place of the last part of a path, case by case. -/
theorem slot_eq (d : Disk) (p : Path) :
    d.slot p =
      match p.fault?, p.parts.getLast? with
      | some f, _ => .error (.text f)
      | none, none => .ok .unnamed
      | none, some name =>
        if name = ".." then (d.locate p).map fun _ => .unnamed
        else match d.locate p.parent with
          | .error e => .error e
          | .ok around =>
            match d.root.at? around with
            | some (.dir es) =>
              match es.lookup name with
              | some e => .ok (.taken (around ++ [name]) e)
              | none => .ok (.free (around ++ [name]))
            | _ => .error .notDirectory := by
  unfold slot
  cases p.fault? with
  | some f => rfl
  | none =>
    cases p.parts.getLast? with
    | none => rfl
    | some name =>
      by_cases hn : name = ".."
      · simp only [hn, if_true]
        cases d.locate p <;> rfl
      · simp only [hn, if_false]
        cases d.locate p.parent <;> rfl

theorem slot_of_placed (hp : Placed d p) :
    d.slot p = .ok (match d.root.at? (p.resolve d.cwd) with
      | some e => .taken (p.resolve d.cwd) e
      | none => .free (p.resolve d.cwd)) := by
  obtain ⟨hl, hd⟩ := isDir_iff.mp hp.around
  obtain ⟨es, hes⟩ := Entry.look_eq_dir_iff.mp hd
  have hg := Path.getLast?_parts hp.named
  rw [hp.resolve_eq, ← Entry.lookup_eq_at? hes, slot_eq]
  simp only [hp.noFault, hg, hp.notAbove, hl, hes, if_false]
  cases es.lookup p.name <;> rfl

theorem placed_of_slot {s : Slot} (h : d.slot p = .ok s) (hs : s ≠ .unnamed) : Placed d p := by
  rw [slot_eq] at h
  cases hn : p.fault? with
  | some f => simp [hn] at h
  | none =>
    cases hg : p.parts.getLast? with
    | none =>
      simp only [hn, hg, Except.ok.injEq] at h
      exact absurd h.symm hs
    | some name =>
      have hname : p.name = name := by simp [Path.name, hg]
      have hparts : p.parts ≠ [] := by
        intro he
        simp [he] at hg
      simp only [hn, hg] at h
      by_cases ha : name = ".."
      · rw [if_pos ha] at h
        cases hl : d.locate p with
        | error e => simp [hl, Except.map] at h
        | ok l =>
          simp only [hl, Except.map, Except.ok.injEq] at h
          exact absurd h.symm hs
      · rw [if_neg ha] at h
        cases hl : d.locate p.parent with
        | error e => simp [hl] at h
        | ok around =>
          refine ⟨hn, hparts, by rwa [hname], isDir_iff.mpr ?_⟩
          have hr := locate_eq_resolve hl
          rw [← hr]
          refine ⟨hl, Entry.look_eq_dir_iff.mpr ?_⟩
          simp only [hl] at h
          cases hx : d.root.at? around with
          | none => simp [hx] at h
          | some x =>
            cases x with
            | file content => simp [hx] at h
            | dir es => exact ⟨es, rfl⟩

/-- A free place is that of a placed path, and nothing stands there. -/
theorem slot_free {l : List String} (h : d.slot p = .ok (.free l)) :
    Placed d p ∧ l = p.resolve d.cwd ∧ d.root.look l = none := by
  have hp := placed_of_slot h (by simp)
  rw [slot_of_placed hp, Except.ok.injEq] at h
  cases hx : d.root.at? (p.resolve d.cwd) with
  | some e => simp [hx] at h
  | none =>
    simp only [hx, Slot.free.injEq] at h
    subst h
    exact ⟨hp, rfl, Entry.look_eq_none_iff.mpr hx⟩

theorem slot_taken {l : List String} {e : Entry} (h : d.slot p = .ok (.taken l e)) :
    Placed d p ∧ l = p.resolve d.cwd ∧ d.root.look l = some e.bytes? := by
  have hp := placed_of_slot h (by simp)
  rw [slot_of_placed hp, Except.ok.injEq] at h
  cases hx : d.root.at? (p.resolve d.cwd) with
  | none => simp [hx] at h
  | some x =>
    simp only [hx, Slot.taken.injEq] at h
    obtain ⟨rfl, rfl⟩ := h
    exact ⟨hp, rfl, by simp [Entry.look, hx]⟩

theorem locate_text {t : TextFault} (h : d.locate p = .error (.text t)) : p.fault? = some t := by
  unfold locate at h
  cases hf : p.fault? with
  | some f =>
    simp only [hf, Except.error.injEq, Problem.text.injEq] at h
    rw [h]
  | none =>
    simp only [hf] at h
    exact absurd h (walk_ne_text _ _ _ t)

/-- What a path leads to by its last name is in an existing directory. -/
theorem placed_of_locate {l : List String} (h : d.locate p = .ok l) (hp : p.parts ≠ [])
    (hn : p.name ≠ "..") : Placed d p := by
  obtain ⟨hf, hw⟩ := locate_ok_iff.mp h
  rw [Path.parts_eq hp, walk_append] at hw
  obtain ⟨around, haround, hlast⟩ := hw
  have hl : d.locate p.parent = .ok around := locate_ok_iff.mpr ⟨Path.fault?_parent hf, haround⟩
  have hd := ((walk_cons ..).mp hlast).1
  obtain rfl := locate_eq_resolve hl
  exact ⟨hf, hp, hn, isDir_iff.mpr ⟨hl, hd⟩⟩

/-- Where a text keeps a path from having a place, it is a part of the path. -/
theorem slot_text {t : TextFault} (h : d.slot p = .error (.text t)) : p.fault? = some t := by
  rw [slot_eq] at h
  cases hf : p.fault? with
  | some f =>
    simp only [hf, Except.error.injEq, Problem.text.injEq] at h
    rw [h]
  | none =>
    cases hg : p.parts.getLast? with
    | none => simp [hf, hg] at h
    | some name =>
      simp only [hf, hg] at h
      by_cases ha : name = ".."
      · rw [if_pos ha] at h
        cases hl : d.locate p with
        | error e =>
          simp only [hl, Except.map, Except.error.injEq] at h
          rw [← hf]
          exact locate_text (h ▸ hl)
        | ok l => simp [hl, Except.map] at h
      · rw [if_neg ha] at h
        cases hl : d.locate p.parent with
        | error e =>
          simp only [hl, Except.error.injEq] at h
          rw [← hf]
          exact Path.fault?_of_parent (locate_text (h ▸ hl))
        | ok around =>
          simp only [hl] at h
          repeat' split at h
          all_goals cases h

end Disk
end FileTree
end ClientGen
