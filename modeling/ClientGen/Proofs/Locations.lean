import ClientGen.FileTree.Write
import Mathlib.Logic.Function.Basic

/-! A tree seen as a function of locations. Putting a file or an empty directory into a directory
changes this function at one location, and so does deleting one. From this follows what any number of
writes leaves at each location. -/

namespace ClientGen
namespace FileTree

theorem lookup_cons_of_ne {m k : String} (e : Entry) (es : List (String × Entry)) (h : m ≠ k) :
    ((k, e) :: es).lookup m = es.lookup m := by
  simp only [List.lookup_cons, beq_eq_false_iff_ne.mpr h]

theorem lookup_putEntry (n : String) (e : Entry) (es : List (String × Entry)) (m : String) :
    (putEntry n e es).lookup m = if m = n then some e else es.lookup m := by
  induction es with
  | nil =>
    by_cases h : m = n
    · simp [putEntry, h]
    · simp [putEntry, lookup_cons_of_ne, h]
  | cons q rest ih =>
    obtain ⟨k, old⟩ := q
    by_cases hk : k = n
    · subst hk
      by_cases h : m = k
      · simp [putEntry, h]
      · simp [putEntry, lookup_cons_of_ne, h]
    · by_cases h : m = k
      · subst h
        simp [putEntry, hk]
      · simp [putEntry, hk, lookup_cons_of_ne _ _ h, ih]

theorem putEntry_self {n : String} {e : Entry} {es : List (String × Entry)}
    (h : es.lookup n = some e) : putEntry n e es = es := by
  induction es with
  | nil => simp at h
  | cons q rest ih =>
    obtain ⟨k, old⟩ := q
    by_cases hk : k = n
    · subst hk
      rw [List.lookup_cons_self, Option.some.injEq] at h
      simp [putEntry, h]
    · rw [lookup_cons_of_ne old rest fun hn => hk hn.symm] at h
      simp [putEntry, hk, ih h]

@[simp] theorem putEntry_putEntry (n : String) (new old : Entry) (es : List (String × Entry)) :
    putEntry n new (putEntry n old es) = putEntry n new es := by
  induction es with
  | nil => simp [putEntry]
  | cons q rest ih =>
    by_cases hk : q.1 = n
    · simp [putEntry, hk]
    · simp [putEntry, hk, ih]

/-- An entry under a new name stands behind the others, so without it they are as they were. -/
theorem filter_putEntry {n : String} (e : Entry) {es : List (String × Entry)}
    (h : n ∉ es.map Prod.fst) : ((putEntry n e es).filter fun q => q.1 ≠ n) = es := by
  induction es with
  | nil => simp [putEntry]
  | cons q rest ih =>
    obtain ⟨hk, hrest⟩ := not_or.mp (mt List.mem_cons.mpr h)
    have hk' : q.1 ≠ n := fun hn => hk hn.symm
    rw [putEntry, if_neg hk', List.filter_cons_of_pos (by simpa using hk'), ih hrest]

theorem mem_names_of_lookup {n : String} {e : Entry} {es : List (String × Entry)}
    (h : es.lookup n = some e) : n ∈ es.map Prod.fst := by
  induction es with
  | nil => simp at h
  | cons q rest ih =>
    obtain ⟨k, old⟩ := q
    by_cases hk : n = k
    · simp [hk]
    · rw [lookup_cons_of_ne _ _ hk] at h
      simp [ih h]

theorem lookup_of_nodup {κ α : Type} [BEq κ] [LawfulBEq κ] {l : List (κ × α)} {k : κ} {a : α}
    (hn : (l.map Prod.fst).Nodup) (hm : (k, a) ∈ l) : l.lookup k = some a := by
  obtain ⟨before, rest, rfl⟩ := List.append_of_mem hm
  refine List.lookup_eq_some_iff.mpr ⟨before, rest, rfl, fun q hq => bne_iff_ne.mpr fun he => ?_⟩
  rw [List.map_append, List.nodup_append] at hn
  exact hn.2.2 q.1 (List.mem_map_of_mem hq) k (by simp) he.symm

namespace Entry

/-- The bytes of a file; a directory has none. -/
def bytes? : Entry → Option (List UInt8)
  | .file content => some content
  | .dir _ => none

/-- What stands at a location: nothing, a directory (which has no bytes), or a file with its
bytes. -/
def look (e : Entry) (location : List String) : Option (Option (List UInt8)) :=
  (e.at? location).map bytes?

/-- A file or an empty directory: nothing stands below it. -/
def Bare (e : Entry) : Prop :=
  ∀ n rest, e.look (n :: rest) = none

theorem bare_file (content : List UInt8) : (Entry.file content).Bare := fun _ _ => rfl

theorem bare_empty : (Entry.dir []).Bare := fun _ _ => rfl

theorem at?_dir_cons (es : List (String × Entry)) (n : String) (rest : List String) :
    (Entry.dir es).at? (n :: rest) = (es.lookup n).bind fun e => e.at? rest := by
  rw [at?]
  cases es.lookup n <;> rfl

theorem look_dir_cons (es : List (String × Entry)) (n : String) (rest : List String) :
    (Entry.dir es).look (n :: rest) = (es.lookup n).bind fun e => e.look rest := by
  rw [look, at?_dir_cons]
  cases es.lookup n <;> rfl

@[simp] theorem look_nil (e : Entry) : e.look [] = some e.bytes? := by
  simp [look]

theorem at?_append (e : Entry) (a b : List String) :
    e.at? (a ++ b) = (e.at? a).bind fun x => x.at? b := by
  induction a generalizing e with
  | nil => simp
  | cons n rest ih =>
    cases e with
    | file content => rfl
    | dir es =>
      rw [List.cons_append, at?_dir_cons, at?_dir_cons]
      cases es.lookup n with
      | none => rfl
      | some x => exact ih x

theorem look_eq_dir_iff {e : Entry} {l : List String} :
    e.look l = some none ↔ ∃ es, e.at? l = some (.dir es) := by
  unfold look
  cases e.at? l with
  | none => simp
  | some x => cases x <;> simp [bytes?]

theorem look_eq_file_iff {e : Entry} {l : List String} {content : List UInt8} :
    e.look l = some (some content) ↔ e.at? l = some (.file content) := by
  unfold look
  cases e.at? l with
  | none => simp
  | some x => cases x <;> simp [bytes?]

theorem look_eq_none_iff {e : Entry} {l : List String} : e.look l = none ↔ e.at? l = none := by
  simp [look]

/-- The entries of a directory are what stands one name further. -/
theorem lookup_eq_at? {e : Entry} {l : List String} {es : List (String × Entry)}
    (h : e.at? l = some (.dir es)) (n : String) : es.lookup n = e.at? (l ++ [n]) := by
  rw [at?_append, h, Option.bind_some, at?_dir_cons]
  cases es.lookup n <;> simp

/-- What stands at a location where there is no directory has nothing below it. -/
theorem look_below {e : Entry} {l : List String} (h : e.look l ≠ some none) (n : String)
    (rest : List String) : e.look (l ++ n :: rest) = none := by
  rw [look_eq_none_iff, at?_append]
  cases hx : e.at? l with
  | none => rfl
  | some x =>
    cases x with
    | file content => rfl
    | dir es => exact absurd (look_eq_dir_iff.mpr ⟨es, hx⟩) h

theorem remove_dir_cons {es : List (String × Entry)} {n : String} {rest : List String} {x : Entry}
    (hr : rest ≠ []) (hx : es.lookup n = some x) :
    (Entry.dir es).remove (n :: rest) = .dir (putEntry n (x.remove rest) es) := by
  cases rest with
  | nil => exact absurd rfl hr
  | cons m more => simp only [remove, hx]

/-- A tree with what it has already is the same tree. -/
theorem set_self {e x : Entry} {l : List String} (h : e.at? l = some x) : e.set l x = e := by
  induction l generalizing e with
  | nil =>
    rw [at?_nil, Option.some.injEq] at h
    rw [h]
    cases x <;> rfl
  | cons n rest ih =>
    cases e with
    | file content => cases h
    | dir es =>
      rw [at?_dir_cons] at h
      obtain ⟨y, hy, hx⟩ := Option.bind_eq_some_iff.mp h
      rw [set, hy, Option.getD_some, ih hx, putEntry_self hy]

/-- A tree without an entry that was put under a new name is the same tree. -/
theorem remove_set {e : Entry} {around : List String} {name : String} {es : List (String × Entry)}
    (new : Entry) (ha : e.at? around = some (.dir es)) (hn : name ∉ es.map Prod.fst) :
    (e.set (around ++ [name]) new).remove (around ++ [name]) = e := by
  induction around generalizing e with
  | nil =>
    rw [at?_nil, Option.some.injEq] at ha
    subst ha
    simp only [List.nil_append, set, remove, filter_putEntry _ hn]
  | cons n rest ih =>
    cases e with
    | file content => cases ha
    | dir es' =>
      rw [at?_dir_cons] at ha
      obtain ⟨y, hy, hx⟩ := Option.bind_eq_some_iff.mp ha
      rw [List.cons_append, set, hy, Option.getD_some,
        remove_dir_cons (by simp) (by rw [lookup_putEntry, if_pos rfl]), ih hx, putEntry_putEntry,
        putEntry_self hy]

section Change

variable {e : Entry} {around : List String} {name : String}

/-- A directory on the way to an existing directory. -/
theorem look_dir_of_cons {n : String} (h : e.look (n :: around) = some none) :
    ∃ es x, e = .dir es ∧ es.lookup n = some x ∧ x.look around = some none := by
  cases e with
  | file content => cases h
  | dir es =>
    rw [look_dir_cons] at h
    obtain ⟨x, hx, hd⟩ := Option.bind_eq_some_iff.mp h
    exact ⟨es, x, rfl, hx, hd⟩

theorem dir_of_look_nil (h : e.look [] = some none) : ∃ es, e = .dir es := by
  cases e with
  | file content => cases h
  | dir es => exact ⟨es, rfl⟩

/-- A directory in which one name leads to something else differs below that name only. -/
theorem look_dir_update {es es' : List (String × Entry)} {n : String} {y : Option Entry}
    {place : List String} {v : Option (Option (List UInt8))}
    (hl : ∀ m, es'.lookup m = if m = n then y else es.lookup m)
    (hy : (fun l => y.bind fun e => e.look l) =
      Function.update (fun l => (es.lookup n).bind fun e => e.look l) place v) :
    (Entry.dir es').look = Function.update (Entry.dir es).look (n :: place) v := by
  funext l
  cases l with
  | nil => rfl
  | cons m rest =>
    rw [look_dir_cons, hl]
    by_cases hm : m = n
    · subst hm
      rw [if_pos rfl, congrFun hy rest]
      by_cases hr : rest = place
      · simp [hr]
      · rw [Function.update_of_ne hr, Function.update_of_ne (by simpa using hr), look_dir_cons]
    · rw [if_neg hm, Function.update_of_ne (fun hc => hm (List.cons.inj hc).1), look_dir_cons]

theorem look_putEntry {es : List (String × Entry)} {n : String} {x y : Entry} {place : List String}
    {v : Option (Option (List UInt8))} (hx : es.lookup n = some x)
    (hy : y.look = Function.update x.look place v) :
    (Entry.dir (putEntry n y es)).look = Function.update (Entry.dir es).look (n :: place) v := by
  refine look_dir_update (lookup_putEntry n y es) ?_
  simp only [hx, Option.bind_some]
  exact hy

/-- Below a name of a directory that leads to no directory stands nothing. -/
theorem bind_look {es : List (String × Entry)} (ho : (Entry.dir es).look [name] ≠ some none)
    (x : String) (xs : List String) : ((es.lookup name).bind fun e => e.look (x :: xs)) = none := by
  rw [← look_dir_cons]
  exact look_below ho x xs

/-- A file or an empty directory that is put where no directory is changes this location only. -/
theorem look_set {new : Entry} (ha : e.look around = some none) (hn : new.Bare)
    (ho : e.look (around ++ [name]) ≠ some none) :
    (e.set (around ++ [name]) new).look =
      Function.update e.look (around ++ [name]) (some new.bytes?) := by
  induction around generalizing e with
  | nil =>
    obtain ⟨es, rfl⟩ := dir_of_look_nil ha
    have hs : (Entry.dir es).set ([] ++ [name]) new = .dir (putEntry name new es) := by
      simp [set]
    rw [hs]
    refine look_dir_update (lookup_putEntry name new es) ?_
    funext l
    cases l with
    | nil => simp
    | cons x xs => simp [hn x xs, bind_look ho]
  | cons n place ih =>
    obtain ⟨es, x, rfl, hx, hd⟩ := look_dir_of_cons ha
    rw [List.cons_append, look_dir_cons, hx] at ho
    rw [List.cons_append, set, hx, Option.getD_some]
    exact look_putEntry hx (ih hd ho)

end Change
end Entry

/-! ## What writing does to a tree -/

/-- The trees before and after files were written, the last one first: each stands at its location
as it was written there last, where no directory was; elsewhere there are at most new directories. -/
structure Filled (before after : Entry) (files : List (List String × List UInt8)) : Prop where
  there : ∀ l content, files.lookup l = some content →
    before.look l ≠ some none ∧ after.look l = some (some content)
  elsewhere : ∀ l, files.lookup l = none →
    after.look l = before.look l ∨ (before.look l = none ∧ after.look l = some none)

namespace Filled

variable {a b c : Entry} {fs gs : List (List String × List UInt8)}

/-- Directories stay. -/
theorem dirs (h : Filled a b fs) {l : List String} (hd : a.look l = some none) :
    b.look l = some none := by
  cases hf : fs.lookup l with
  | some content => exact absurd hd (h.there l content hf).1
  | none =>
    rcases h.elsewhere l hf with hb | ⟨hn, -⟩
    · rw [hb, hd]
    · rw [hn] at hd
      cases hd

/-- Nothing disappears. -/
theorem kept (h : Filled a b fs) {l : List String} (hs : a.look l ≠ none) : b.look l ≠ none := by
  cases hf : fs.lookup l with
  | some content => simp [(h.there l content hf).2]
  | none =>
    rcases h.elsewhere l hf with hb | ⟨-, hb⟩
    · rwa [hb]
    · simp [hb]

theorem trans (h : Filled a b fs) (k : Filled b c gs) : Filled a c (gs ++ fs) := by
  constructor
  · intro l content hl
    rw [List.lookup_append] at hl
    cases hg : gs.lookup l with
    | some x =>
      rw [hg, Option.some_or, Option.some.injEq] at hl
      subst hl
      obtain ⟨hb, hc⟩ := k.there l x hg
      exact ⟨fun ha => hb (h.dirs ha), hc⟩
    | none =>
      rw [hg, Option.none_or] at hl
      obtain ⟨ha, hb⟩ := h.there l content hl
      rcases k.elsewhere l hg with hc | ⟨hn, -⟩
      · exact ⟨ha, by rw [hc, hb]⟩
      · rw [hn] at hb
        cases hb
  · intro l hl
    rw [List.lookup_append, Option.or_eq_none_iff] at hl
    obtain ⟨hg, hf⟩ := hl
    rcases k.elsewhere l hg with hc | ⟨hn, hc⟩
    · rcases h.elsewhere l hf with hb | ⟨hn, hb⟩
      · exact .inl (by rw [hc, hb])
      · exact .inr ⟨hn, by rw [hc, hb]⟩
    · rcases h.elsewhere l hf with hb | ⟨-, hb⟩
      · exact .inr ⟨by rw [← hb, hn], hc⟩
      · rw [hn] at hb
        cases hb

theorem of_look_eq (h : b.look = a.look) : Filled a b [] :=
  ⟨fun _ _ h => by simp at h, fun l _ => .inl (congrFun h l)⟩

theorem refl (e : Entry) : Filled e e [] :=
  of_look_eq rfl

/-- A directory where nothing was. -/
theorem of_new_dir {place : List String} (hn : a.look place = none)
    (hb : b.look = Function.update a.look place (some none)) : Filled a b [] := by
  refine ⟨fun _ _ h => by simp at h, fun l _ => ?_⟩
  by_cases hl : l = place
  · subst hl
    exact .inr ⟨hn, by simp [hb]⟩
  · exact .inl (by rw [hb, Function.update_of_ne hl])

/-- A file where no directory was. -/
theorem of_file {place : List String} {content : List UInt8} (hd : a.look place ≠ some none)
    (hb : b.look = Function.update a.look place (some (some content))) :
    Filled a b [(place, content)] := by
  constructor
  · intro l x hl
    by_cases h : l = place
    · subst h
      rw [List.lookup_cons_self, Option.some.injEq] at hl
      subst hl
      exact ⟨hd, by simp [hb]⟩
    · simp [List.lookup_cons, beq_eq_false_iff_ne.mpr h] at hl
  · intro l hl
    by_cases h : l = place
    · subst h
      simp at hl
    · exact .inl (by rw [hb, Function.update_of_ne h])

end Filled

end FileTree
end ClientGen
