import ClientGen.Proofs.Callbacks
import ClientGen.Proofs.Lines
import ClientGen.Proofs.Refusals
import Mathlib

/-! The pieces that the files are put together from. Whatever names stand in it, each piece ends with
a line break, so no two pieces share a line, and the lines of the files are those of the pieces. A
report counts them all, also those that a run had rendered when it failed. -/

namespace ClientGen

open FileTree

namespace Text

/-- The lines of a text that are ended by a line break. -/
def wholeLines (s : String) : List String :=
  (lines s).dropLast

theorem lines_append_of_endsLine {a : String} (h : EndsLine a) (b : String) :
    lines (a ++ b) = wholeLines a ++ lines b := by
  obtain ⟨front, rfl⟩ := h
  rw [lines_append_break, wholeLines, lines_ended, List.dropLast_concat]

/-- A text is put together from pieces none of which leaves a line open: each starts on a line of its
own, behind those of the pieces before it, and the lines of the text are those of the pieces. -/
structure Lined (text : String) (pieces : List String) : Prop where
  text_eq : text = concat pieces
  ends : ∀ piece ∈ pieces, piece ≠ "" ∧ EndsLine piece
  starts : ∀ before piece after, pieces = before ++ piece :: after →
    text = concat before ++ piece ++ concat after ∧ (concat before = "" ∨ EndsLine (concat before)) ∧
      lines text = before.flatMap wholeLines ++ lines (piece ++ concat after)
  lines_eq : lines text = pieces.flatMap wholeLines ++ [""]
  count : countLines text = (pieces.map breaks).sum

section Pieces

variable {pieces : List String}

theorem breaks_concat (pieces : List String) : breaks (concat pieces) = (pieces.map breaks).sum := by
  induction pieces with
  | nil => rfl
  | cons piece rest ih => rw [concat_cons, breaks_append, ih, List.map_cons, List.sum_cons]

theorem endsLine_concat (h : ∀ piece ∈ pieces, EndsLine piece) :
    concat pieces = "" ∨ EndsLine (concat pieces) := by
  induction pieces with
  | nil => exact .inl rfl
  | cons piece rest ih =>
    obtain ⟨hpiece, hrest⟩ := List.forall_mem_cons.mp h
    rw [concat_cons]
    rcases ih hrest with hr | hr
    · rw [hr, String.append_empty]
      exact .inr hpiece
    · exact .inr (hr.append_left piece)

theorem lines_concat_append (h : ∀ piece ∈ pieces, EndsLine piece) (s : String) :
    lines (concat pieces ++ s) = pieces.flatMap wholeLines ++ lines s := by
  induction pieces with
  | nil => exact congrArg lines (String.empty_append (s := s))
  | cons piece rest ih =>
    obtain ⟨hpiece, hrest⟩ := List.forall_mem_cons.mp h
    rw [concat_cons, String.append_assoc, lines_append_of_endsLine hpiece, ih hrest,
      List.flatMap_cons, List.append_assoc]

theorem lined_concat (h : ∀ piece ∈ pieces, EndsLine piece) : Lined (concat pieces) pieces where
  text_eq := rfl
  ends := fun piece hp => ⟨(h piece hp).ne_empty, h piece hp⟩
  starts := by
    rintro before piece after rfl
    have hbefore : ∀ p ∈ before, EndsLine p := fun p hp => h p (by simp [hp])
    have htext : concat (before ++ piece :: after) =
        concat before ++ piece ++ concat after := by
      rw [concat_append, concat_cons, String.append_assoc]
    refine ⟨htext, endsLine_concat hbefore, ?_⟩
    rw [htext, String.append_assoc, lines_concat_append hbefore]
  lines_eq := by
    simpa [show lines "" = [""] from rfl] using lines_concat_append h ""
  count := by
    rw [countLines_eq, if_pos (endsLine_concat h), Nat.add_zero, breaks_concat]

end Pieces

end Text

namespace Code

open Text

variable (c : Config) (name : String)

theorem endsLine_typesHeader : EndsLine (typesHeader c) :=
  endsLine_unlines (by simp) (by simp)

theorem endsLine_methodsHeader : EndsLine (methodsHeader c) :=
  endsLine_unlines (by simp) (by simp)

theorem endsLine_methodsFooter : EndsLine methodsFooter :=
  ⟨"\n\x7d", rfl⟩

theorem endsLine_structText {t : TypeDef} {text : String} (h : structText c name t = .ok text) :
    EndsLine text := by
  obtain ⟨members, -, rfl⟩ := structText_ok_iff.mp h
  exact endsLine_unlines (by simp [structTail]) (by simp [structHead])

theorem endsLine_methodText (m : Method) : EndsLine (methodText name m) := by
  refine endsLine_unlines ?_ (by simp [methodLines])
  rw [methodLines, List.getLast?_append_of_ne_nil _ (List.cons_ne_nil _ _)]
  rfl

end Code

namespace Session

open Text

theorem endsLine_typePieces {c : Config} {b : Callback} {piece : String}
    (h : piece ∈ b.typePieces c) : EndsLine piece := by
  cases b with
  | beforeTypes =>
    rw [List.mem_singleton.mp h]
    exact Code.endsLine_typesHeader c
  | type name t =>
    cases ht : Code.structText c name t with
    | error f => simp [Callback.typePieces, ht, Except.toOption] at h
    | ok text =>
      have he : piece = text := by simpa [Callback.typePieces, ht, Except.toOption] using h
      exact he ▸ Code.endsLine_structText c name ht
  | _ => cases h

theorem endsLine_methodPieces {c : Config} {b : Callback} {piece : String}
    (h : piece ∈ b.methodPieces c) : EndsLine piece := by
  cases b with
  | beforeMethods =>
    rw [List.mem_singleton.mp h]
    exact Code.endsLine_methodsHeader c
  | method name m =>
    rw [List.mem_singleton.mp h]
    exact Code.endsLine_methodText name m
  | afterMethods =>
    rw [List.mem_singleton.mp h]
    exact Code.endsLine_methodsFooter
  | _ => cases h

theorem lined_flatMap {f : Callback → List String} (hf : ∀ b, ∀ piece ∈ f b, EndsLine piece)
    (done : List Callback) : Lined (concat (done.flatMap f)) (done.flatMap f) := by
  refine lined_concat fun piece hp => ?_
  obtain ⟨b, -, hb⟩ := List.mem_flatMap.mp hp
  exact hf b piece hb

/-- Both texts of a session that began without code are lined by its pieces. -/
theorem Grown.lined {directory : Path} {c : Config} {s : Session} {done : List Callback}
    (h : Grown (.new directory c) s done) :
    Lined s.typesText s.types ∧ Lined s.methodsText s.methods := by
  have htypes : s.types = done.flatMap (Callback.typePieces c) := h.types
  have hmethods : s.methods = done.flatMap (Callback.methodPieces c) := h.methods
  rw [typesText, methodsText, htypes, hmethods]
  exact ⟨lined_flatMap (fun _ _ => endsLine_typePieces) done,
    lined_flatMap (fun _ _ => endsLine_methodPieces) done⟩

end Session

namespace Pipeline

open Text Session

/-- The callbacks that return in a run, before the first that fails; none if the validation stops the
run. -/
def returned (d : Disk) (o : Options) (schema : Schema) (c : Config) (output : Path) :
    List Callback :=
  if passes o (Validation.findings schema c) then
    (⟨.new output c, d⟩ : Scene).returned (delivery schema false)
  else []

/-- A report shows the texts of the pieces that callbacks have brought, none if there was no callback,
and counts the line breaks in them. -/
structure Counts (c : Config) (done : List Callback) (r : Report) : Prop where
  texts : r.rendered.map Prod.snd = if done.isEmpty then [] else
    [concat (done.flatMap (Callback.typePieces c)), concat (done.flatMap (Callback.methodPieces c))]
  total : r.totalLines = ((done.flatMap (Callback.typePieces c) ++
    done.flatMap (Callback.methodPieces c)).map breaks).sum

variable {d : Disk} {o : Options} {schema : Schema} {c : Config} {output : Path} {r r' : Report}

theorem totalLines_of_lined {s : Session} (ht : Lined s.typesText s.types)
    (hm : Lined s.methodsText s.methods) :
    totalLines s = ((s.types ++ s.methods).map breaks).sum :=
  calc totalLines s = countLines s.typesText + countLines s.methodsText := rfl
    _ = ((s.types ++ s.methods).map breaks).sum := by
      rw [ht.count, hm.count, List.map_append, List.sum_append]

/-- Nothing keeps a delivery from its first callback. -/
theorem isEmpty_returned (x : Scene) (schema : Schema) (write : Bool) :
    (x.returned (delivery schema write)).isEmpty = false :=
  rfl

theorem withCode_counts {s : Session} {done : List Callback} (h : Grown (.new output c) s done)
    (hd : done.isEmpty = false) (fault : Option Session.Fault) :
    Counts c done (withCode r s fault) := by
  have htotal := totalLines_of_lined h.lined.1 h.lined.2
  have htypes : s.types = done.flatMap (Callback.typePieces c) := h.types
  have hmethods : s.methods = done.flatMap (Callback.methodPieces c) := h.methods
  rw [htypes, hmethods] at htotal
  constructor
  · rw [hd, ← htypes, ← hmethods]
    rfl
  · exact congrArg Int.ofNat htotal

/-- Whether the rendering ends well or midway, the lines of what is rendered are counted; writing the
files does not change that. -/
theorem generate_counts (h : (generate d o schema c output r).result = .ok r') :
    Counts c ((⟨.new output c, d⟩ : Scene).returned (delivery schema false)) r' := by
  have hgrown : Grown (.new output c) ((Session.new output c).deliver d schema false).session
      ((⟨.new output c, d⟩ : Scene).returned (delivery schema false)) :=
    Scene.next_grown ⟨.new output c, d⟩ (.deliver schema false)
  have hcounts := withCode_counts (r := r) hgrown (isEmpty_returned _ schema false)
    ((Session.new output c).deliver d schema false).fault
  rcases generate_result h with ⟨-, rfl⟩ | ⟨-, -, hwrite⟩
  · exact ⟨hcounts.texts, hcounts.total⟩
  · rw [write_result hwrite]
    exact ⟨hcounts.texts, hcounts.total⟩

theorem generateFrom_counts (hr : r.rendered = [] ∧ r.totalLines = 0)
    (h : (generateFrom d o schema c output r).result = .ok r') :
    Counts c (returned d o schema c output) r' := by
  rcases generateFrom_result h with ⟨hp, rfl⟩ | ⟨hp, hgenerate⟩
  · rw [returned, hp]
    exact ⟨congrArg (List.map Prod.snd) hr.1, hr.2⟩
  · rw [returned, hp]
    exact generate_counts hgenerate

theorem runFile_counts {p : Path} {given : Option Path} {settings : Value}
    (h : (runFile d o p given settings).result = .ok r) :
    (source? d p settings = none → r.totalLines = 0) ∧
    ∀ schema c, source? d p settings = some (schema, c) →
      Counts c (returned d o schema c (outputPath given c)) r := by
  refine ⟨fun hs => ?_, fun schema c hs => ?_⟩
  · exact ((runFile_of_none o given hs).2 r h).2.1
  · obtain ⟨steps, hrun⟩ := runFile_source hs o given
    exact generateFrom_counts ⟨rfl, rfl⟩ (hrun.symm.trans h)

end Pipeline

open Text Session Pipeline

/-- No two pieces of code share a line, whatever stands in them, and numbers of lines add up. Each piece
is ended by a line break. So in the texts of a session, after any acts, each piece starts on a line of
its own; and a report, also that of a run that fails or is stopped, counts the line breaks of the pieces
that were rendered. -/
theorem pieces_apart (c : Config) :
    (∀ a b : String, a = "" ∨ EndsLine a → countLines (a ++ b) = countLines a + countLines b) ∧
    (EndsLine (Code.typesHeader c) ∧ EndsLine (Code.methodsHeader c) ∧ EndsLine Code.methodsFooter ∧
      (∀ name t text, Code.structText c name t = .ok text → EndsLine text) ∧
      ∀ name m, EndsLine (Code.methodText name m)) ∧
    (∀ (directory : Path) (d : Disk) (acts : List Act),
      let s := ((⟨.new directory c, d⟩ : Scene).after acts).session
      Lined s.typesText s.types ∧ Lined s.methodsText s.methods ∧
        totalLines s = ((s.types ++ s.methods).map breaks).sum) ∧
    (∀ (d : Disk) (o : Options) (schema : Schema) (given : Option Path) (r : Report),
      (run d o schema c given).result = .ok r →
        Counts c (returned d o schema c (outputPath given c)) r) ∧
    ∀ (d : Disk) (o : Options) (p : Path) (given : Option Path) (settings : Value) (r : Report),
      (runFile d o p given settings).result = .ok r →
        (source? d p settings = none → r.totalLines = 0) ∧
        ∀ schema, source? d p settings = some (schema, c) →
          Counts c (returned d o schema c (outputPath given c)) r := by
  refine ⟨fun a b h => countLines_append h b, ⟨Code.endsLine_typesHeader c,
    Code.endsLine_methodsHeader c, Code.endsLine_methodsFooter,
    fun name t text h => Code.endsLine_structText c name h, Code.endsLine_methodText⟩, ?_, ?_, ?_⟩
  · intro directory d acts s
    obtain ⟨ht, hm⟩ := (Scene.after_grown ⟨.new directory c, d⟩ acts).lined
    exact ⟨ht, hm, totalLines_of_lined ht hm⟩
  · intro d o schema given r h
    exact generateFrom_counts ⟨rfl, rfl⟩ h
  · intro d o p given settings r h
    exact ⟨(runFile_counts h).1, fun schema hs => (runFile_counts h).2 schema c hs⟩

/-- A type that can be rendered and then one that no template is for. -/
def pollOfUser : Schema where
  types := ⟨[("User", ⟨⟨[("name", .single "String")], by simp⟩⟩),
    ("Poll", ⟨⟨[("answers", ⟨"String", true, false, false⟩)], by simp⟩⟩)], by simp⟩
  methods := .empty
  sourceFile := none

theorem pollOfUser_counted :
    let o : Options := ⟨false, false, true⟩
    let user : TypeDef := ⟨⟨[("name", .single "String")], by simp⟩⟩
    countLines ("import Foundation\n" ++ "import Dispatch") = 2 ∧
    ∃ text, Code.structText .usual "User" user = .ok text ∧ EndsLine text ∧
      (∃ r, (run documentDisk o pollOfUser .usual none).result = .ok r ∧ r.generationErrors ≠ [] ∧
        r.totalLines = breaks (Code.typesHeader .usual) + breaks text) ∧
      ∃ r, (runFile documentDisk o ⟨true, ["s.json"]⟩ none .null).result = .ok r ∧
        r.totalLines = 15 := by
  intro o user
  obtain ⟨hadd, ⟨-, -, -, hstruct, -⟩, -, hrun, hfile⟩ := pieces_apart .usual
  obtain ⟨text, htext⟩ : ∃ text, Code.structText .usual "User" user = .ok text := ⟨_, rfl⟩
  obtain ⟨r, hr⟩ : ∃ r, (run documentDisk o pollOfUser .usual none).result = .ok r := ⟨_, rfl⟩
  obtain ⟨q, hq⟩ : ∃ q, (runFile documentDisk o ⟨true, ["s.json"]⟩ none .null).result = .ok q :=
    ⟨_, rfl⟩
  have hfailed : (run documentDisk o pollOfUser .usual none).result.toOption.any
      (·.generationErrors.isEmpty) = false := by decide +kernel
  have hreturned : returned documentDisk o pollOfUser .usual (outputPath none .usual) =
      [.start, .beforeTypes, .type "User" user] := rfl
  have hs : source? documentDisk ⟨true, ["s.json"]⟩ .null =
      some (⟨.empty, .empty, some "/s.json"⟩, .usual) := by decide +kernel
  refine ⟨?_, text, htext, hstruct _ _ _ htext, ⟨r, hr, ?_, ?_⟩, q, hq, ?_⟩
  · rw [hadd "import Foundation\n" "import Dispatch" (.inr ⟨"import Foundation", rfl⟩)]
    decide
  · intro he
    simp [hr, Except.toOption, he] at hfailed
  · rw [(hrun _ _ _ _ _ hr).total, hreturned]
    simp [Callback.typePieces, Callback.methodPieces, htext, Except.toOption]
  · rw [((hfile _ _ _ _ _ _ hq).2 _ hs).total]
    decide +kernel

end ClientGen
