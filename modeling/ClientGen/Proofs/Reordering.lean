import ClientGen.Pipeline.Run
import ClientGen.Proofs.Order
import ClientGen.Proofs.Prediction
import Mathlib.Data.List.Forall2

/-! The order in which a schema declares the fields of a type and the parameters of a method. All
that reads them reads them in the order of their names, so neither a validation nor the code nor a
run shows it. -/

namespace ClientGen

namespace Table

variable {α : Type}

/-- Tables with the same entries are the same once they are sorted. -/
theorem sorted_eq_of_perm {t u : Table α} (h : t.toList.Perm u.toList) : t.sorted = u.sorted := by
  have hperm : t.sorted.Perm u.sorted :=
    ((Text.sortByKey_perm t.toList).trans h).trans (Text.sortByKey_perm u.toList).symm
  refine List.Perm.eq_of_pairwise ?_ t.sorted_ascending u.sorted_ascending hperm
  intro p q _ _ hpq hqp
  exact absurd (String.lt_trans hpq hqp) (String.lt_irrefl p.1)

theorem size_eq_of_perm {t u : Table α} (h : t.toList.Perm u.toList) : t.size = u.size :=
  h.length_eq

end Table

/-- Types with the same fields, declared in any order. -/
structure TypeDef.Rearranged (t u : TypeDef) : Prop where
  fields : t.fields.toList.Perm u.fields.toList

/-- Methods with the same result and the same parameters, declared in any order. -/
structure Method.Rearranged (m n : Method) : Prop where
  parameters : m.parameters.toList.Perm n.parameters.toList
  result : m.result = n.result

/-- Schemas with the same types and methods in the same order, but for the order of the fields inside
each type and of the parameters inside each method. The files that they come from play no part. -/
structure Schema.Rearranged (s z : Schema) : Prop where
  types : List.Forall₂ (fun p q => p.1 = q.1 ∧ p.2.Rearranged q.2) s.types.toList z.types.toList
  methods : List.Forall₂ (fun p q => p.1 = q.1 ∧ p.2.Rearranged q.2) s.methods.toList
    z.methods.toList

section Lists

variable {α β γ : Type} {R : α → β → Prop} {l : List α} {k : List β}

theorem map_eq_of_forall₂ {f : α → γ} {g : β → γ} (h : List.Forall₂ R l k)
    (hfg : ∀ a b, R a b → f a = g b) : l.map f = k.map g := by
  induction h with
  | nil => rfl
  | cons hab _ ih => simp [hfg _ _ hab, ih]

theorem flatMap_eq_of_forall₂ {f : α → List γ} {g : β → List γ} (h : List.Forall₂ R l k)
    (hfg : ∀ a b, R a b → f a = g b) : l.flatMap f = k.flatMap g := by
  rw [List.flatMap_def, List.flatMap_def, map_eq_of_forall₂ h hfg]

end Lists

namespace Code

variable {t u : TypeDef} {m n : Method}

theorem structText_rearranged (c : Config) (name : String) (h : t.Rearranged u) :
    structText c name t = structText c name u := by
  rw [structText, structText, Table.sorted_eq_of_perm h.fields]

theorem structLog_rearranged (c : Config) (name : String) (h : t.Rearranged u) :
    structLog c name t = structLog c name u := by
  rw [structLog, structLog, structText_rearranged c name h, Table.sorted_eq_of_perm h.fields,
    Table.size_eq_of_perm h.fields]

theorem methodText_rearranged (name : String) (h : m.Rearranged n) :
    methodText name m = methodText name n := by
  simp only [methodText, methodLines, Table.sorted_eq_of_perm h.parameters, h.result]

theorem methodLog_rearranged (name : String) (h : m.Rearranged n) :
    methodLog name m = methodLog name n := by
  rw [methodLog, methodLog, Table.size_eq_of_perm h.parameters]

/-- Rendering stops for no other reason than a field without template. -/
theorem unsupported_of_stop {c : Config} {us : List Unsupported} {e : Fault}
    (h : stop c us = some e) : ∃ u, e = .unsupported u := by
  unfold stop at h
  split at h
  · obtain ⟨u, -, rfl⟩ := Option.map_eq_some_iff.mp h
    exact ⟨u, rfl⟩
  · cases h

end Code

namespace Validation

variable {s z : Schema}

theorem accessible_rearranged {t u : TypeDef} (h : t.Rearranged u) : accessible t = accessible u := by
  rw [accessible, accessible, Table.sorted_eq_of_perm h.fields]

theorem memberIssues_rearranged (c : Config) (type : String) {t u : TypeDef} (h : t.Rearranged u) :
    memberIssues c type t = memberIssues c type u := by
  simp only [memberIssues, memberClaims, accessible_rearranged h]

theorem shapeIssues_rearranged (c : Config) (type : String) {t u : TypeDef} (h : t.Rearranged u) :
    shapeIssues c type t = shapeIssues c type u := by
  rw [shapeIssues, shapeIssues, accessible_rearranged h]

theorem typeNames_rearranged (h : s.Rearranged z) : s.types.names = z.types.names :=
  map_eq_of_forall₂ h.types fun _ _ hpq => hpq.1

theorem methodIssues_rearranged (c : Config) (name : String) {m n : Method}
    (hnames : s.types.names = z.types.names) (h : m.Rearranged n) :
    methodIssues s c name m = methodIssues z c name n := by
  rw [methodIssues_congr (isKnown_congr c hnames), methodIssues, methodIssues,
    Table.sorted_eq_of_perm h.parameters, h.result]

theorem issues_rearranged (c : Config) (h : s.Rearranged z) : issues s c = issues z c := by
  have hnames := typeNames_rearranged h
  have hmembers : fieldNameIssues s c = fieldNameIssues z c :=
    flatMap_eq_of_forall₂ h.types fun p q ⟨hname, ht⟩ => by
      rw [hname, memberIssues_rearranged c q.1 ht]
  have hshapes : fieldShapeIssues s c = fieldShapeIssues z c :=
    flatMap_eq_of_forall₂ h.types fun p q ⟨hname, ht⟩ => by
      rw [hname, shapeIssues_rearranged c q.1 ht]
  have hmethods : allMethodIssues s c = allMethodIssues z c :=
    flatMap_eq_of_forall₂ h.methods fun p q ⟨hname, hm⟩ => by
      rw [hname, methodIssues_rearranged c q.1 hnames hm]
  rw [issues, issues, typeNameIssues, hnames, hmembers, hshapes, hmethods]
  rfl

theorem findings_rearranged (c : Config) (h : s.Rearranged z) : findings s c = findings z c := by
  rw [findings, findings, issues_rearranged c h]

theorem log_rearranged (c : Config) (h : s.Rearranged z) : log s c = log z c := by
  have htypes : s.types.size = z.types.size := h.types.length_eq
  have hmethods : s.methods.size = z.methods.size := h.methods.length_eq
  rw [log, log, findings_rearranged c h, htypes, hmethods]

end Validation

namespace Session

open FileTree

/-- Callbacks with which every session goes on in the same way. -/
structure Callback.Alike (a b : Callback) : Prop where
  announcement : a.announcement = b.announcement
  step : ∀ (g : Session) (d : Disk), g.step d a = g.step d b

theorem Callback.Alike.refl (b : Callback) : b.Alike b :=
  ⟨rfl, fun _ _ => rfl⟩

theorem alike_type (name : String) {t u : TypeDef} (h : t.Rearranged u) :
    (Callback.type name t).Alike (.type name u) := by
  refine ⟨rfl, fun g d => ?_⟩
  simp only [step, Code.structText_rearranged g.config name h,
    Code.structLog_rearranged g.config name h]

theorem alike_method (name : String) {m n : Method} (h : m.Rearranged n) :
    (Callback.method name m).Alike (.method name n) := by
  refine ⟨rfl, fun g d => ?_⟩
  simp only [step, Code.methodText_rearranged name h, Code.methodLog_rearranged name h]

/-- Runs of callbacks that are alike one by one have the same outcome, also if one of them fails. -/
theorem run_alike {as bs : List Callback} (h : List.Forall₂ Callback.Alike as bs) (g : Session)
    (d : Disk) : g.run d as = g.run d bs := by
  induction h generalizing g d with
  | nil => rfl
  | cons hab _ ih => simp only [run, hab.step, hab.announcement, ih]

theorem delivery_alike {s z : Schema} (h : s.Rearranged z) (write : Bool) :
    List.Forall₂ Callback.Alike (delivery s write) (delivery z write) := by
  have hsame (bs : List Callback) : List.Forall₂ Callback.Alike bs bs :=
    List.forall₂_same.mpr fun b _ => Callback.Alike.refl b
  have htypes : List.Forall₂ Callback.Alike (s.types.toList.map fun p => .type p.1 p.2)
      (z.types.toList.map fun p => .type p.1 p.2) := by
    rw [List.forall₂_map_left_iff, List.forall₂_map_right_iff]
    exact h.types.imp fun p q ⟨hname, ht⟩ => hname ▸ alike_type p.1 ht
  have hmethods : List.Forall₂ Callback.Alike (s.methods.toList.map fun p => .method p.1 p.2)
      (z.methods.toList.map fun p => .method p.1 p.2) := by
    rw [List.forall₂_map_left_iff, List.forall₂_map_right_iff]
    exact h.methods.imp fun p q ⟨hname, hm⟩ => hname ▸ alike_method p.1 hm
  exact List.rel_append (List.rel_append (List.rel_append (List.rel_append (hsame _) htypes)
    (hsame _)) hmethods) (hsame _)

theorem deliver_rearranged {s z : Schema} (h : s.Rearranged z) (g : Session) (d : Disk)
    (write : Bool) : g.deliver d s write = g.deliver d z write := by
  rw [deliver, deliver, run_alike (delivery_alike h write)]

end Session

namespace Pipeline

open FileTree

theorem run_rearranged {s z : Schema} (h : s.Rearranged z) (d : Disk) (o : Options) (c : Config)
    (output : Option Path) : run d o s c output = run d o z c output := by
  simp only [run, generateFrom, generate, Validation.findings_rearranged c h,
    Validation.log_rearranged c h, Session.deliver_rearranged h]

end Pipeline

/-- Schemas that differ in the order of declaration only are judged alike, finding by finding. Any session
comes to the same with them: the same disk, code, numbers and records, and if it stops at a field
without template then at the same one. So do whole runs. -/
theorem rearranged_same_output {s z : Schema} (h : s.Rearranged z) :
    (∀ c, Validation.findings s c = Validation.findings z c) ∧
    (∀ (g : Session) (d : FileTree.Disk) (write : Bool),
      g.deliver d s write = g.deliver d z write) ∧
    (∀ (g : Session) (d : FileTree.Disk),
      ((g.deliver d s false).fault = none ∧ (g.deliver d z false).fault = none) ∨
      ∃ u, (g.deliver d s false).fault = some (.code (.unsupported u)) ∧
        (g.deliver d z false).fault = some (.code (.unsupported u))) ∧
    ∀ d o c output, Pipeline.run d o s c output = Pipeline.run d o z c output := by
  refine ⟨fun c => Validation.findings_rearranged c h, Session.deliver_rearranged h, ?_,
    Pipeline.run_rearranged h⟩
  intro g d
  have hfault := Session.deliver_fault g d s
  rw [← Session.deliver_rearranged h g d false]
  cases hs : Code.stop g.config (Code.untemplatedIn s g.config) with
  | none => exact .inl ⟨by simp [hfault, hs], by simp [hfault, hs]⟩
  | some e =>
    obtain ⟨u, rfl⟩ := Code.unsupported_of_stop hs
    exact .inr ⟨u, by simp [hfault, hs], by simp [hfault, hs]⟩

/-- A type with a field that has no template and a method with two parameters. -/
def pollDraft : Schema where
  types := ⟨[("Poll", ⟨⟨[("question", .single "String"), ("options", ⟨"String", true, false, false⟩)],
    by simp⟩⟩)], by simp⟩
  methods := ⟨[("sendPoll", ⟨⟨[("text", .single "String"), ("chat_id", .single "Int")], by simp⟩,
    .single "Bool"⟩)], by simp⟩
  sourceFile := none

/-- The same type and method, their parts the other way round. -/
def pollRedraft : Schema where
  types := ⟨[("Poll", ⟨⟨[("options", ⟨"String", true, false, false⟩), ("question", .single "String")],
    by simp⟩⟩)], by simp⟩
  methods := ⟨[("sendPoll", ⟨⟨[("chat_id", .single "Int"), ("text", .single "String")], by simp⟩,
    .single "Bool"⟩)], by simp⟩
  sourceFile := none

theorem pollRedraft_same_output :
    pollDraft ≠ pollRedraft ∧ pollDraft.Rearranged pollRedraft ∧
      Validation.findings pollDraft .usual = Validation.findings pollRedraft .usual ∧
      ∀ d, (Session.new ⟨false, ["out"]⟩ .usual).deliver d pollDraft true =
        (Session.new ⟨false, ["out"]⟩ .usual).deliver d pollRedraft true := by
  have hr : pollDraft.Rearranged pollRedraft :=
    ⟨.cons ⟨rfl, ⟨.swap _ _ _⟩⟩ .nil, .cons ⟨rfl, ⟨.swap _ _ _, rfl⟩⟩ .nil⟩
  obtain ⟨hfindings, hdeliver, -⟩ := rearranged_same_output hr
  exact ⟨by decide, hr, hfindings .usual, fun d => hdeliver _ d true⟩

end ClientGen
