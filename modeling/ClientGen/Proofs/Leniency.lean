import ClientGen.Proofs.Prediction
import Mathlib.Data.List.Forall2

/-! Lenient settings extend strict ones. What strict settings render, lenient ones render in the
same way; they never fail because of a field; and a validation finds the same, only that a missing
template is an error under the former and a warning under the latter. -/

namespace ClientGen

/-- The settings with the given strictness. -/
def Config.withStrict (c : Config) (strict : Bool) : Config :=
  { c with strict := strict }

namespace Code

/-- Strict settings have an accessor for the fields with a template only, and lenient ones then have
the same. -/
theorem accessor_lenient {c : Config} {owner : String} {p : String × Field} {s : String}
    (hc : c.strict = true) (h : accessor c owner p = .ok s) :
    kind? c p.2 ≠ none ∧ accessor (c.withStrict false) owner p = .ok s := by
  cases hk : kind? c p.2 with
  | none =>
    rw [accessor_of_strict owner hc hk] at h
    cases h
  | some k =>
    have hl : kind? (c.withStrict false) p.2 = some k := hk
    refine ⟨by simp, ?_⟩
    simp only [accessor, classify_of_some owner p.1 hk, classify_of_some owner p.1 hl] at h ⊢
    exact h

theorem accessors_lenient {c : Config} {owner : String} {fields : List (String × Field)}
    {parts : List String} (hc : c.strict = true) (h : accessors c owner fields = .ok parts) :
    accessors (c.withStrict false) owner fields = .ok parts ∧
      accessorsLog (c.withStrict false) owner fields = accessorsLog c owner fields := by
  induction fields generalizing parts with
  | nil => exact ⟨h, rfl⟩
  | cons p rest ih =>
    cases ht : isLiteralTrue p.2 with
    | true =>
      simp only [accessors, accessorsLog, ht, if_true] at h ⊢
      exact ih h
    | false =>
      obtain ⟨s, others, ha, hr, rfl⟩ := (accessors_cons_ok_iff ht).mp h
      obtain ⟨hk, hl⟩ := accessor_lenient hc ha
      obtain ⟨k, hk⟩ := Option.ne_none_iff_exists'.mp hk
      have hk' : kind? (c.withStrict false) p.2 = some k := hk
      obtain ⟨hrest, hlog⟩ := ih hr
      refine ⟨(accessors_cons_ok_iff ht).mpr ⟨s, others, hl, hrest, rfl⟩, ?_⟩
      simp only [accessorsLog, ht, Bool.false_eq_true, if_false, classifyLog, hk, hk',
        classify_of_some owner p.1 hk, classify_of_some owner p.1 hk', hlog]
      rfl

theorem structText_lenient {c : Config} {name text : String} {t : TypeDef} (hc : c.strict = true)
    (h : structText c name t = .ok text) :
    structText (c.withStrict false) name t = .ok text ∧
      structLog (c.withStrict false) name t = structLog c name t := by
  obtain ⟨parts, ha, htext⟩ := structText_ok_iff.mp h
  obtain ⟨hl, hlog⟩ := accessors_lenient hc ha
  have ht : structText (c.withStrict false) name t = .ok text :=
    structText_ok_iff.mpr ⟨parts, hl, htext⟩
  exact ⟨ht, by simp only [structLog, hlog, ht, h]⟩

end Code

namespace Log

theorem warnings_cons {r : Record} (h : r.level ≠ .warning) (rest : List Record) :
    warnings (r :: rest) = warnings rest := by
  simp [warnings, h]

end Log

namespace FileTree

theorem warnings_writeFile (d : Disk) (p : Path) (text : String) (atomic : Bool) :
    Log.warnings (writeFile d p text atomic).log = [] := by
  unfold writeFile
  split
  · rfl
  · dsimp only
    split
    · rfl
    · split <;> rfl

end FileTree

namespace Session

open FileTree

/-- The session under settings of the given strictness. -/
def under (s : Session) (strict : Bool) : Session :=
  { s with config := s.config.withStrict strict }

/-- The outcome with the session under settings of the given strictness. -/
def Outcome.under {ε : Type} (o : Outcome ε) (strict : Bool) : Outcome ε :=
  { o with session := o.session.under strict }

theorem writeFiles_config (s : Session) (d : Disk) (files : List (String × String)) :
    (s.writeFiles d files).session.config = s.config := by
  induction files generalizing s d with
  | nil => rfl
  | cons file rest ih =>
    simp only [writeFiles]
    split
    · rfl
    · exact ih _ _

/-- Writing files leaves no warning. -/
theorem warnings_writeFiles (s : Session) (d : Disk) (files : List (String × String)) :
    Log.warnings (s.writeFiles d files).log = [] := by
  induction files generalizing s d with
  | nil => rfl
  | cons file rest ih =>
    simp only [writeFiles]
    split
    · exact warnings_writeFile _ _ _ _
    · rw [Log.warnings_append, warnings_writeFile, Log.warnings_cons (by simp), ih]
      rfl

/-- What is written does not depend on the strictness. -/
theorem writeFiles_under (s : Session) (d : Disk) (files : List (String × String)) (strict : Bool) :
    (s.under strict).writeFiles d files = (s.writeFiles d files).under strict := by
  induction files generalizing s d with
  | nil => rfl
  | cons file rest ih =>
    simp only [writeFiles, under, Outcome.under] at ih ⊢
    split
    · rfl
    · next size _ =>
      have hrest := ih
        { s with written := noteSize (s.directory.append (Path.ofString file.1)) size s.written }
        (writeFile d (s.directory.append (Path.ofString file.1)) file.2 true).disk
      rw [hrest]

/-- No callback changes the settings of a session. -/
theorem step_config_all (s : Session) (d : Disk) (b : Callback) :
    (s.step d b).session.config = s.config := by
  by_cases hb : b = .finish
  · subst hb
    exact writeFiles_config s d s.rendered
  · exact step_config s d hb

/-- Under strict settings no callback gives a warning. -/
theorem warnings_step_strict {s : Session} (d : Disk) (b : Callback) (h : s.config.strict = true) :
    Log.warnings (s.step d b).log = [] := by
  by_cases hb : b = .finish
  · subst hb
    exact warnings_writeFiles s d s.rendered
  · rw [step_warnings s d hb]
    simp [Code.complaints, h]

/-- A callback that strict settings let pass comes to the same under lenient ones. -/
theorem step_lenient {s : Session} {d : Disk} {b : Callback} (hs : s.config.strict = true)
    (h : (s.step d b).fault = none) : (s.under false).step d b = (s.step d b).under false := by
  cases b with
  | type name t =>
    simp only [step] at h ⊢
    cases ht : Code.structText s.config name t with
    | error e => simp [ht] at h
    | ok text =>
      obtain ⟨hl, hlog⟩ := Code.structText_lenient hs ht
      simp only [under, hl, hlog]
      rfl
  | finish =>
    have hf := writeFiles_under s d s.rendered false
    simp only [step, finish, Outcome.under] at hf ⊢
    rw [show (s.under false).rendered = s.rendered from rfl, hf]
  | _ => rfl

/-- Callbacks that strict settings let pass come to the same under lenient ones. -/
theorem run_lenient {s : Session} {d : Disk} {bs : List Callback} (hs : s.config.strict = true)
    (h : (s.run d bs).fault = none) :
    (s.under false).run d bs = (s.run d bs).under false ∧ Log.warnings (s.run d bs).log = [] := by
  induction bs generalizing s d with
  | nil => exact ⟨rfl, rfl⟩
  | cons b rest ih =>
    have hwarnings := warnings_step_strict d b hs
    cases hf : (s.step d b).fault with
    | some f => simp [run, hf] at h
    | none =>
      have hstep := step_lenient hs hf
      simp only [run, hf] at h
      obtain ⟨hrest, hlog⟩ := ih (by rw [step_config_all, hs]) h
      have hfault : ((s.step d b).under false).fault = none := hf
      simp only [run, hstep, hfault, hf]
      refine ⟨?_, by simp [hwarnings, hlog]⟩
      simp only [Outcome.under] at hrest ⊢
      rw [hrest]

/-- A delivery that strict settings let pass comes to the same under lenient ones, without a warning. -/
theorem deliver_lenient {s : Session} {d : Disk} {schema : Schema} {write : Bool}
    (hs : s.config.strict = true) (h : (s.deliver d schema write).fault = none) :
    (s.under false).deliver d schema write = (s.deliver d schema write).under false ∧
      Log.warnings (s.deliver d schema write).log = [] := by
  have hf : (s.run d (delivery schema write)).fault = none := by
    obtain ⟨log, he⟩ := s.deliver_eq d schema write
    simpa only [he] using h
  obtain ⟨hrun, hlog⟩ := run_lenient hs hf
  have hfault : ((s.run d (delivery schema write)).under false).fault = none := hf
  have hclosing : Log.warnings (closingLog write) = [] := by cases write <;> rfl
  simp only [deliver, hrun, hfault, hf]
  exact ⟨rfl, by simp [hlog, hclosing]⟩

/-- Under lenient settings no field makes a callback fail. -/
theorem step_fault_lenient {s : Session} {d : Disk} {b : Callback} {f : Code.Fault}
    (hs : s.config.strict = false) : (s.step d b).fault ≠ some (.code f) := by
  by_cases hb : b = .finish
  · subst hb
    simp only [step]
    cases (s.finish d).fault <;> simp
  · rw [step_fault s d hb]
    simp [Code.stop, hs]

theorem run_fault_lenient {s : Session} {d : Disk} {bs : List Callback} {f : Code.Fault}
    (hs : s.config.strict = false) : (s.run d bs).fault ≠ some (.code f) := by
  induction bs generalizing s d with
  | nil => simp [run]
  | cons b rest ih =>
    cases hf : (s.step d b).fault with
    | some e =>
      simp only [run, hf]
      exact hf ▸ step_fault_lenient hs
    | none =>
      simp only [run, hf]
      exact ih (by rw [step_config_all, hs])

end Session

namespace Validation

/-- Findings of one place under strict and under lenient settings: they say the same of the same, and
only a missing template is less severe under the latter. -/
structure Relaxed (strict lenient : Finding) : Prop where
  code : strict.code = lenient.code
  message : strict.message = lenient.message
  context : strict.context = lenient.context
  unsupported : strict.code = "FIELD_UNSUPPORTED" →
    strict.severity = .error ∧ lenient.severity = .warning
  other : strict.code ≠ "FIELD_UNSUPPORTED" → strict.severity = lenient.severity

theorem relaxed_self {i : Issue} (h : i.topic ≠ .shape) : Relaxed i.finding i.finding := by
  have hc : i.finding.code ≠ "FIELD_UNSUPPORTED" := fun e => h ((code_eq_unsupported_iff i).mp e)
  exact ⟨rfl, rfl, rfl, fun e => absurd e hc, fun _ => rfl⟩

theorem relaxed_unsupported (u : Code.Unsupported) :
    Relaxed (Issue.unsupported true u).finding (Issue.unsupported false u).finding :=
  ⟨rfl, rfl, rfl, fun _ => ⟨rfl, rfl⟩, fun h => absurd rfl h⟩

/-- Strictness decides how severe a missing template is and nothing else. -/
theorem issues_withStrict (s : Schema) (c : Config) (strict : Bool) :
    issues s (c.withStrict strict) = typeNameIssues s ++ fieldNameIssues s c ++
      (Code.untemplatedIn s c).map (Issue.unsupported strict) ++ allMethodIssues s c := by
  have hmethods : allMethodIssues s (c.withStrict strict) = allMethodIssues s c := by
    have hknown : isKnown s (c.withStrict strict) = isKnown s c := rfl
    simp only [allMethodIssues, methodIssues_congr hknown]
  rw [issues, fieldShapeIssues_eq, hmethods]
  rfl

theorem findings_relaxed (s : Schema) (c : Config) :
    List.Forall₂ Relaxed (findings s (c.withStrict true)) (findings s (c.withStrict false)) := by
  have hself (ls : List Issue) (h : ∀ i ∈ ls, i.topic ≠ .shape) :
      List.Forall₂ (fun i j => Relaxed i.finding j.finding) ls ls :=
    List.forall₂_same.mpr fun i hi => relaxed_self (h i hi)
  have hnames := hself (typeNameIssues s) fun i hi => by rw [topic_typeNameIssues hi]; decide
  have hfields := hself (fieldNameIssues s c) fun i hi => by rw [topic_fieldNameIssues hi]; decide
  have hmethods := hself (allMethodIssues s c) fun i hi => by rw [topic_allMethodIssues hi]; decide
  have hshapes : List.Forall₂ (fun i j => Relaxed i.finding j.finding)
      ((Code.untemplatedIn s c).map (Issue.unsupported true))
      ((Code.untemplatedIn s c).map (Issue.unsupported false)) := by
    rw [List.forall₂_map_left_iff, List.forall₂_map_right_iff]
    exact List.forall₂_same.mpr fun u _ => relaxed_unsupported u
  rw [findings, findings, List.forall₂_map_left_iff, List.forall₂_map_right_iff, issues_withStrict,
    issues_withStrict]
  exact List.rel_append (List.rel_append (List.rel_append hnames hfields) hshapes) hmethods

end Validation

/-- Lenient settings extend strict ones. A delivery that strict settings let pass has the same texts and
the same outcome under lenient ones, without a warning; under these no field stops a delivery, and
nothing does as long as no file is written; and validations find the same place by place. -/
theorem lenient_extends_strict (schema : Schema) :
    (∀ (g : Session) (d : FileTree.Disk) (write : Bool),
      ((g.under true).deliver d schema write).fault = none →
      ((g.under false).deliver d schema write).fault = none ∧
      ((g.under false).deliver d schema write).session.typesText =
        ((g.under true).deliver d schema write).session.typesText ∧
      ((g.under false).deliver d schema write).session.methodsText =
        ((g.under true).deliver d schema write).session.methodsText ∧
      Log.warnings ((g.under false).deliver d schema write).log = [] ∧
      (g.under false).deliver d schema write =
        ((g.under true).deliver d schema write).under false) ∧
    (∀ (g : Session) (d : FileTree.Disk),
      ((g.under false).deliver d schema false).fault = none ∧
      ∀ write f, ((g.under false).deliver d schema write).fault ≠ some (.code f)) ∧
    ∀ c : Config, List.Forall₂ Validation.Relaxed (Validation.findings schema (c.withStrict true))
      (Validation.findings schema (c.withStrict false)) := by
  refine ⟨?_, ?_, Validation.findings_relaxed schema⟩
  · intro g d write h
    obtain ⟨he, hlog⟩ := Session.deliver_lenient (s := g.under true) rfl h
    have hu : (g.under true).under false = g.under false := rfl
    rw [hu] at he
    rw [he]
    exact ⟨h, rfl, rfl, hlog, rfl⟩
  · intro g d
    refine ⟨?_, fun write f => ?_⟩
    · rw [Session.deliver_fault]
      simp [Code.stop, Session.under, Config.withStrict]
    · obtain ⟨log, he⟩ := (g.under false).deliver_eq d schema write
      rw [he]
      exact Session.run_fault_lenient rfl

/-- A schema with a field that has a template. -/
def profile : Schema where
  types := ⟨[("Profile", ⟨⟨[("photos", ⟨"Photo", true, false, true⟩)], by simp⟩⟩)], by simp⟩
  methods := .empty
  sourceFile := none

theorem profile_lenient :
    let g := Session.new ⟨false, ["out"]⟩ .usual
    ((g.under true).deliver documentDisk profile false).fault = none ∧
      ((g.under false).deliver documentDisk profile false).session.typesText =
        ((g.under true).deliver documentDisk profile false).session.typesText ∧
      Log.warnings ((g.under false).deliver documentDisk profile false).log = [] := by
  intro g
  have hf : ((g.under true).deliver documentDisk profile false).fault = none := by
    rw [Session.deliver_fault]
    decide
  obtain ⟨-, htypes, -, hlog, -⟩ := (lenient_extends_strict profile).1 g documentDisk false hf
  exact ⟨hf, htypes, hlog⟩

end ClientGen
