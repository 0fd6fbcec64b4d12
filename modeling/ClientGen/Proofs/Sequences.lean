import ClientGen.Proofs.Locations
import ClientGen.Proofs.Names
import ClientGen.Proofs.Prediction

/-! Sequences that no template is for. Under strict settings such a field is reported and stops the
rendering, unless it passes as always true, which only looks at the name of its type, or its type
passes as a name, which it also does with a line feed behind it. -/

namespace ClientGen

/-- In a table a name stands for one value. -/
theorem Table.eq_of_mem {α : Type} {t : Table α} {k : String} {a b : α} (ha : (k, a) ∈ t.toList)
    (hb : (k, b) ∈ t.toList) : a = b := by
  have hl := FileTree.lookup_of_nodup t.nodup ha
  rw [FileTree.lookup_of_nodup t.nodup hb] at hl
  exact (Option.some.inj hl).symm

namespace Code

open Identifier

/-! ## Types of sequences -/

/-- A type that a struct can have: a name that is not one of the types that come with the code. -/
def StructLike (type : String) : Prop :=
  IsName type ∧ isBuiltin type = false

/-- A type that is a name but for a line feed behind it. -/
def Broken (type : String) : Prop :=
  ∃ w, IsName w ∧ type = w ++ "\n"

theorem isBuiltin_of_broken {type : String} (h : Broken type) : isBuiltin type = false := by
  obtain ⟨w, -, rfl⟩ := h
  have hlast {type : String} (ht : type.toList.getLast? ≠ some '\n') : w ++ "\n" ≠ type := by
    rintro rfl
    simp at ht
  have hstems : scalarStems.lookup (w ++ "\n") = none := by
    refine List.lookup_eq_none_iff.mpr fun p hp => ?_
    have hp' : p.1.toList.getLast? ≠ some '\n' := by
      have hall : ∀ p ∈ scalarStems, p.1.toList.getLast? ≠ some '\n' := by decide
      exact hall p hp
    exact bne_iff_ne.mpr (hlast hp')
  have hdate : w ++ "\n" ≠ dateType := hlast (by decide)
  have htrue : w ++ "\n" ≠ trueType := hlast (by decide)
  simp [isBuiltin, stem?, hstems, hdate, htrue]

theorem isNamedType_iff {type : String} :
    isNamedType type = true ↔ StructLike type ∨ Broken type := by
  simp only [isNamedType, Bool.and_eq_true, Bool.not_eq_true', isIdentifier_iff]
  constructor
  · rintro ⟨hn | hb, hbuiltin⟩
    · exact .inl ⟨hn, hbuiltin⟩
    · exact .inr hb
  · rintro (⟨hn, hbuiltin⟩ | hb)
    · exact ⟨.inl hn, hbuiltin⟩
    · exact ⟨.inr hb, isBuiltin_of_broken hb⟩

/-- A sequence has a template just if its type passes as that of a struct. -/
theorem kind?_sequence {c : Config} {f : Field} (h : f.isSequence = true) :
    kind? c f = none ↔ ¬ StructLike f.type ∧ ¬ Broken f.type := by
  rw [← not_or, ← isNamedType_iff]
  unfold kind?
  rw [if_pos h]
  split <;> simp_all

theorem mem_untemplatedIn_iff {s : Schema} {c : Config} {u : Unsupported} :
    u ∈ untemplatedIn s c ↔ ∃ t, (u.owner, t) ∈ s.types.toList ∧
      (u.fieldName, u.field) ∈ t.fields.toList ∧ isLiteralTrue u.field = false ∧
      kind? c u.field = none := by
  simp only [untemplatedIn, untemplated, List.mem_flatMap, List.mem_map, List.mem_filter,
    Table.mem_sorted, Bool.and_eq_true, Bool.not_eq_true', Option.isNone_iff_eq_none]
  constructor
  · rintro ⟨⟨owner, t⟩, ht, ⟨name, f⟩, ⟨hf, htrue, hkind⟩, rfl⟩
    exact ⟨t, ht, hf, htrue, hkind⟩
  · rintro ⟨t, ht, hf, htrue, hkind⟩
    exact ⟨(u.owner, t), ht, (u.fieldName, u.field), ⟨hf, htrue, hkind⟩, rfl⟩

end Code

namespace Session

open FileTree Code

/-! ## Runs that fail -/

/-- Nothing is told behind a callback that fails. -/
theorem run_append_of_fault {s : Session} {d : Disk} {front : List Callback} {f : Fault}
    (h : (s.run d front).fault = some f) (back : List Callback) :
    s.run d (front ++ back) = s.run d front := by
  induction front generalizing s d with
  | nil => simp [run] at h
  | cons b rest ih =>
    simp only [List.cons_append, run] at h ⊢
    split
    · rfl
    · next hn =>
      simp only [hn] at h
      rw [ih h]

/-- A field without template ends a delivery, whether the files shall be written or not. -/
theorem deliver_fault_of_stop {s : Session} (d : Disk) {schema : Schema} (write : Bool)
    {f : Code.Fault} (h : stop s.config (untemplatedIn schema s.config) = some f) :
    (s.deliver d schema write).fault = some (.code f) := by
  have hrun : (s.run d (delivery schema false)).fault = some (.code f) := by
    rw [run_fault s d (finish_not_mem_delivery schema), untemplated_delivery, h, Option.map_some]
  obtain ⟨log, he⟩ := s.deliver_eq d schema write
  rw [he, delivery_eq, run_append_of_fault hrun]
  exact hrun

end Session

namespace Validation

open Code

/-! ## Refused sequences -/

/-- The finding is an error that says that no template is for a field. -/
structure Refuses (x : Finding) (type name : String) (f : Field) : Prop where
  severity : x.severity = .error
  code : x.code = "FIELD_UNSUPPORTED"
  message : x.message = Unsupported.message ⟨type, name, f⟩
  context : x.context =
    [("type", .text type), ("field", .text name), ("shape", .text f.shorthand)]

/-- Under strict settings the fields without template are reported as errors. -/
theorem exists_refuses_iff {s : Schema} {c : Config} (hc : c.strict = true) {type name : String}
    {t : TypeDef} {f : Field} (ht : (type, t) ∈ s.types.toList) (hf : (name, f) ∈ t.fields.toList) :
    (∃ x ∈ findings s c, Refuses x type name f) ↔
      isLiteralTrue f = false ∧ kind? c f = none := by
  constructor
  · rintro ⟨x, hx, hr⟩
    have hm : x ∈ (findings s c).filter fun f => f.code == "FIELD_UNSUPPORTED" :=
      List.mem_filter.mpr ⟨hx, by simp [hr.code]⟩
    rw [findings_unsupported] at hm
    obtain ⟨u, hu, rfl⟩ := List.mem_map.mp hm
    -- the context names the field, so it is the one that the issue is about
    have hcontext := hr.context
    simp only [Issue.finding, Issue.subjects, List.map_cons, List.map_nil, List.cons.injEq,
      Prod.mk.injEq, Value.text.injEq, true_and, and_true] at hcontext
    obtain ⟨rfl, rfl, -⟩ := hcontext
    obtain ⟨t', ht', hf', htrue, hkind⟩ := mem_untemplatedIn_iff.mp hu
    obtain rfl := Table.eq_of_mem ht ht'
    obtain rfl := Table.eq_of_mem hf hf'
    exact ⟨htrue, hkind⟩
  · rintro ⟨htrue, hkind⟩
    have hu : (⟨type, name, f⟩ : Unsupported) ∈ untemplatedIn s c :=
      mem_untemplatedIn_iff.mpr ⟨t, ht, hf, htrue, hkind⟩
    have hm : (Issue.unsupported c.strict ⟨type, name, f⟩).finding ∈
        (findings s c).filter fun f => f.code == "FIELD_UNSUPPORTED" := by
      rw [findings_unsupported]
      exact List.mem_map.mpr ⟨_, hu, rfl⟩
    exact ⟨_, (List.mem_filter.mp hm).1, by simp [Issue.finding, Issue.severity, hc], rfl, rfl, rfl⟩

variable {schema : Schema} {c : Config} {type name : String} {t : TypeDef} {f : Field}

/-- Under strict settings a sequence of what is no struct is reported as an error just if its type
is neither that of the fields that are always true nor a name with a line feed behind it. Then the
rendering fails for want of a template. -/
theorem sequence_refused_iff (hc : c.strict = true) (ht : (type, t) ∈ schema.types.toList)
    (hf : (name, f) ∈ t.fields.toList) (hs : f.isSequence = true) (hn : ¬ StructLike f.type) :
    ((∃ x ∈ findings schema c, Refuses x type name f) ↔ f.type ≠ "True" ∧ ¬ Broken f.type) ∧
    (f.type ≠ "True" → ¬ Broken f.type → ∀ (directory : FileTree.Path) (d : FileTree.Disk)
      (write : Bool), ∃ u, ((Session.new directory c).deliver d schema write).fault =
        some (.code (.unsupported u))) := by
  have htrue : isLiteralTrue f = false ↔ f.type ≠ "True" := by simp [isLiteralTrue, trueType]
  have hkind : kind? c f = none ↔ ¬ Broken f.type := by simp [kind?_sequence hs, hn]
  constructor
  · rw [exists_refuses_iff hc ht hf, htrue, hkind]
  · intro hname hbroken directory d write
    have hu : (⟨type, name, f⟩ : Unsupported) ∈ untemplatedIn schema c :=
      mem_untemplatedIn_iff.mpr ⟨t, ht, hf, htrue.mpr hname, hkind.mpr hbroken⟩
    obtain ⟨u, us, hus⟩ := List.exists_cons_of_ne_nil (List.ne_nil_of_mem hu)
    have hstop : stop c (untemplatedIn schema c) = some (.unsupported u) := by simp [stop, hc, hus]
    exact ⟨u, Session.deliver_fault_of_stop d write hstop⟩

theorem poll_refused :
    (∃ x ∈ findings poll .usual, Refuses x "Poll" "options" ⟨"String", true, false, false⟩) ∧
      ∃ u, ((Session.new ⟨false, ["out"]⟩ .usual).deliver documentDisk poll true).fault =
        some (.code (.unsupported u)) := by
  have hbroken : ¬ Broken "String" := by
    rintro ⟨w, -, hw⟩
    have hl := congrArg (fun s => s.toList.getLast?) hw
    simp at hl
  have hn : ¬ StructLike "String" := fun h => absurd h.2 (by decide)
  obtain ⟨t, ht, hf⟩ : ∃ t : TypeDef, ("Poll", t) ∈ poll.types.toList ∧
      ("options", ⟨"String", true, false, false⟩) ∈ t.fields.toList :=
    ⟨_, List.mem_singleton.mpr rfl, List.mem_singleton.mpr rfl⟩
  obtain ⟨hiff, hfault⟩ := sequence_refused_iff (c := Config.usual) rfl ht hf rfl hn
  exact ⟨hiff.mpr ⟨by decide, hbroken⟩, hfault (by decide) hbroken _ _ true⟩

/-- A type with a sequence of values that are always true. -/
def vote : Schema where
  types := ⟨[("Vote", ⟨⟨[("marks", ⟨"True", true, false, false⟩)], by simp⟩⟩)], by simp⟩
  methods := .empty
  sourceFile := none

/-- Such a sequence is not refused: nothing is found and the type is rendered. -/
theorem sequence_not_refused :
    ¬ ∀ (schema : Schema) (c : Config) (type name : String) (t : TypeDef) (f : Field),
      c.strict = true → (type, t) ∈ schema.types.toList → (name, f) ∈ t.fields.toList →
      f.isSequence = true → ¬ StructLike f.type →
      (∃ x ∈ findings schema c, x.isError = true) ∧
        ∀ (directory : FileTree.Path) (d : FileTree.Disk) (write : Bool), ∃ u,
          ((Session.new directory c).deliver d schema write).fault =
            some (.code (.unsupported u)) := by
  intro h
  have hn : ¬ StructLike "True" := fun h => absurd h.2 (by decide)
  obtain ⟨⟨x, hx, -⟩, -⟩ := h vote .usual "Vote" "marks" _ ⟨"True", true, false, false⟩ rfl
    (List.mem_singleton.mpr rfl) (List.mem_singleton.mpr rfl) rfl hn
  have hnone : findings vote .usual = [] := by rfl
  rw [hnone] at hx
  cases hx

end Validation
end ClientGen
