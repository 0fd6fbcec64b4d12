import ClientGen.Proofs.References
import Mathlib

/-! One more type in a schema. Wherever it is put, validation finds in it what it finds in a schema of
this type alone, and of what it found before it takes back only that the new type is not known. -/

namespace ClientGen

namespace Table

variable {α : Type}

/-- The table with one more entry, behind the first `i` of its own. -/
def insertAt (t : Table α) (i : Nat) (k : String) (a : α) (h : k ∉ t.names) : Table α :=
  ⟨t.toList.take i ++ (k, a) :: t.toList.drop i, by
    refine (List.perm_middle.map Prod.fst).nodup_iff.mpr ?_
    rw [List.take_append_drop, List.map_cons]
    exact List.nodup_cons.mpr ⟨h, t.nodup⟩⟩

variable {t : Table α} {k : String} (i : Nat) (a : α) (h : k ∉ t.names)

theorem mem_names_insertAt {name : String} :
    name ∈ (t.insertAt i k a h).names ↔ name ∈ t.names ∨ name = k := by
  have hperm : (t.insertAt i k a h).names.Perm
      (((k, a) :: (t.toList.take i ++ t.toList.drop i)).map Prod.fst) :=
    List.perm_middle.map Prod.fst
  rw [hperm.mem_iff, List.take_append_drop, List.map_cons, List.mem_cons, or_comm]
  rfl

theorem flatMap_insertAt {β : Type} (f : String × α → List β) :
    (t.insertAt i k a h).toList.flatMap f =
      (t.toList.take i).flatMap f ++ (f (k, a) ++ (t.toList.drop i).flatMap f) := by
  rw [insertAt, List.flatMap_append, List.flatMap_cons]

end Table

/-- The schema with one more type, behind the first `i` of its own. -/
def Schema.insertType (s : Schema) (i : Nat) (name : String) (t : TypeDef)
    (h : name ∉ s.types.names) : Schema :=
  { s with types := s.types.insertAt i name t h }

namespace Validation

/-! ## What issues are about -/

/-- The type that an issue is about. -/
def Issue.owner? : Issue → Option String
  | .typeInvalid t | .typeReserved t | .typeBuiltin t | .accessorInvalid t _ _
  | .accessorReserved t _ _ | .accessorCollision t _ _ => some t
  | .unsupported _ u => some u.owner
  | _ => none

/-- The type that an issue says is not known. -/
def Issue.missing? : Issue → Option String
  | .parameterUnknown _ _ type | .resultUnknown _ type => some type
  | _ => none

/-- The text that stands in the context of a finding under a key. -/
def Finding.subject? (key : String) (f : Finding) : Option String :=
  match f.context.lookup key with
  | some (.text s) => some s
  | _ => none

theorem subject?_type (i : Issue) : i.finding.subject? "type" = i.owner? := by
  cases i <;> rfl

theorem subject?_method (i : Issue) : i.finding.subject? "method" = i.method? := by
  cases i <;> rfl

theorem missing?_isSome_iff (i : Issue) : i.missing?.isSome = true ↔
    i.code = "PARAM_TYPE_UNKNOWN" ∨ i.code = "RESULT_TYPE_UNKNOWN" := by
  cases i <;> simp [Issue.missing?, Issue.code]

theorem severity_of_missing? {i : Issue} {type : String} (h : i.missing? = some type) :
    i.severity = .warning := by
  cases i <;> first | rfl | cases h

/-- An issue with a method is about no type, also if it names one. -/
theorem owner?_of_method? {i : Issue} {method : String} (h : i.method? = some method) :
    i.owner? = none := by
  cases i <;> first | rfl | cases h

theorem missing?_of_owner? {i : Issue} {type : String} (h : i.owner? = some type) :
    i.missing? = none := by
  cases i <;> first | rfl | cases h

/-- A finding tells which type is not known. -/
theorem missing?_of_finding {i j : Issue} {type : String} (hi : i.missing? = some type)
    (h : j.finding = i.finding) : j.missing? = some type := by
  have hcode : j.code = i.code := congrArg Finding.code h
  have hmessage : j.message = i.message := congrArg Finding.message h
  have hsubjects : j.finding.context = i.finding.context := congrArg Finding.context h
  cases i with
  | parameterUnknown m p t =>
    obtain rfl : t = type := Option.some.inj hi
    cases j with
    | parameterUnknown m' p' t' =>
      obtain ⟨rfl, rfl⟩ : m' = m ∧ p' = p := by
        simpa [Issue.finding, Issue.subjects] using hsubjects
      obtain rfl : t' = t := (String.append_right_inj _).mp ((String.append_left_inj _).mp hmessage)
      rfl
    | _ => simp [Issue.code] at hcode
  | resultUnknown m t =>
    obtain rfl : t = type := Option.some.inj hi
    cases j with
    | resultUnknown m' t' =>
      obtain rfl : m' = m := by simpa [Issue.finding, Issue.subjects] using hsubjects
      obtain rfl : t' = t := (String.append_right_inj _).mp ((String.append_left_inj _).mp hmessage)
      rfl
    | _ => simp [Issue.code] at hcode
  | _ => cases hi

/-! ## Checks of one type -/

/-- What a check of single types finds is about the type that it is given. -/
def Owned (f : String × TypeDef → List Issue) : Prop :=
  ∀ p, ∀ i ∈ f p, i.owner? = some p.1

section Types

variable {s : Schema} {c : Config} {type : String} {i : Issue}

theorem owned_typeName : Owned fun p => (typeNameIssue? p.1).toList := by
  intro p i hi
  have h := Option.mem_toList.mp hi
  unfold typeNameIssue? at h
  repeat' split at h
  all_goals cases h
  all_goals rfl

theorem owned_member (c : Config) : Owned fun p => memberIssues c p.1 p.2 := by
  intro p i hi
  rcases List.mem_append.mp hi with hi | hi
  · obtain ⟨q, -, hq⟩ := List.mem_filterMap.mp hi
    rcases accessorIssue_cases hq with rfl | rfl <;> rfl
  · obtain ⟨q, -, rfl⟩ := List.mem_map.mp hi
    rfl

theorem owned_shape (c : Config) : Owned fun p => shapeIssues c p.1 p.2 := by
  intro p i hi
  have h : i ∈ shapeIssues c p.1 p.2 := hi
  rw [shapeIssues_eq] at h
  obtain ⟨u, hu, rfl⟩ := List.mem_map.mp h
  obtain ⟨q, -, rfl⟩ := List.mem_map.mp hu
  rfl

theorem Owned.owner?_mem {f : String × TypeDef → List Issue} (hf : Owned f)
    {ps : List (String × TypeDef)} (hi : i ∈ ps.flatMap f) (ho : i.owner? = some type) :
    type ∈ ps.map Prod.fst := by
  obtain ⟨p, hp, hi⟩ := List.mem_flatMap.mp hi
  obtain rfl : p.1 = type := Option.some.inj ((hf p i hi).symm.trans ho)
  exact List.mem_map_of_mem hp

theorem Owned.missing?_eq_none {f : String × TypeDef → List Issue} (hf : Owned f)
    {ps : List (String × TypeDef)} (hi : i ∈ ps.flatMap f) : i.missing? = none := by
  obtain ⟨p, -, hi⟩ := List.mem_flatMap.mp hi
  exact missing?_of_owner? (hf p i hi)

theorem owner?_of_mem_allMethodIssues (h : i ∈ allMethodIssues s c) : i.owner? = none := by
  obtain ⟨p, -, hi⟩ := List.mem_flatMap.mp h
  exact owner?_of_method? (method?_methodIssues hi)

/-- Three checks go through the types, and one through the methods. -/
theorem issues_eq (s : Schema) (c : Config) :
    issues s c = (s.types.toList.flatMap fun p => (typeNameIssue? p.1).toList) ++
      (s.types.toList.flatMap fun p => memberIssues c p.1 p.2) ++
      (s.types.toList.flatMap fun p => shapeIssues c p.1 p.2) ++ allMethodIssues s c := by
  have hnames : typeNameIssues s = s.types.toList.flatMap fun p => (typeNameIssue? p.1).toList := by
    rw [typeNameIssues, Table.names, List.filterMap_eq_flatMap_toList, List.flatMap_map]
  rw [issues, hnames, fieldNameIssues, fieldShapeIssues]

theorem filter_issues (keep : Issue → Bool) (s : Schema) (c : Config) :
    (issues s c).filter keep =
      (s.types.toList.flatMap fun p => (typeNameIssue? p.1).toList).filter keep ++
      (s.types.toList.flatMap fun p => memberIssues c p.1 p.2).filter keep ++
      (s.types.toList.flatMap fun p => shapeIssues c p.1 p.2).filter keep ++
      (allMethodIssues s c).filter keep := by
  simp only [issues_eq, List.filter_append]

/-- Issues are about types of the schema only. -/
theorem owner?_mem_names (hi : i ∈ issues s c) (ho : i.owner? = some type) :
    type ∈ s.types.names := by
  simp only [issues_eq, List.mem_append] at hi
  rcases hi with ((hi | hi) | hi) | hi
  · exact owned_typeName.owner?_mem hi ho
  · exact (owned_member c).owner?_mem hi ho
  · exact (owned_shape c).owner?_mem hi ho
  · cases (owner?_of_mem_allMethodIssues hi).symm.trans ho

end Types

/-! ## The checks with one more type -/

section Inserted

variable {s : Schema} {name : String} (c : Config) (k : Nat) (t : TypeDef)
  (h : name ∉ s.types.names)

/-- A check that goes through the types finds in them what it found before, and in the new one what
there is. -/
theorem filter_flatMap_insertType {f : String × TypeDef → List Issue} (hf : Owned f) :
    ((s.insertType k name t h).types.toList.flatMap f).filter (fun i => i.owner? == some name) =
        f (name, t) ∧
      ((s.insertType k name t h).types.toList.flatMap f).filter (fun i => i.owner? != some name) =
        s.types.toList.flatMap f := by
  have hold {ps : List (String × TypeDef)} (hps : ps ⊆ s.types.toList) :
      (ps.flatMap f).filter (fun i => i.owner? == some name) = [] ∧
        (ps.flatMap f).filter (fun i => i.owner? != some name) = ps.flatMap f := by
    have hne : ∀ i ∈ ps.flatMap f, i.owner? ≠ some name := fun i hi ho =>
      h (List.map_subset Prod.fst hps (hf.owner?_mem hi ho))
    exact ⟨List.filter_eq_nil_iff.mpr fun i hi => by simpa using hne i hi,
      List.filter_eq_self.mpr fun i hi => by simpa using hne i hi⟩
  have hnew : (f (name, t)).filter (fun i => i.owner? == some name) = f (name, t) ∧
      (f (name, t)).filter (fun i => i.owner? != some name) = [] :=
    ⟨List.filter_eq_self.mpr fun i hi => by simp [hf (name, t) i hi],
      List.filter_eq_nil_iff.mpr fun i hi => by simp [hf (name, t) i hi]⟩
  have hbefore := hold (List.take_subset k s.types.toList)
  have hafter := hold (List.drop_subset k s.types.toList)
  have hz : (s.insertType k name t h).types.toList.flatMap f =
      (s.types.toList.take k).flatMap f ++ (f (name, t) ++ (s.types.toList.drop k).flatMap f) :=
    Table.flatMap_insertAt k t h f
  simp only [hz, List.filter_append, hbefore, hnew, hafter]
  constructor
  · rw [List.nil_append, List.append_nil]
  · rw [List.nil_append, ← List.flatMap_append, List.take_append_drop]

theorem isKnown_insertType (type : String) :
    isKnown (s.insertType k name t h) c type = (isKnown s c type || type == name) := by
  have hmem : type ∈ (s.insertType k name t h).types.names ↔ type ∈ s.types.names ∨ type = name :=
    Table.mem_names_insertAt k t h
  rw [Bool.eq_iff_iff, Bool.or_eq_true, isKnown_iff, isKnown_iff, Provided, Provided, hmem,
    beq_iff_eq]
  tauto

/-- That a type is not known is taken back just for the new one. -/
theorem unknown_insertType {type : String} {i : Issue} (hi : i.missing? = some type) :
    (if isKnown (s.insertType k name t h) c type then none else some i).toList =
      (if isKnown s c type then none else some i).toList.filter
        fun i => i.missing? != some name := by
  rw [isKnown_insertType]
  cases isKnown s c type with
  | true => rfl
  | false => by_cases ht : type = name <;> simp [hi, ht]

theorem filter_toList_of_missing? {o : Option Issue} (ho : ∀ i ∈ o, i.missing? = none) :
    o.toList.filter (fun i => i.missing? != some name) = o.toList :=
  List.filter_eq_self.mpr fun i hi => by simp [ho i (Option.mem_toList.mp hi)]

theorem parameterIssues_insertType (method : String) (before : List String)
    (ps : List (String × Field)) :
    parameterIssues (s.insertType k name t h) c method before ps =
      (parameterIssues s c method before ps).filter fun i => i.missing? != some name := by
  induction ps generalizing before with
  | nil => rfl
  | cons p rest ih =>
    have hname : ∀ i ∈ parameterNameIssue? method p.1, i.missing? = none := by
      intro i hi
      rcases parameterNameIssue_cases hi with rfl | rfl <;> rfl
    have hclash : ∀ i ∈ parameterCollision? method before p.1, i.missing? = none := by
      intro i hi
      obtain ⟨b, -, rfl⟩ := Option.map_eq_some_iff.mp hi
      rfl
    have htype : (parameterTypeIssue? (s.insertType k name t h) c method p).toList =
        (parameterTypeIssue? s c method p).toList.filter fun i => i.missing? != some name :=
      unknown_insertType c k t h rfl
    rw [parameterIssues, parameterIssues, List.filter_append, List.filter_append,
      List.filter_append, filter_toList_of_missing? hname, filter_toList_of_missing? hclash, htype,
      ih]

theorem methodIssues_insertType (method : String) (m : Method) :
    methodIssues (s.insertType k name t h) c method m =
      (methodIssues s c method m).filter fun i => i.missing? != some name := by
  have hname : ∀ i ∈ methodNameIssue? method, i.missing? = none := by
    intro i hi
    obtain ⟨-, rfl⟩ := methodNameIssue?_eq_some_iff.mp hi
    rfl
  have hresult : (resultIssue? (s.insertType k name t h) c method m.result).toList =
      (resultIssue? s c method m.result).toList.filter fun i => i.missing? != some name :=
    unknown_insertType c k t h rfl
  rw [methodIssues, methodIssues, List.filter_append, List.filter_append,
    filter_toList_of_missing? hname, hresult, parameterIssues_insertType]

theorem allMethodIssues_insertType : allMethodIssues (s.insertType k name t h) c =
    (allMethodIssues s c).filter fun i => i.missing? != some name := by
  rw [allMethodIssues, allMethodIssues, List.filter_flatMap]
  exact List.flatMap_congr fun p _ => methodIssues_insertType c k t h p.1 p.2

/-- The issues about the new type are those of this type alone, and the others are those that there were
before, but for those that say that it is not known. -/
theorem filter_issues_insertType :
    (issues (s.insertType k name t h) c).filter (fun i => i.owner? == some name) =
        issues (only name t) c ∧
      (issues (s.insertType k name t h) c).filter (fun i => i.owner? != some name) =
        (issues s c).filter fun i => i.missing? != some name := by
  obtain ⟨hnameNew, hnameOld⟩ := filter_flatMap_insertType k t h owned_typeName
  obtain ⟨hmemberNew, hmemberOld⟩ := filter_flatMap_insertType k t h (owned_member c)
  obtain ⟨hshapeNew, hshapeOld⟩ := filter_flatMap_insertType k t h (owned_shape c)
  have hmethod : ∀ i ∈ allMethodIssues (s.insertType k name t h) c, i.owner? = none :=
    fun i => owner?_of_mem_allMethodIssues
  have hkept {f : String × TypeDef → List Issue} (hf : Owned f) :
      (s.types.toList.flatMap f).filter (fun i => i.missing? != some name) =
        s.types.toList.flatMap f :=
    List.filter_eq_self.mpr fun i hi => by simp [hf.missing?_eq_none hi]
  constructor
  · rw [filter_issues, hnameNew, hmemberNew, hshapeNew,
      List.filter_eq_nil_iff.mpr fun i hi => by simp [hmethod i hi]]
    simp [issues_eq, allMethodIssues, only, Table.empty]
  · rw [filter_issues, filter_issues, hnameOld, hmemberOld, hshapeOld,
      List.filter_eq_self.mpr fun i hi => by simp [hmethod i hi], allMethodIssues_insertType,
      hkept owned_typeName, hkept (owned_member c), hkept (owned_shape c)]

theorem missing?_ne_of_mem_insertType {i : Issue} (hi : i ∈ issues (s.insertType k name t h) c) :
    i.missing? ≠ some name := by
  intro hm
  have howner : i.owner? = none := by
    cases ho : i.owner? with
    | none => rfl
    | some type => cases (missing?_of_owner? ho).symm.trans hm
  have hother : i ∈ (issues (s.insertType k name t h) c).filter fun i => i.owner? != some name :=
    List.mem_filter.mpr ⟨hi, by simp [howner]⟩
  rw [(filter_issues_insertType c k t h).2, List.mem_filter, hm] at hother
  simp at hother

end Inserted

/-- A filter keeps behind a laxer one what it keeps anyway. -/
theorem filter_filter_of_imp {α : Type} {p q : α → Bool} (h : ∀ a, p a = true → q a = true)
    (l : List α) : (l.filter q).filter p = l.filter p := by
  rw [List.filter_filter]
  refine List.filter_congr fun a _ => ?_
  cases hp : p a with
  | true => rw [h a hp, Bool.and_self]
  | false => rw [Bool.false_and]

theorem filter_findings {p : Finding → Bool} {q : Issue → Bool} (h : ∀ i, p i.finding = q i)
    (s : Schema) (c : Config) :
    (findings s c).filter p = ((issues s c).filter q).map Issue.finding := by
  have hq : p ∘ Issue.finding = q := funext h
  rw [findings, List.filter_map, hq]

/-- What one more type, put anywhere, changes in a validation. All that it finds in addition is about the
new type, and is found in this type alone; what it no longer finds are just the warnings that a parameter
or a result has the new type and that this is not known; all else it finds as before and in the same
order. So no error goes, and nothing comes to a method. -/
theorem findings_insertType (s : Schema) (c : Config) (k : Nat) (name : String) (t : TypeDef)
    (h : name ∉ s.types.names) :
    let z := s.insertType k name t h
    (∀ f ∈ findings s c, f.subject? "type" ≠ some name) ∧
    (findings z c).filter (fun f => f.subject? "type" == some name) = findings (only name t) c ∧
    (findings z c).filter (fun f => f.subject? "type" != some name) =
      ((issues s c).filter fun i => i.missing? != some name).map Issue.finding ∧
    (∀ i ∈ issues s c, i.missing? = some name →
      i.finding.severity = .warning ∧ i.finding ∉ findings z c) ∧
    (∀ i : Issue, i.missing?.isSome = true ↔
      i.code = "PARAM_TYPE_UNKNOWN" ∨ i.code = "RESULT_TYPE_UNKNOWN") ∧
    (findings s c).errors.Sublist (findings z c).errors ∧
    ∀ method, ((findings z c).filter fun f => f.subject? "method" == some method).Sublist
      ((findings s c).filter fun f => f.subject? "method" == some method) := by
  intro z
  obtain ⟨hnew, hother⟩ := filter_issues_insertType c k t h
  refine ⟨?_, ?_, ?_, fun i hi hm => ⟨severity_of_missing? hm, ?_⟩, missing?_isSome_iff, ?_, ?_⟩
  · intro f hf
    obtain ⟨i, hi, rfl⟩ := List.mem_map.mp hf
    rw [subject?_type]
    exact fun ho => h (owner?_mem_names hi ho)
  · rw [filter_findings (q := fun i => i.owner? == some name) fun i => by rw [subject?_type], hnew]
    rfl
  · rw [filter_findings (q := fun i => i.owner? != some name) fun i => by rw [subject?_type], hother]
  · intro hf
    obtain ⟨j, hj, he⟩ := List.mem_map.mp hf
    exact missing?_ne_of_mem_insertType c k t h hj (missing?_of_finding hm he)
  · have hkept (i : Issue) (he : i.finding.isError = true) : (i.missing? != some name) = true := by
      by_contra hm
      have hname : i.missing? = some name := by simpa using hm
      have hw := severity_of_missing? hname
      simp [Finding.isError, Issue.finding, hw] at he
    rw [Findings.errors, Findings.errors, filter_findings (fun _ => rfl),
      filter_findings (fun _ => rfl), ← filter_filter_of_imp hkept, ← hother]
    exact (List.filter_sublist.filter _).map _
  · intro method
    have hapart (i : Issue) (hm : (i.method? == some method) = true) :
        (i.owner? != some name) = true := by
      simp [owner?_of_method? (beq_iff_eq.mp hm)]
    rw [filter_findings (q := fun i => i.method? == some method) fun i => by rw [subject?_method],
      filter_findings (q := fun i => i.method? == some method) fun i => by rw [subject?_method],
      ← filter_filter_of_imp hapart, hother]
    exact (List.filter_sublist.filter _).map _

/-- A method with two parameters whose types the schema does not have. -/
def letters : Schema where
  types := ⟨[("Letter", ⟨⟨[("text", .single "String")], by simp⟩⟩)], by simp⟩
  methods := ⟨[("sendLetter", ⟨⟨[("to", .single "User"), ("stamp", .single "Stamp")], by simp⟩,
    .single "Letter"⟩)], by simp⟩
  sourceFile := none

/-- A type with a field for a reserved word. -/
def user : TypeDef where
  fields := ⟨[("class", .single "Int")], by simp⟩

theorem findings_of_letters :
    let receiver : Issue := .parameterUnknown "sendLetter" "to" "User"
    ∃ h : "User" ∉ letters.types.names,
      let z := letters.insertType 0 "User" user h
      (findings letters .usual).codes = ["PARAM_TYPE_UNKNOWN", "PARAM_TYPE_UNKNOWN"] ∧
      (findings z .usual).codes = ["FIELD_NAME_RESERVED", "PARAM_TYPE_UNKNOWN"] ∧
      (findings z .usual).filter (fun f => f.subject? "type" == some "User") =
        findings (only "User" user) .usual ∧
      receiver ∈ issues letters .usual ∧ receiver.finding ∉ findings z .usual := by
  intro receiver
  have h : "User" ∉ letters.types.names := by decide
  have hreceiver : receiver ∈ issues letters .usual := by decide
  obtain ⟨-, hnew, -, hgone, -⟩ := findings_insertType letters .usual 0 "User" user h
  exact ⟨h, by decide, rfl, hnew, hreceiver, (hgone receiver hreceiver rfl).2⟩

end Validation
end ClientGen
