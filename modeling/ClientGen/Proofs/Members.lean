import ClientGen.Proofs.Declarations
import ClientGen.Proofs.Issues
import ClientGen.Proofs.Order

/-! The members of a struct: the loop that gathers who claims which name gathers all claimants, so
a collision is reported just for the names that two declared members share. -/

namespace ClientGen
namespace Validation

section Claims

/-- Who claims a name, in the order of the claims. -/
def claimants (claims : List (String × String)) (name : String) : List String :=
  (claims.filter fun q => q.1 == name).map Prod.snd

/-- The entries hold each claimed name once, with all its claimants. -/
structure Tallied (claims : List (String × String)) (entries : List (String × List String)) :
    Prop where
  nodup : (entries.map Prod.fst).Nodup
  mem_iff : ∀ name who, (name, who) ∈ entries ↔ who = claimants claims name ∧ who ≠ []

theorem claimants_append (claims more : List (String × String)) (name : String) :
    claimants (claims ++ more) name = claimants claims name ++ claimants more name := by
  simp [claimants]

theorem claimants_singleton (q : String × String) (name : String) :
    claimants [q] name = if q.1 = name then [q.2] else [] := by
  by_cases h : q.1 = name <;> simp [claimants, h]

theorem names_addClaim (entries : List (String × List String)) (q : String × String) :
    (addClaim entries q).map Prod.fst =
      if q.1 ∈ entries.map Prod.fst then entries.map Prod.fst
      else entries.map Prod.fst ++ [q.1] := by
  induction entries with
  | nil => simp [addClaim]
  | cons e rest ih =>
    obtain ⟨name, who⟩ := e
    by_cases h : name = q.1
    · simp [addClaim, h]
    · have hq : q.1 ≠ name := fun e => h e.symm
      simp only [addClaim, h, if_false, List.map_cons, ih, List.mem_cons, hq, false_or]
      split <;> simp

theorem nodup_addClaim {entries : List (String × List String)} (q : String × String)
    (h : (entries.map Prod.fst).Nodup) : ((addClaim entries q).map Prod.fst).Nodup := by
  rw [names_addClaim]
  split
  · exact h
  · next hq =>
    refine List.nodup_append.mpr ⟨h, by simp, ?_⟩
    intro name hn name' hn' e
    rw [List.mem_singleton.mp hn'] at e
    exact hq (e ▸ hn)

/-- A claim leaves the entries of other names as they are. -/
theorem mem_addClaim_of_ne {entries : List (String × List String)} {q : String × String}
    {name : String} (who : List String) (h : q.1 ≠ name) :
    (name, who) ∈ addClaim entries q ↔ (name, who) ∈ entries := by
  have hn : name ≠ q.1 := fun e => h e.symm
  induction entries with
  | nil => simp [addClaim, hn]
  | cons e rest ih =>
    obtain ⟨m, before⟩ := e
    by_cases he : m = q.1
    · subst he
      simp [addClaim, hn]
    · simp [addClaim, he, ih]

/-- A claim puts its claimant behind those that its name had before. -/
theorem mem_addClaim_self {entries : List (String × List String)} {q : String × String}
    (who : List String) (hd : (entries.map Prod.fst).Nodup) :
    (q.1, who) ∈ addClaim entries q ↔
      (∃ before, (q.1, before) ∈ entries ∧ who = before ++ [q.2]) ∨
      (q.1 ∉ entries.map Prod.fst ∧ who = [q.2]) := by
  induction entries with
  | nil => simp [addClaim]
  | cons e rest ih =>
    obtain ⟨name, before⟩ := e
    obtain ⟨hn, hrest⟩ := List.nodup_cons.mp hd
    by_cases he : name = q.1
    · subst he
      have hnot (who : List String) : (q.1, who) ∉ rest := fun hm =>
        hn (List.mem_map.mpr ⟨_, hm, rfl⟩)
      simp [addClaim, hnot]
    · have hq : q.1 ≠ name := fun e => he e.symm
      simp [addClaim, he, hq, ih hrest]

/-- One more claim keeps the tally. -/
theorem Tallied.step {claims : List (String × String)} {entries : List (String × List String)}
    (h : Tallied claims entries) (q : String × String) :
    Tallied (claims ++ [q]) (addClaim entries q) := by
  refine ⟨nodup_addClaim q h.nodup, fun name who => ?_⟩
  rw [claimants_append, claimants_singleton]
  by_cases hq : q.1 = name
  · subst hq
    rw [mem_addClaim_self who h.nodup, if_pos rfl]
    constructor
    · rintro (⟨before, hb, rfl⟩ | ⟨hn, rfl⟩)
      · rw [((h.mem_iff q.1 before).mp hb).1]
        simp
      · have hnil : claimants claims q.1 = [] := by
          by_cases hc : claimants claims q.1 = []
          · exact hc
          · exact absurd (List.mem_map.mpr ⟨_, (h.mem_iff q.1 _).mpr ⟨rfl, hc⟩, rfl⟩) hn
        simp [hnil]
    · rintro ⟨rfl, -⟩
      by_cases hc : claimants claims q.1 = []
      · refine .inr ⟨fun hm => ?_, by simp [hc]⟩
        obtain ⟨e, he, hn⟩ := List.mem_map.mp hm
        obtain ⟨hw, hne⟩ := (h.mem_iff e.1 e.2).mp he
        exact hne (by rw [hw, hn, hc])
      · exact .inl ⟨_, (h.mem_iff q.1 _).mpr ⟨rfl, hc⟩, rfl⟩
  · rw [mem_addClaim_of_ne who hq, h.mem_iff, if_neg hq, List.append_nil]

theorem Tallied.run {claims : List (String × String)} {entries : List (String × List String)}
    (h : Tallied claims entries) (more : List (String × String)) :
    Tallied (claims ++ more) (more.foldl addClaim entries) := by
  induction more generalizing claims entries with
  | nil => simpa using h
  | cons q rest ih => simpa using ih (h.step q)

theorem claimed_tallied (claims : List (String × String)) : Tallied claims (claimed claims) := by
  have h : Tallied [] [] := ⟨by simp, by simp [claimants]⟩
  simpa [claimed] using h.run claims

theorem nodup_contested (claims : List (String × String)) :
    ((contested claims).map Prod.fst).Nodup :=
  List.Nodup.sublist (List.Sublist.map Prod.fst List.filter_sublist) (claimed_tallied claims).nodup

theorem mem_contested {claims : List (String × String)} {name : String} {who : List String} :
    (name, who) ∈ contested claims ↔ who = claimants claims name ∧ 2 ≤ who.length := by
  simp only [contested, List.mem_filter, (claimed_tallied claims).mem_iff, decide_eq_true_eq]
  have hlen : 2 ≤ who.length → who ≠ [] := by
    rintro h rfl
    simp at h
  constructor
  · rintro ⟨⟨hw, -⟩, hl⟩
    exact ⟨hw, hl⟩
  · rintro ⟨hw, hl⟩
    exact ⟨⟨hw, hlen hl⟩, hl⟩

/-- No name is contested just when no two claims are for one name. -/
theorem contested_eq_nil_iff (claims : List (String × String)) :
    contested claims = [] ↔ (claims.map Prod.fst).Nodup := by
  have hcount (name : String) :
      (claimants claims name).length = (claims.map Prod.fst).count name := by
    rw [claimants, List.length_map, ← List.countP_eq_length_filter, List.count, List.countP_map]
    rfl
  rw [List.nodup_iff_count]
  constructor
  · intro h name
    rw [← hcount]
    by_cases hl : 2 ≤ (claimants claims name).length
    · have hm : (name, claimants claims name) ∈ contested claims := mem_contested.mpr ⟨rfl, hl⟩
      simp [h] at hm
    · omega
  · intro h
    apply List.eq_nil_iff_forall_not_mem.mpr
    rintro ⟨name, who⟩ hm
    obtain ⟨rfl, hl⟩ := mem_contested.mp hm
    have := h name
    rw [← hcount] at this
    omega

end Claims

section Fields

variable (c : Config) (type : String) (t : TypeDef)

/-- The wire names of the fields of a type whose accessor has the given name. -/
def fieldClaimants (accessor : String) : List String :=
  ((accessible t).filter fun p => Code.accessorName c type p == accessor).map Prod.fst

theorem names_memberClaims : (memberClaims c type t).map Prod.fst = memberNames c type t := by
  simp [memberClaims, memberNames, Function.comp_def]

/-- The members that every struct has claim their names first. -/
theorem claimants_memberClaims (accessor : String) :
    claimants (memberClaims c type t) accessor =
      (if accessor ∈ structMembers then ["<generated>"] else []) ++
        fieldClaimants c type t accessor := by
  have hfields : claimants ((accessible t).map fun p => (Code.accessorName c type p, p.1))
      accessor = fieldClaimants c type t accessor := by
    simp [claimants, fieldClaimants, List.filter_map, Function.comp_def]
  have hgenerated : claimants (structMembers.map fun m => (m, "<generated>")) accessor =
      if accessor ∈ structMembers then ["<generated>"] else [] := by
    by_cases hj : "json" = accessor
    · subst hj
      decide
    · by_cases hi : "internalJson" = accessor
      · subst hi
        decide
      · have hj' : accessor ≠ "json" := fun e => hj e.symm
        have hi' : accessor ≠ "internalJson" := fun e => hi e.symm
        simp [claimants, structMembers, hj, hi, hj', hi']
  rw [memberClaims, claimants_append, hfields, hgenerated]

theorem fieldClaimants_ascending (accessor : String) :
    (fieldClaimants c type t accessor).Pairwise (· < ·) := by
  apply List.pairwise_map.mpr
  exact (t.fields.sorted_ascending.filter _).filter _

theorem mem_fieldClaimants {accessor wire : String} :
    wire ∈ fieldClaimants c type t accessor ↔
      ∃ f, (wire, f) ∈ t.fields.toList ∧ Code.isLiteralTrue f = false ∧
        Code.accessorName c type (wire, f) = accessor := by
  simp only [fieldClaimants, accessible, List.mem_map, List.mem_filter, Table.mem_sorted,
    Bool.not_eq_true', beq_iff_eq]
  constructor
  · rintro ⟨⟨name, f⟩, ⟨⟨hm, hf⟩, ha⟩, rfl⟩
    exact ⟨f, hm, hf, ha⟩
  · rintro ⟨f, hm, hf, ha⟩
    exact ⟨(wire, f), ⟨⟨hm, hf⟩, ha⟩, rfl⟩

theorem mem_contested_memberClaims {accessor : String} :
    accessor ∈ (contested (memberClaims c type t)).map Prod.fst ↔
      2 ≤ (fieldClaimants c type t accessor).length ∨
        (accessor ∈ structMembers ∧ 1 ≤ (fieldClaimants c type t accessor).length) := by
  have hmem : accessor ∈ (contested (memberClaims c type t)).map Prod.fst ↔
      2 ≤ (claimants (memberClaims c type t) accessor).length := by
    constructor
    · intro h
      obtain ⟨⟨name, who⟩, hq, rfl⟩ := List.mem_map.mp h
      obtain ⟨rfl, hl⟩ := mem_contested.mp hq
      exact hl
    · intro h
      exact List.mem_map.mpr ⟨_, mem_contested.mpr ⟨rfl, h⟩, rfl⟩
  rw [hmem, claimants_memberClaims, List.length_append]
  by_cases h : accessor ∈ structMembers
  · simp only [h, if_true, List.length_singleton, true_and]
    omega
  · simp [h]

end Fields

/-- The accessor and the claimants of a collision in a type. -/
def Issue.collision? (type : String) : Issue → Option (String × List String)
  | .accessorCollision owner accessor who => if owner = type then some (accessor, who) else none
  | _ => none

/-- The collisions that the check of field names reports for a type. -/
def collisions (s : Schema) (c : Config) (type : String) : List (String × List String) :=
  (fieldNameIssues s c).filterMap (Issue.collision? type)

theorem filterMap_memberIssues (c : Config) (type owner : String) (t : TypeDef) :
    (memberIssues c owner t).filterMap (Issue.collision? type) =
      if owner = type then contested (memberClaims c owner t) else [] := by
  have hnames : ((accessible t).filterMap (accessorIssue? c owner)).filterMap
      (Issue.collision? type) = [] := by
    apply List.filterMap_eq_nil_iff.mpr
    intro i hi
    obtain ⟨p, -, hp⟩ := List.mem_filterMap.mp hi
    rcases accessorIssue_cases hp with rfl | rfl <;> rfl
  rw [memberIssues, List.filterMap_append, hnames, List.nil_append, List.filterMap_map]
  by_cases h : owner = type
  · have hself : Issue.collision? type ∘ (fun q : String × List String =>
        Issue.accessorCollision owner q.1 q.2) = some := by
      funext q
      simp [Issue.collision?, h]
    rw [hself, List.filterMap_some, if_pos h]
  · have hother : Issue.collision? type ∘ (fun q : String × List String =>
        Issue.accessorCollision owner q.1 q.2) = fun _ => none := by
      funext q
      simp [Issue.collision?, h]
    rw [hother, if_neg h]
    simp

/-- The collisions of a type are the contested names among its own members. -/
theorem collisions_eq {s : Schema} (c : Config) {type : String} {t : TypeDef}
    (ht : (type, t) ∈ s.types.toList) :
    collisions s c type = contested (memberClaims c type t) := by
  have hother (p : String × TypeDef) (hne : p.1 ≠ type) :
      (memberIssues c p.1 p.2).filterMap (Issue.collision? type) = [] := by
    rw [filterMap_memberIssues, if_neg hne]
  rw [collisions, fieldNameIssues, filterMap_flatMap_of_mem ht hother, filterMap_memberIssues,
    if_pos rfl]

theorem filter_memberIssues (c : Config) (type : String) (t : TypeDef) :
    (memberIssues c type t).filter (fun i => i.code == "FIELD_ACCESSOR_COLLISION") =
      (contested (memberClaims c type t)).map fun q => .accessorCollision type q.1 q.2 := by
  have hnames : ((accessible t).filterMap (accessorIssue? c type)).filter
      (fun i => i.code == "FIELD_ACCESSOR_COLLISION") = [] := by
    apply List.filter_eq_nil_iff.mpr
    intro i hi
    obtain ⟨p, -, hp⟩ := List.mem_filterMap.mp hi
    rcases accessorIssue_cases hp with rfl | rfl <;> simp [Issue.code]
  rw [memberIssues, List.filter_append, hnames, List.nil_append, List.filter_eq_self]
  intro i hi
  obtain ⟨q, -, rfl⟩ := List.mem_map.mp hi
  rfl

/-- The findings about collisions are those for the collisions of each type. -/
theorem filter_findings_collision (s : Schema) (c : Config) :
    ((fieldNameIssues s c).map Issue.finding).filter
        (fun f => f.code == "FIELD_ACCESSOR_COLLISION") =
      s.types.toList.flatMap fun p => (collisions s c p.1).map fun q =>
        (Issue.accessorCollision p.1 q.1 q.2).finding := by
  have hcode : ((fun f : Finding => f.code == "FIELD_ACCESSOR_COLLISION") ∘ Issue.finding) =
      fun i => i.code == "FIELD_ACCESSOR_COLLISION" := rfl
  rw [List.filter_map, hcode, fieldNameIssues, List.filter_flatMap, List.map_flatMap,
    List.flatMap_def, List.flatMap_def]
  apply congrArg List.flatten
  apply List.map_congr_left
  rintro ⟨type, t⟩ ht
  rw [filter_memberIssues, collisions_eq c ht, List.map_map]
  rfl

/-- For every type of a schema, a collision is reported once for each accessor that two fields, or
a field and a member that every struct has, lay claim to, with all that claim it. So none is
reported just when the variables that the struct of the type declares have distinct names. -/
theorem collisions_exact (s : Schema) (c : Config) :
    ((fieldNameIssues s c).map Issue.finding).filter
        (fun f => f.code == "FIELD_ACCESSOR_COLLISION") =
      (s.types.toList.flatMap fun p => (collisions s c p.1).map fun q =>
        (Issue.accessorCollision p.1 q.1 q.2).finding) ∧
    ∀ (type : String) (t : TypeDef), (type, t) ∈ s.types.toList →
      ((collisions s c type).map Prod.fst).Nodup ∧
      (∀ accessor, accessor ∈ (collisions s c type).map Prod.fst ↔
        2 ≤ (fieldClaimants c type t accessor).length ∨
          (accessor ∈ structMembers ∧ 1 ≤ (fieldClaimants c type t accessor).length)) ∧
      (∀ accessor who, (accessor, who) ∈ collisions s c type →
        who = (if accessor ∈ structMembers then ["<generated>"] else []) ++
          fieldClaimants c type t accessor) ∧
      (∀ accessor, (fieldClaimants c type t accessor).Pairwise (· < ·) ∧
        ∀ wire, wire ∈ fieldClaimants c type t accessor ↔
          ∃ f, (wire, f) ∈ t.fields.toList ∧ Code.isLiteralTrue f = false ∧
            Code.accessorName c type (wire, f) = accessor) ∧
      (collisions s c type = [] ↔ (memberNames c type t).Nodup) ∧
      ∀ text, Code.structText c type t = .ok text →
        ∃ (members : List String) (ds : List Code.Declaration),
          Code.accessors c type t.fields.sorted = .ok members ∧
          text = Text.unlines (Code.structHead type ++ members ++
            Code.structTail (Code.defaultsLiteral t.fields.sorted)) ∧
          (Code.structHead type ++ members ++
              Code.structTail (Code.defaultsLiteral t.fields.sorted)).filter Code.isVariable =
            ds.map Code.Declaration.part ∧
          ds.map Code.Declaration.name = memberNames c type t := by
  refine ⟨filter_findings_collision s c, fun type t ht => ?_⟩
  rw [collisions_eq c ht]
  refine ⟨nodup_contested _, fun accessor => mem_contested_memberClaims c type t, ?_,
    fun accessor => ⟨fieldClaimants_ascending c type t accessor,
      fun wire => mem_fieldClaimants c type t⟩, ?_, fun text => Code.structText_declares⟩
  · intro accessor who h
    rw [← claimants_memberClaims]
    exact (mem_contested.mp h).1
  · rw [contested_eq_nil_iff, names_memberClaims]

/-- A type with two fields for one accessor and one field for a member that every struct has. -/
def message : TypeDef where
  fields := ⟨[("chat_id", ⟨"Int", false, false, false⟩), ("json", ⟨"String", false, false, false⟩),
    ("text", ⟨"String", false, false, true⟩), ("chat__id", ⟨"Int", false, false, false⟩)], by simp⟩

def messages : Schema where
  types := ⟨[("Message", message)], by simp⟩
  methods := .empty
  sourceFile := none

theorem collisions_messages :
    collisions messages .usual "Message" =
      [("json", ["<generated>", "json"]), ("chatId", ["chat__id", "chat_id"])] ∧
    ¬ (memberNames .usual "Message" message).Nodup := by
  have hm : ("Message", message) ∈ messages.types.toList := by simp [messages]
  have hc : collisions messages .usual "Message" =
      [("json", ["<generated>", "json"]), ("chatId", ["chat__id", "chat_id"])] := by decide
  obtain ⟨-, -, -, -, hfree, -⟩ := (collisions_exact messages .usual).2 "Message" message hm
  refine ⟨hc, fun h => ?_⟩
  rw [hc] at hfree
  exact absurd (hfree.mpr h) (by simp)

end Validation
end ClientGen
