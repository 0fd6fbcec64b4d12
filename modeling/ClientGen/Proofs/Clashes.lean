import ClientGen.Proofs.Issues
import ClientGen.Proofs.Order
import Mathlib.Data.Finset.Max
import Mathlib.Data.String.Basic

/-! Parameters of a method that share a name in the code. The check goes through them in their order and
reports each that finds its name taken, with the last one before it that has this name. So the reports
and the names in the code are together as many as the parameters. -/

namespace ClientGen
namespace Validation

open Identifier (camelized)

/-! ## Taken names -/

/-- The names whose name in the code is taken, each behind the last one before it that has the same;
`before` holds the names so far, the last one first. -/
def clashesAfter (before : List String) : List String → List (String × String)
  | [] => []
  | name :: rest =>
    ((before.find? fun b => camelized b == camelized name).map (·, name)).toList ++
      clashesAfter (name :: before) rest

/-- The names in the code. -/
def codeNames (names : List String) : Finset String :=
  (names.map camelized).toFinset

@[simp] theorem mem_codeNames {names : List String} {argument : String} :
    argument ∈ codeNames names ↔ ∃ name ∈ names, camelized name = argument := by
  simp [codeNames]

theorem codeNames_cons (name : String) (names : List String) :
    codeNames (name :: names) = insert (camelized name) (codeNames names) := by
  simp [codeNames]

theorem codeNames_perm {names more : List String} (h : names.Perm more) :
    codeNames names = codeNames more :=
  List.toFinset_eq_of_perm _ _ (h.map camelized)

/-- As many names in the code as names are there just if no two of these have the same. -/
theorem card_codeNames_eq_iff (names : List String) :
    (codeNames names).card = names.length ↔ (names.map camelized).Nodup := by
  have hlength : names.length = (names.map camelized).length := (List.length_map ..).symm
  rw [codeNames, hlength]
  exact Multiset.toFinset_card_eq_card_iff_nodup

/-- Each name either brings a new name in the code or clashes. -/
theorem length_clashesAfter (before rest : List String) :
    (clashesAfter before rest).length + (codeNames (rest ++ before)).card =
      rest.length + (codeNames before).card := by
  induction rest generalizing before with
  | nil => simp [clashesAfter]
  | cons name rest ih =>
    have hrest := ih (name :: before)
    have hnames : codeNames (name :: rest ++ before) = codeNames (rest ++ name :: before) :=
      codeNames_perm List.perm_middle.symm
    rw [codeNames_cons] at hrest
    simp only [clashesAfter, List.length_append, List.length_cons, hnames]
    cases hf : before.find? fun b => camelized b == camelized name with
    | none =>
      have hnew : camelized name ∉ codeNames before := by
        simpa using List.find?_eq_none.mp hf
      rw [Finset.card_insert_of_notMem hnew] at hrest
      simp only [Option.map_none, Option.toList_none, List.length_nil]
      omega
    | some b =>
      have htaken : camelized name ∈ codeNames before :=
        mem_codeNames.mpr ⟨b, List.mem_of_find?_eq_some hf, by simpa using List.find?_some hf⟩
      rw [Finset.insert_eq_of_mem htaken] at hrest
      simp only [Option.map_some, Option.toList_some, List.length_singleton]
      omega

theorem clashesAfter_eq_nil_iff (names : List String) :
    clashesAfter [] names = [] ↔ (names.map camelized).Nodup := by
  have hcount := length_clashesAfter [] names
  rw [List.append_nil, show (codeNames []).card = 0 from rfl] at hcount
  rw [← card_codeNames_eq_iff, ← List.length_eq_zero_iff]
  omega

theorem clashesAfter_sublist (before rest : List String) :
    ((clashesAfter before rest).map Prod.snd).Sublist rest := by
  induction rest generalizing before with
  | nil => simp [clashesAfter]
  | cons name rest ih =>
    cases hf : before.find? fun b => camelized b == camelized name with
    | none => simpa [clashesAfter, hf] using (ih (name :: before)).cons name
    | some b => simpa [clashesAfter, hf] using ih (name :: before)

/-! ## Nearest predecessors -/

/-- Of the names below `name` that have the same name in the code, `earlier` is the last one. -/
structure Nearest (names : List String) (earlier name : String) : Prop where
  earlier_mem : earlier ∈ names
  mem : name ∈ names
  lt : earlier < name
  same : camelized earlier = camelized name
  between : ∀ b ∈ names, earlier < b → b < name → camelized b ≠ camelized name

section Nearest

variable {names more : List String} {earlier name : String}

theorem Nearest.congr (h : ∀ b, b ∈ names ↔ b ∈ more) :
    Nearest names earlier name ↔ Nearest more earlier name := by
  constructor
  · exact fun n => ⟨(h _).mp n.earlier_mem, (h _).mp n.mem, n.lt, n.same,
      fun b hb => n.between b ((h b).mpr hb)⟩
  · exact fun n => ⟨(h _).mpr n.earlier_mem, (h _).mpr n.mem, n.lt, n.same,
      fun b hb => n.between b ((h b).mp hb)⟩

theorem Nearest.unique {b : String} (h : Nearest names earlier name) (hb : Nearest names b name) :
    earlier = b := by
  rcases lt_trichotomy earlier b with hlt | he | hlt
  · exact absurd hb.same (h.between b hb.earlier_mem hlt hb.lt)
  · exact he
  · exact absurd h.same (hb.between earlier h.earlier_mem hlt h.lt)

/-- A name that is taken has a nearest predecessor. -/
theorem exists_nearest (hearlier : earlier ∈ names) (hname : name ∈ names) (hlt : earlier < name)
    (hsame : camelized earlier = camelized name) : ∃ b, Nearest names b name := by
  let taken := names.toFinset.filter fun b => b < name ∧ camelized b = camelized name
  have htaken {b : String} :
      b ∈ taken ↔ b ∈ names ∧ b < name ∧ camelized b = camelized name := by
    rw [Finset.mem_filter, List.mem_toFinset]
  obtain ⟨b, hb, hmax⟩ :=
    taken.exists_max_image id ⟨earlier, htaken.mpr ⟨hearlier, hlt, hsame⟩⟩
  obtain ⟨hb, hbn, hbs⟩ := htaken.mp hb
  refine ⟨b, hb, hname, hbn, hbs, fun d hd hbd hdn hds => ?_⟩
  have hle : d ≤ b := hmax d (htaken.mpr ⟨hd, hdn, hds⟩)
  exact absurd hbd (not_lt.mpr hle)

section Before

variable {before rest : List String} (h : (before.reverse ++ name :: rest).Pairwise (· < ·))
include h

theorem mem_before_of_lt {b : String} (hb : b ∈ before.reverse ++ name :: rest) (hlt : b < name) :
    b ∈ before := by
  obtain ⟨-, hrest, -⟩ := List.pairwise_append.mp h
  rcases List.mem_append.mp hb with hb | hb
  · exact List.mem_reverse.mp hb
  · rcases List.mem_cons.mp hb with rfl | hb
    · exact absurd hlt (lt_irrefl b)
    · exact absurd hlt (lt_asymm ((List.pairwise_cons.mp hrest).1 b hb))

/-- Looking back from a name in ascending order, one comes upon its nearest predecessor first. -/
theorem nearest_of_find? (hf : before.find? (fun b => camelized b == camelized name) = some earlier) :
    Nearest (before.reverse ++ name :: rest) earlier name := by
  obtain ⟨hsame, after, front, rfl, hafter⟩ := List.find?_eq_some_iff_append.mp hf
  obtain ⟨hbefore, -, hlt⟩ := List.pairwise_append.mp h
  refine ⟨by simp, by simp, hlt earlier (by simp) name (by simp), beq_iff_eq.mp hsame, ?_⟩
  intro d hd hbelow hdn hds
  rcases List.mem_append.mp (mem_before_of_lt h hd hdn) with hd | hd
  · simpa [hds] using hafter d hd
  · rcases List.mem_cons.mp hd with rfl | hd
    · exact lt_irrefl d hbelow
    · rw [List.reverse_append, List.reverse_cons, List.append_assoc] at hbefore
      have habove : d < earlier :=
        (List.pairwise_append.mp hbefore).2.2 d (by simpa using hd) earlier (by simp)
      exact lt_asymm hbelow habove

theorem find?_before_iff :
    before.find? (fun b => camelized b == camelized name) = some earlier ↔
      Nearest (before.reverse ++ name :: rest) earlier name := by
  constructor
  · exact nearest_of_find? h
  · intro hn
    cases hf : before.find? fun b => camelized b == camelized name with
    | none =>
      have hno := List.find?_eq_none.mp hf earlier (mem_before_of_lt h hn.earlier_mem hn.lt)
      exact absurd (beq_iff_eq.mpr hn.same) hno
    | some b => rw [(nearest_of_find? h hf).unique hn]

end Before

/-- Of names in ascending order just those clash that are taken, each with its nearest predecessor. -/
theorem mem_clashesAfter (before : List String) {rest : List String}
    (h : (before.reverse ++ rest).Pairwise (· < ·)) :
    (earlier, name) ∈ clashesAfter before rest ↔
      name ∈ rest ∧ Nearest (before.reverse ++ rest) earlier name := by
  induction rest generalizing before with
  | nil => simp [clashesAfter]
  | cons first rest ih =>
    have hsplit : (first :: before).reverse ++ rest = before.reverse ++ first :: rest := by simp
    have hrest := ih (first :: before) (by rwa [hsplit])
    rw [hsplit] at hrest
    have hfirst : (earlier, name) ∈ ((before.find? fun b => camelized b == camelized first).map
        (·, first)).toList ↔
        name = first ∧ Nearest (before.reverse ++ first :: rest) earlier name := by
      rw [Option.mem_toList, Option.map_eq_some_iff]
      constructor
      · rintro ⟨b, hb, he⟩
        cases he
        exact ⟨rfl, (find?_before_iff h).mp hb⟩
      · rintro ⟨rfl, hn⟩
        exact ⟨earlier, (find?_before_iff h).mpr hn, rfl⟩
    rw [clashesAfter, List.mem_append, hfirst, hrest, List.mem_cons, or_and_right]

end Nearest

/-! ## Reported clashes -/

/-- The two parameters of a clash in a method, the one that had the name first. -/
def Issue.clash? (method : String) : Issue → Option (String × String)
  | .parameterCollision owner earlier parameter _ =>
    if owner = method then some (earlier, parameter) else none
  | _ => none

/-- The clashes that the check of methods reports for a method. -/
def clashes (s : Schema) (c : Config) (method : String) : List (String × String) :=
  (allMethodIssues s c).filterMap (Issue.clash? method)

variable (s : Schema) (c : Config)

/-- Whatever else is reported of parameters, the collisions are those of their names. -/
theorem filter_parameterIssues (method : String) (before : List String)
    (ps : List (String × Field)) :
    (parameterIssues s c method before ps).filter (fun i => i.code == "PARAM_NAME_COLLISION") =
      (clashesAfter before (ps.map Prod.fst)).map fun q =>
        .parameterCollision method q.1 q.2 (camelized q.2) := by
  induction ps generalizing before with
  | nil => rfl
  | cons p rest ih =>
    have hname : (parameterNameIssue? method p.1).toList.filter
        (fun i => i.code == "PARAM_NAME_COLLISION") = [] := by
      refine List.filter_eq_nil_iff.mpr fun i hi => ?_
      rcases parameterNameIssue_cases (Option.mem_toList.mp hi) with rfl | rfl <;> simp [Issue.code]
    have htype : (parameterTypeIssue? s c method p).toList.filter
        (fun i => i.code == "PARAM_NAME_COLLISION") = [] := by
      refine List.filter_eq_nil_iff.mpr fun i hi => ?_
      obtain ⟨-, rfl⟩ := parameterTypeIssue?_eq_some_iff.mp (Option.mem_toList.mp hi)
      simp [Issue.code]
    have hclash : (parameterCollision? method before p.1).toList.filter
        (fun i => i.code == "PARAM_NAME_COLLISION") =
        ((before.find? fun b => camelized b == camelized p.1).map (·, p.1)).toList.map fun q =>
          .parameterCollision method q.1 q.2 (camelized q.2) := by
      dsimp only [parameterCollision?]
      cases before.find? fun b => camelized b == camelized p.1 <;> rfl
    simp only [parameterIssues, List.filter_append, hname, htype, hclash, ih, List.map_cons,
      clashesAfter, List.map_append, List.nil_append, List.append_nil]

theorem filter_methodIssues (method : String) (m : Method) :
    (methodIssues s c method m).filter (fun i => i.code == "PARAM_NAME_COLLISION") =
      (clashesAfter [] (m.parameters.sorted.map Prod.fst)).map fun q =>
        .parameterCollision method q.1 q.2 (camelized q.2) := by
  have hname : (methodNameIssue? method).toList.filter
      (fun i => i.code == "PARAM_NAME_COLLISION") = [] := by
    refine List.filter_eq_nil_iff.mpr fun i hi => ?_
    obtain ⟨-, rfl⟩ := methodNameIssue?_eq_some_iff.mp (Option.mem_toList.mp hi)
    simp [Issue.code]
  have hresult : (resultIssue? s c method m.result).toList.filter
      (fun i => i.code == "PARAM_NAME_COLLISION") = [] := by
    refine List.filter_eq_nil_iff.mpr fun i hi => ?_
    obtain ⟨-, rfl⟩ := resultIssue?_eq_some_iff.mp (Option.mem_toList.mp hi)
    simp [Issue.code]
  simp only [methodIssues, List.filter_append, hname, hresult, filter_parameterIssues,
    List.nil_append, List.append_nil]

theorem filterMap_methodIssues (method owner : String) (m : Method) :
    (methodIssues s c owner m).filterMap (Issue.clash? method) =
      if owner = method then clashesAfter [] (m.parameters.sorted.map Prod.fst) else [] := by
  have hcode : (fun i : Issue => if i.code == "PARAM_NAME_COLLISION" then i.clash? method
      else none) = Issue.clash? method := by
    funext i
    cases i <;> rfl
  have hfilter := congrArg (List.filterMap (Issue.clash? method)) (filter_methodIssues s c owner m)
  rw [List.filterMap_filter, hcode, List.filterMap_map] at hfilter
  rw [hfilter]
  by_cases h : owner = method
  · have hself : Issue.clash? method ∘ (fun q : String × String =>
        Issue.parameterCollision owner q.1 q.2 (camelized q.2)) = some := by
      funext q
      simp [Issue.clash?, h]
    rw [hself, List.filterMap_some, if_pos h]
  · have hother : Issue.clash? method ∘ (fun q : String × String =>
        Issue.parameterCollision owner q.1 q.2 (camelized q.2)) = fun _ => none := by
      funext q
      simp [Issue.clash?, h]
    rw [hother, if_neg h]
    simp

variable {s}

/-- The clashes of a method are those of its own parameters. -/
theorem clashes_eq {method : String} {m : Method} (hm : (method, m) ∈ s.methods.toList) :
    clashes s c method = clashesAfter [] (m.parameters.sorted.map Prod.fst) := by
  have hother (p : String × Method) (hne : p.1 ≠ method) :
      (methodIssues s c p.1 p.2).filterMap (Issue.clash? method) = [] := by
    rw [filterMap_methodIssues, if_neg hne]
  rw [clashes, allMethodIssues, filterMap_flatMap_of_mem hm hother, filterMap_methodIssues,
    if_pos rfl]

/-- The findings about parameters that share a name are those for the clashes of each method. -/
theorem filter_findings_clash (s : Schema) (c : Config) :
    ((allMethodIssues s c).map Issue.finding).filter (fun f => f.code == "PARAM_NAME_COLLISION") =
      s.methods.toList.flatMap fun p => (clashes s c p.1).map fun q =>
        (Issue.parameterCollision p.1 q.1 q.2 (camelized q.2)).finding := by
  have hcode : ((fun f : Finding => f.code == "PARAM_NAME_COLLISION") ∘ Issue.finding) =
      fun i => i.code == "PARAM_NAME_COLLISION" := rfl
  rw [List.filter_map, hcode, allMethodIssues, List.filter_flatMap, List.map_flatMap]
  refine List.flatMap_congr fun p hp => ?_
  rw [filter_methodIssues, clashes_eq c hp, List.map_map]
  rfl

/-! ## Clashes of a method -/

section Parameters

variable (t : Table Field)

theorem length_clashes_sorted :
    (clashesAfter [] (t.sorted.map Prod.fst)).length + (codeNames t.names).card = t.size := by
  have hcount := length_clashesAfter [] (t.sorted.map Prod.fst)
  rwa [List.append_nil, codeNames_perm t.sorted_names_perm, List.length_map,
    Table.length_sorted, show (codeNames []).card = 0 from rfl, Nat.add_zero] at hcount

theorem mem_clashes_sorted {earlier name : String} :
    (earlier, name) ∈ clashesAfter [] (t.sorted.map Prod.fst) ↔ Nearest t.names earlier name := by
  have hnames (b : String) := t.sorted_names_perm.mem_iff (a := b)
  rw [mem_clashesAfter [] t.sorted_names_ascending, List.reverse_nil, List.nil_append,
    Nearest.congr hnames, and_iff_right_iff_imp]
  exact fun h => (hnames name).mpr h.mem

theorem mem_taken_sorted {name : String} :
    name ∈ (clashesAfter [] (t.sorted.map Prod.fst)).map Prod.snd ↔
      name ∈ t.names ∧ ∃ earlier ∈ t.names, earlier < name ∧ camelized earlier = camelized name := by
  rw [List.mem_map]
  constructor
  · rintro ⟨⟨earlier, name⟩, hq, rfl⟩
    have hn := (mem_clashes_sorted t).mp hq
    exact ⟨hn.mem, earlier, hn.earlier_mem, hn.lt, hn.same⟩
  · rintro ⟨hname, earlier, he, hlt, hsame⟩
    obtain ⟨b, hb⟩ := exists_nearest he hname hlt hsame
    exact ⟨(b, name), (mem_clashes_sorted t).mpr hb, rfl⟩

theorem clashes_sorted_eq_nil_iff :
    clashesAfter [] (t.sorted.map Prod.fst) = [] ↔ (t.names.map camelized).Nodup := by
  rw [clashesAfter_eq_nil_iff]
  exact (t.sorted_names_perm.map camelized).nodup_iff

end Parameters

/-- The check of methods reports as many collisions of parameters for a method as there are more
parameters than names in the code: one, which is an error, for each parameter whose name is taken by
one before it, in the order of the wire names and with the last one before it that has the name.
So none is reported just when the names in the code are distinct, whatever else is reported. -/
theorem clashes_exact (s : Schema) (c : Config) :
    ((allMethodIssues s c).map Issue.finding).filter (fun f => f.code == "PARAM_NAME_COLLISION") =
      (s.methods.toList.flatMap fun p => (clashes s c p.1).map fun q =>
        (Issue.parameterCollision p.1 q.1 q.2 (camelized q.2)).finding) ∧
    (∀ f ∈ (allMethodIssues s c).map Issue.finding, f.code = "PARAM_NAME_COLLISION" →
      f.severity = .error) ∧
    ∀ (method : String) (m : Method), (method, m) ∈ s.methods.toList →
      (clashes s c method).length + (codeNames m.parameters.names).card = m.parameters.size ∧
      ((clashes s c method).map Prod.snd).Pairwise (· < ·) ∧
      (∀ earlier name, (earlier, name) ∈ clashes s c method ↔
        Nearest m.parameters.names earlier name) ∧
      (∀ name, name ∈ (clashes s c method).map Prod.snd ↔ name ∈ m.parameters.names ∧
        ∃ earlier ∈ m.parameters.names, earlier < name ∧ camelized earlier = camelized name) ∧
      (clashes s c method = [] ↔ (m.parameters.names.map camelized).Nodup) := by
  refine ⟨filter_findings_clash s c, ?_, fun method m hm => ?_⟩
  · rintro f hf hcode
    obtain ⟨i, -, rfl⟩ := List.mem_map.mp hf
    cases i <;> first | rfl | simp [Issue.finding, Issue.code] at hcode
  rw [clashes_eq c hm]
  exact ⟨length_clashes_sorted m.parameters,
    m.parameters.sorted_names_ascending.sublist (clashesAfter_sublist _ _),
    fun _ _ => mem_clashes_sorted m.parameters, fun _ => mem_taken_sorted m.parameters,
    clashes_sorted_eq_nil_iff m.parameters⟩

/-- A method with three parameters for one name in the code and one for a reserved word. -/
def forward : Method where
  parameters := ⟨[("chat_id_", .single "Int"), ("class", .single "Chat"), ("chat_id", .single "Int"),
    ("chat__id", .single "Chat")], by simp⟩
  result := .single "Bool"

def forwards : Schema where
  types := .empty
  methods := ⟨[("forward", forward)], by simp⟩
  sourceFile := none

theorem clashes_of_forward :
    clashes forwards .usual "forward" = [("chat__id", "chat_id"), ("chat_id", "chat_id_")] ∧
      (allMethodIssues forwards .usual).length = 5 ∧
      (codeNames forward.parameters.names).card = 2 ∧
      Nearest forward.parameters.names "chat_id" "chat_id_" := by
  have hm : ("forward", forward) ∈ forwards.methods.toList := by simp [forwards]
  have hc : clashes forwards .usual "forward" = [("chat__id", "chat_id"), ("chat_id", "chat_id_")] :=
    by decide
  obtain ⟨-, -, hmethod⟩ := clashes_exact forwards .usual
  obtain ⟨hcount, -, hnearest, -⟩ := hmethod "forward" forward hm
  rw [hc] at hcount hnearest
  have hsize : forward.parameters.size = 4 := rfl
  refine ⟨hc, by decide, ?_, (hnearest _ _).mp (by simp)⟩
  rw [hsize, List.length_cons, List.length_singleton] at hcount
  omega

end Validation
end ClientGen
