import ClientGen.Proofs.Members
import ClientGen.Proofs.Sequences
import Mathlib

/-! Wire names of small words. Where each word between underlines starts with a small letter and goes
on with small letters and digits, the name in the code tells the wire name: its capitals are where the
underlines were. So no two such names meet in the code, neither among the parameters of a method nor
among the fields of a type. -/

namespace ClientGen

/-- Joined parts are the first one and then each other one behind a separator. -/
theorem Text.join_cons (sep : Char) (part : List Char) (parts : List (List Char)) :
    join sep (part :: parts) = part ++ parts.flatMap (sep :: ·) := by
  induction parts generalizing part with
  | nil => simp [join]
  | cons next rest ih => simp [join, ih]

namespace Identifier

open Text

/-! ## Names of small words -/

/-- A small letter or a digit of ASCII. -/
def isSmall (c : Char) : Bool :=
  c.isLower || c.isDigit

/-- A small letter, and then small letters and digits. -/
def isWireWord : List Char → Bool
  | [] => false
  | c :: rest => c.isLower && rest.all isSmall

/-- Such words, at least one, with an underline between each two. -/
def IsWireName (s : String) : Prop :=
  ∃ words, words ≠ [] ∧ (∀ w ∈ words, isWireWord w = true) ∧ s.toList = join '_' words

theorem isWireWord_iff {w : List Char} :
    isWireWord w = true ↔ ∃ c rest, w = c :: rest ∧ c.isLower = true ∧ ∀ d ∈ rest, isSmall d = true := by
  cases w with
  | nil => simp [isWireWord]
  | cons c rest => simp [isWireWord]

theorem isSmall_of_mem_wireWord {w : List Char} (h : isWireWord w = true) :
    ∀ d ∈ w, isSmall d = true := by
  obtain ⟨c, rest, rfl, hc, hrest⟩ := isWireWord_iff.mp h
  exact List.forall_mem_cons.mpr ⟨by simp [isSmall, hc], hrest⟩

theorem isAlphanum_of_isSmall {c : Char} (h : isSmall c = true) : c.isAlphanum = true := by
  rcases (Bool.or_eq_true _ _).mp h with hl | hd
  · simp [Char.isAlphanum, Char.isAlpha, hl]
  · simp [Char.isAlphanum, hd]

theorem isUpper_of_isSmall {c : Char} (h : isSmall c = true) : c.isUpper = false := by
  rcases (Bool.or_eq_true _ _).mp h with hl | hd
  · exact Bool.eq_false_iff.mpr (Char.not_isUpper_of_isLower hl)
  · refine Bool.eq_false_iff.mpr fun hu => ?_
    have halpha : c.isAlpha = true := by simp [Char.isAlpha, hu]
    have hn := isDigit_of_isAlpha halpha
    exact absurd hd (by simp [hn])

theorem toNat_lt_of_isSmall {c : Char} (h : isSmall c = true) : c.toNat < 0x80 := by
  rcases (Bool.or_eq_true _ _).mp h with hl | hd
  · have hz : c.toNat ≤ 122 := of_decide_eq_true ((Bool.and_eq_true _ _).mp hl).2
    omega
  · have hnine : '9'.toNat = 57 := rfl
    have hdigit := (Char.isDigit_iff_toNat.mp hd).2
    omega

theorem ne_underline_of_isSmall {c : Char} (h : isSmall c = true) : c ≠ '_' := by
  rintro rfl
  exact absurd h (by decide)

/-- The words of such a name are the parts between its underlines. -/
theorem isWireName_iff {s : String} :
    IsWireName s ↔ ∀ w ∈ split '_' s.toList, isWireWord w = true := by
  constructor
  · rintro ⟨words, hne, hwords, hs⟩
    have hsep : ∀ w ∈ words, '_' ∉ w := fun w hw hm =>
      ne_underline_of_isSmall (isSmall_of_mem_wireWord (hwords w hw) _ hm) rfl
    rwa [hs, split_join hne hsep]
  · exact fun h => ⟨_, split_ne_nil _ _, h, (join_split _ _).symm⟩

instance (s : String) : Decidable (IsWireName s) :=
  decidable_of_iff _ isWireName_iff.symm

/-! ## From the code to the wire -/

/-- A capital as an underline and a small letter. -/
def spread (c : Char) : List Char :=
  if c.isUpper then ['_', c.toLower] else [c]

/-- The wire name for a name in the code. -/
def separated (s : String) : String :=
  String.ofList (s.toList.flatMap spread)

theorem lower_of_small {cs : List Char} (h : ∀ d ∈ cs, isSmall d = true) : lower cs = cs := by
  rw [lower_ascii fun d hd => toNat_lt_of_isSmall (h d hd)]
  refine (List.map_congr_left fun d hd => ?_).trans (List.map_id cs)
  exact Char.toLower_eq_of_not_isUpper (by simp [isUpper_of_isSmall (h d hd)])

theorem flatMap_spread_of_small {cs : List Char} (h : ∀ d ∈ cs, isSmall d = true) :
    cs.flatMap spread = cs := by
  induction cs with
  | nil => rfl
  | cons d rest ih =>
    obtain ⟨hd, hrest⟩ := List.forall_mem_cons.mp h
    simp [spread, isUpper_of_isSmall hd, ih hrest]

/-- A word behind another one starts with a capital. -/
theorem titled_of_wireWord {c : Char} {rest : List Char} (hc : c.isLower = true)
    (hrest : ∀ d ∈ rest, isSmall d = true) : titled (c :: rest) = c.toUpper :: rest := by
  have hsmall : isSmall c = true := by simp [isSmall, hc]
  rw [titled, upperChar_ascii (toNat_lt_of_isSmall hsmall), lower_of_small hrest,
    List.singleton_append]

theorem spread_toUpper {c : Char} (hc : c.isLower = true) : spread c.toUpper = ['_', c] := by
  have halpha : c.isAlpha = true := by simp [Char.isAlpha, hc]
  have hlower : c.toLower = c := Char.toLower_eq_of_not_isUpper (Char.not_isUpper_of_isLower hc)
  simp [spread, halpha, hlower]

theorem flatMap_spread_titled {w : List Char} (h : isWireWord w = true) :
    (titled w).flatMap spread = '_' :: w := by
  obtain ⟨c, rest, rfl, hc, hrest⟩ := isWireWord_iff.mp h
  simp [titled_of_wireWord hc hrest, spread_toUpper hc, flatMap_spread_of_small hrest]

theorem flatMap_spread_joinWords {words : List (List Char)} (h : ∀ w ∈ words, isWireWord w = true) :
    (joinWords words).flatMap spread = join '_' words := by
  cases words with
  | nil => rfl
  | cons first rest =>
    obtain ⟨hfirst, hrest⟩ := List.forall_mem_cons.mp h
    have hsmall := isSmall_of_mem_wireWord hfirst
    have hmore : (rest.flatMap titled).flatMap spread = rest.flatMap ('_' :: ·) := by
      rw [List.flatMap_assoc]
      exact List.flatMap_congr fun w hw => flatMap_spread_titled (hrest w hw)
    rw [joinWords, List.flatMap_append, lower_of_small hsmall, flatMap_spread_of_small hsmall, hmore,
      join_cons]

theorem separated_camelized {s : String} (h : IsWireName s) : separated (camelized s) = s := by
  rw [separated, camelized, String.toList_ofList, flatMap_spread_joinWords (isWireName_iff.mp h),
    join_split, String.ofList_toList]

/-- Different such names stay different in the code. -/
theorem camelized_injOn : Set.InjOn camelized {s | IsWireName s} := by
  have hinverse : Set.LeftInvOn separated camelized {s | IsWireName s} :=
    fun _ => separated_camelized
  exact hinverse.injOn

theorem isPart_of_isSmall {c : Char} (h : isSmall c = true) : isPart c = true := by
  simp [isPart, isAlphanum_of_isSmall h]

theorem isPart_of_mem_titled {w : List Char} (h : isWireWord w = true) :
    ∀ d ∈ titled w, isPart d = true := by
  obtain ⟨c, rest, rfl, hc, hrest⟩ := isWireWord_iff.mp h
  rw [titled_of_wireWord hc hrest]
  refine List.forall_mem_cons.mpr ⟨?_, fun d hd => isPart_of_isSmall (hrest d hd)⟩
  simp [isPart, Char.isAlphanum, Char.isAlpha, hc]

/-- The name in the code consists of letters and digits, the first of which is a small letter. -/
theorem isName_camelized {s : String} (h : IsWireName s) : IsName (camelized s) := by
  rw [← isWord_toList_iff, camelized, String.toList_ofList]
  have hwords := isWireName_iff.mp h
  cases hs : split '_' s.toList with
  | nil => exact absurd hs (split_ne_nil _ _)
  | cons first rest =>
    rw [hs] at hwords
    obtain ⟨hfirst, hrest⟩ := List.forall_mem_cons.mp hwords
    obtain ⟨c, more, rfl, hc, hmore⟩ := isWireWord_iff.mp hfirst
    rw [joinWords, lower_of_small (isSmall_of_mem_wireWord hfirst), List.cons_append, isWord,
      Bool.and_eq_true, List.all_append, Bool.and_eq_true, List.all_eq_true, List.all_eq_true]
    refine ⟨by simp [isStart, Char.isAlpha, hc], fun d hd => isPart_of_isSmall (hmore d hd), ?_⟩
    intro d hd
    obtain ⟨w, hw, hd⟩ := List.mem_flatMap.mp hd
    exact isPart_of_mem_titled (hrest w hw) d hd

theorem isIdentifier_camelized {s : String} (h : IsWireName s) :
    isIdentifier (camelized s) = true :=
  (isIdentifier_iff _).mpr (.inl (isName_camelized h))

end Identifier

namespace Validation

open Identifier

/-! ## Issues of one method -/

section Methods

variable {s : Schema} {c : Config} {method : String}

/-- The issues about a method are those that the check of this method finds. -/
theorem mem_allMethodIssues_iff {m : Method} (hm : (method, m) ∈ s.methods.toList) {i : Issue}
    (hi : i.method? = some method) : i ∈ allMethodIssues s c ↔ i ∈ methodIssues s c method m := by
  constructor
  · intro h
    obtain ⟨⟨name, m'⟩, hm', h⟩ := List.mem_flatMap.mp h
    obtain rfl : name = method := Option.some.inj ((method?_methodIssues h).symm.trans hi)
    obtain rfl := Table.eq_of_mem hm hm'
    exact h
  · exact fun h => List.mem_flatMap.mpr ⟨_, hm, h⟩

/-- No parameter has a name in the code that an earlier one took. -/
theorem parameterCollision?_eq_none {before : List String} {name : String} (hname : IsWireName name)
    (hbefore : ∀ b ∈ before, IsWireName b) (hnew : name ∉ before) :
    parameterCollision? method before name = none := by
  refine Option.map_eq_none_iff.mpr (List.find?_eq_none.mpr fun b hb he => hnew ?_)
  rwa [← camelized_injOn (hbefore b hb) hname (beq_iff_eq.mp he)]

theorem parameterNameIssue?_eq_some {name : String} {i : Issue} (hname : IsWireName name)
    (h : parameterNameIssue? method name = some i) : ∃ a, i = .parameterReserved method name a := by
  rcases parameterNameIssue_cases h with rfl | rfl
  · simp [parameterNameIssue?, isIdentifier_camelized hname] at h
  · exact ⟨_, rfl⟩

/-- Parameters with different wire names of small words can only be reserved words or have types that
are not known. -/
theorem parameterIssues_cases {before : List String} {ps : List (String × Field)} {i : Issue}
    (hw : ∀ name ∈ before ++ ps.map Prod.fst, IsWireName name)
    (hd : (before ++ ps.map Prod.fst).Nodup) (h : i ∈ parameterIssues s c method before ps) :
    (∃ p a, i = .parameterReserved method p a) ∨ ∃ p type, i = .parameterUnknown method p type := by
  induction ps generalizing before with
  | nil => simp [parameterIssues] at h
  | cons p rest ih =>
    rw [List.map_cons] at hw hd
    have hname : IsWireName p.1 := hw _ (by simp)
    have hnew : p.1 ∉ before ++ rest.map Prod.fst := (List.nodup_cons.mp (List.nodup_middle.mp hd)).1
    have hfree : parameterCollision? method before p.1 = none :=
      parameterCollision?_eq_none hname (fun b hb => hw b (List.mem_append_left _ hb))
        fun hb => hnew (List.mem_append_left _ hb)
    simp only [parameterIssues, hfree, Option.toList_none, List.append_nil, List.mem_append,
      Option.mem_toList] at h
    rcases h with (h | h) | h
    · obtain ⟨a, rfl⟩ := parameterNameIssue?_eq_some hname h
      exact .inl ⟨_, a, rfl⟩
    · exact .inr ⟨_, _, (parameterTypeIssue?_eq_some_iff.mp h).2.symm⟩
    · refine ih (fun name hn => hw name ?_) (List.nodup_middle.mp hd) h
      simp only [List.mem_append, List.mem_cons] at hn ⊢
      tauto

theorem methodIssues_cases {m : Method} {i : Issue}
    (hw : ∀ p ∈ m.parameters.toList, IsWireName p.1) (h : i ∈ methodIssues s c method m) :
    i = .methodInvalid method ∨ (∃ p a, i = .parameterReserved method p a) ∨
      (∃ p type, i = .parameterUnknown method p type) ∨ ∃ type, i = .resultUnknown method type := by
  have hnames : ∀ name ∈ [] ++ m.parameters.sorted.map Prod.fst, IsWireName name := by
    intro name hn
    obtain ⟨p, hp, rfl⟩ := List.mem_map.mp hn
    exact hw p (Table.mem_sorted.mp hp)
  have hnodup : ([] ++ m.parameters.sorted.map Prod.fst).Nodup :=
    m.parameters.sorted_names_ascending.imp fun h => ne_of_lt h
  simp only [methodIssues, List.mem_append, Option.mem_toList] at h
  rcases h with (h | h) | h
  · exact .inl (methodNameIssue?_eq_some_iff.mp h).2.symm
  · rcases parameterIssues_cases hnames hnodup h with hi | hi
    · exact .inr (.inl hi)
    · exact .inr (.inr (.inl hi))
  · exact .inr (.inr (.inr ⟨_, (resultIssue?_eq_some_iff.mp h).2.symm⟩))

/-- A method whose parameters have such names has no issue with what they are called in the code, but
for reserved words. -/
theorem parameters_distinct {m : Method} (hm : (method, m) ∈ s.methods.toList)
    (hw : ∀ p ∈ m.parameters.toList, IsWireName p.1) :
    (∀ p a, Issue.parameterInvalid method p a ∉ allMethodIssues s c) ∧
      ∀ earlier p a, Issue.parameterCollision method earlier p a ∉ allMethodIssues s c := by
  constructor
  · intro p a h
    rcases methodIssues_cases hw ((mem_allMethodIssues_iff hm rfl).mp h) with
      h | ⟨_, _, h⟩ | ⟨_, _, h⟩ | ⟨_, h⟩ <;> cases h
  · intro earlier p a h
    rcases methodIssues_cases hw ((mem_allMethodIssues_iff hm rfl).mp h) with
      h | ⟨_, _, h⟩ | ⟨_, _, h⟩ | ⟨_, h⟩ <;> cases h

end Methods

/-! ## Accessors of one type -/

section Types

variable {s : Schema} {c : Config} {type : String} {t : TypeDef}

theorem accessorName_of_no_rule (hc : c.renameRules = []) (p : String × Field) :
    Code.accessorName c type p = camelized p.1 := by
  simp [Code.accessorName, Config.accessorName, Config.rule?, hc]

/-- Without rules at most one field claims an accessor. -/
theorem fieldClaimants_eq_singleton (hc : c.renameRules = [])
    (hw : ∀ p ∈ t.fields.toList, IsWireName p.1) {accessor wire : String}
    (h : wire ∈ fieldClaimants c type t accessor) : fieldClaimants c type t accessor = [wire] := by
  have hsame : ∀ other ∈ fieldClaimants c type t accessor, other = wire := by
    intro other ho
    obtain ⟨f, hf, -, ha⟩ := (mem_fieldClaimants c type t).mp h
    obtain ⟨g, hg, -, hb⟩ := (mem_fieldClaimants c type t).mp ho
    rw [accessorName_of_no_rule hc] at ha hb
    exact camelized_injOn (hw _ hg) (hw _ hf) (hb.trans ha.symm)
  have hasc := fieldClaimants_ascending c type t accessor
  match hl : fieldClaimants c type t accessor with
  | [] => simp [hl] at h
  | [one] => rw [hsame one (by simp [hl])]
  | one :: two :: rest =>
    rw [hl] at hasc
    have hlt : one < two := (List.pairwise_cons.mp hasc).1 two (by simp)
    rw [hsame one (by simp [hl]), hsame two (by simp [hl])] at hlt
    exact absurd hlt (String.lt_irrefl wire)

/-- The members that every struct has are in the code what two wire names would be. -/
theorem camelized_mem_structMembers_iff {wire : String} (hw : IsWireName wire) :
    camelized wire ∈ structMembers ↔ wire = "json" ∨ wire = "internal_json" := by
  constructor
  · intro h
    rw [← separated_camelized hw]
    rcases List.mem_cons.mp h with h | h
    · rw [h]
      exact .inl (by decide)
    · rw [List.mem_singleton.mp h]
      exact .inr (by decide)
  · rintro (rfl | rfl) <;> decide

section Fields

variable (hc : c.renameRules = []) (ht : (type, t) ∈ s.types.toList)
  (hw : ∀ p ∈ t.fields.toList, IsWireName p.1)
include hc ht hw

/-- A type whose fields have such names gets identifiers as accessors. -/
theorem accessors_valid (field a : String) :
    Issue.accessorInvalid type field a ∉ fieldNameIssues s c := by
  intro h
  obtain ⟨⟨owner, t'⟩, ht', h⟩ := List.mem_flatMap.mp h
  rcases List.mem_append.mp h with h | h
  · obtain ⟨p, hp, h⟩ := List.mem_filterMap.mp h
    obtain ⟨hp, -⟩ := List.mem_filter.mp hp
    rcases accessorIssue_cases h with he | he <;> cases he
    obtain rfl := Table.eq_of_mem ht ht'
    have hid := isIdentifier_camelized (hw p (Table.mem_sorted.mp hp))
    rw [accessorIssue?, accessorName_of_no_rule hc] at h
    simp only [hid, Bool.not_true, Bool.false_eq_true, if_false] at h
    split at h <;> cases h
  · obtain ⟨q, -, h⟩ := List.mem_map.mp h
    cases h

/-- The only collisions of such accessors are those with the members that every struct has. -/
theorem mem_collisions_iff (q : String × List String) :
    q ∈ collisions s c type ↔ ∃ wire f, (wire, f) ∈ t.fields.toList ∧
      Code.isLiteralTrue f = false ∧ (wire = "json" ∨ wire = "internal_json") ∧
      q = (camelized wire, ["<generated>", wire]) := by
  obtain ⟨accessor, who⟩ := q
  rw [collisions_eq c ht, mem_contested, claimants_memberClaims]
  constructor
  · rintro ⟨rfl, hlen⟩
    -- at most one field claims the accessor, so another claimant is what every struct has
    cases hl : fieldClaimants c type t accessor with
    | nil =>
      rw [hl] at hlen
      split at hlen <;> simp at hlen
    | cons wire rest =>
      have hmem : wire ∈ fieldClaimants c type t accessor := by simp [hl]
      rw [fieldClaimants_eq_singleton hc hw hmem] at hl hlen
      obtain ⟨f, hf, htrue, ha⟩ := (mem_fieldClaimants c type t).mp hmem
      rw [accessorName_of_no_rule hc] at ha
      subst ha
      split at hlen
      · next hs =>
        have hwire := (camelized_mem_structMembers_iff (hw _ hf)).mp hs
        refine ⟨wire, f, hf, htrue, hwire, ?_⟩
        rw [if_pos hs, ← hl, List.singleton_append]
      · simp at hlen
  · rintro ⟨wire, f, hf, htrue, hwire, h⟩
    obtain ⟨rfl, rfl⟩ := Prod.mk.inj h
    have hmem : wire ∈ fieldClaimants c type t (camelized wire) :=
      (mem_fieldClaimants c type t).mpr ⟨f, hf, htrue, accessorName_of_no_rule hc _⟩
    rw [fieldClaimants_eq_singleton hc hw hmem,
      if_pos ((camelized_mem_structMembers_iff (hw _ hf)).mpr hwire)]
    exact ⟨rfl, le_rfl⟩

end Fields

end Types

/-- The wire name of small words can be told from the name in the code, which is an identifier. So the
parameters of a method with such names get different identifiers, and so do the fields of a type that no
rule renames, but for the two that have the names of members that every struct has. -/
theorem wire_names_kept_apart (s : Schema) (c : Config) :
    (∀ wire, IsWireName wire →
      separated (camelized wire) = wire ∧ isIdentifier (camelized wire) = true) ∧
    Set.InjOn camelized {wire | IsWireName wire} ∧
    (∀ name m, (name, m) ∈ s.methods.toList → (∀ p ∈ m.parameters.toList, IsWireName p.1) →
      (∀ p a, Issue.parameterInvalid name p a ∉ allMethodIssues s c) ∧
        ∀ earlier p a, Issue.parameterCollision name earlier p a ∉ allMethodIssues s c) ∧
    (c.renameRules = [] → ∀ type t, (type, t) ∈ s.types.toList →
      (∀ p ∈ t.fields.toList, IsWireName p.1) →
        (∀ field a, Issue.accessorInvalid type field a ∉ fieldNameIssues s c) ∧
          ∀ q, q ∈ collisions s c type ↔ ∃ wire f, (wire, f) ∈ t.fields.toList ∧
            Code.isLiteralTrue f = false ∧ (wire = "json" ∨ wire = "internal_json") ∧
            q = (camelized wire, ["<generated>", wire])) :=
  ⟨fun _ hw => ⟨separated_camelized hw, isIdentifier_camelized hw⟩, camelized_injOn,
    fun _ _ => parameters_distinct,
    fun hc _ _ ht hw => ⟨accessors_valid hc ht hw, mem_collisions_iff hc ht hw⟩⟩

/-- A type with a field for a member that every struct has, and a method. -/
def chat : Schema where
  types := ⟨[("Chat", ⟨⟨[("chat_id", ⟨"Int64", false, false, false⟩),
    ("internal_json", ⟨"String", false, false, false⟩)], by simp⟩⟩)], by simp⟩
  methods := ⟨[("getChat", ⟨⟨[("chat_id", ⟨"Int64", false, false, false⟩),
    ("message_thread_id2", ⟨"Int", false, false, true⟩)], by simp⟩,
      ⟨"Chat", false, false, false⟩⟩)], by simp⟩
  sourceFile := none

theorem wire_names_of_chat :
    separated (camelized "message_thread_id2") = "message_thread_id2" ∧
    (∀ p a, Issue.parameterInvalid "getChat" p a ∉ allMethodIssues chat .usual) ∧
    ("internalJson", ["<generated>", "internal_json"]) ∈
      collisions chat { Config.usual with renameRules := [] } "Chat" ∧
    ∀ field a, Issue.accessorInvalid "Chat" field a ∉
      fieldNameIssues chat { Config.usual with renameRules := [] } := by
  obtain ⟨names, -, methods, -⟩ := wire_names_kept_apart chat .usual
  obtain ⟨-, -, -, fields⟩ := wire_names_kept_apart chat { Config.usual with renameRules := [] }
  obtain ⟨invalid, collides⟩ := fields rfl "Chat" _ (List.mem_singleton.mpr rfl) (by decide)
  refine ⟨(names _ (by decide)).1, (methods "getChat" _ (List.mem_singleton.mpr rfl) (by decide)).1,
    (collides _).mpr ⟨"internal_json", _, List.mem_cons_of_mem _ (List.mem_singleton.mpr rfl),
      by decide, .inr rfl, by decide⟩, invalid⟩

end Validation
end ClientGen
