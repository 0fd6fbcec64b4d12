import ClientGen.Proofs.Readings
import Mathlib.Data.List.TakeWhile

/-! Settings in normal form. Whatever settings are read and then assigned to, they meet all constraints
that are declared for them but one: a file extension of points only is accepted and becomes empty. As
long as it is not the last one given, the settings are read back from what they are written as. -/

namespace ClientGen

open Record (Proper)
open Text.Utf8 (Encodable)

/-- The constraints on settings that no reading and no assignment breaks. -/
structure Config.Guarded (c : Config) : Prop where
  noPoint : c.fileExtension.toList.head? ≠ some '.'
  encodable : Encodable c.fileExtension
  clientType : Proper c.clientType
  generatorName : Proper c.generatorName
  variantLead : Proper c.variantLead
  renameRules : ∀ r ∈ c.renameRules, Proper r.fieldName ∧ Proper r.accessor

/-- All constraints that are declared for settings. -/
structure Config.Normal (c : Config) : Prop extends c.Guarded where
  fileExtension : c.fileExtension ≠ ""

namespace Record

/-! ## Points in front -/

theorem head?_withoutPoints (s : String) : (withoutPoints s).toList.head? ≠ some '.' := by
  rw [withoutPoints, String.toList_ofList]
  have h := List.head?_dropWhile_not (fun ch => ch == '.') s.toList
  intro he
  simp [he] at h

theorem withoutPoints_eq_empty_iff {s : String} :
    withoutPoints s = "" ↔ ∀ ch ∈ s.toList, ch = '.' := by
  rw [withoutPoints, String.ofList_eq_empty_iff, List.dropWhile_eq_nil_iff]
  simp

theorem withoutPoints_eq_self {s : String} (h : s.toList.head? ≠ some '.') :
    withoutPoints s = s := by
  rw [withoutPoints, ← String.toList_inj, String.toList_ofList]
  cases hs : s.toList with
  | nil => rfl
  | cons ch rest =>
    have hc : ch ≠ '.' := fun e => h (by simp [hs, e])
    exact List.dropWhile_cons_of_neg (by simpa using hc)

/-- Points are no surrogates, so a text may lose them. -/
theorem encodable_withoutPoints {s : String} (h : Encodable s) : Encodable (withoutPoints s) := by
  intro n hn
  rw [withoutPoints, String.toList_ofList] at hn
  refine h n ?_
  generalize s.toList = cs at hn ⊢
  induction cs with
  | nil => exact hn
  | cons ch rest ih =>
    by_cases hc : ch = '.'
    · rw [List.dropWhile_cons_of_pos (by simp [hc])] at hn
      rw [Text.codePoints_cons (by simp [hc, Text.mark])]
      exact List.mem_cons_of_mem _ (ih hn)
    · rwa [List.dropWhile_cons_of_neg (by simpa using hc)] at hn

/-! ## What is read back -/

theorem nonempty_text_iff {s : String} : nonempty (.text s) = .ok s ↔ Proper s := by
  simp [nonempty_ok_iff, text_text]

theorem extension_text_iff {s : String} :
    extension (.text s) = .ok s ↔ Proper s ∧ s.toList.head? ≠ some '.' := by
  simp only [extension_ok_iff, nonempty_ok_iff, text_text, Except.ok.injEq]
  constructor
  · rintro ⟨t, ⟨rfl, hs⟩, he⟩
    exact ⟨hs, he ▸ head?_withoutPoints _⟩
  · rintro ⟨hs, hp⟩
    exact ⟨s, ⟨rfl, hs⟩, (withoutPoints_eq_self hp).symm⟩

theorem rule_ruleValue_iff {r : RenameRule} :
    rule (ruleValue r) = .ok r ↔ Proper r.fieldName ∧ Proper r.accessor := by
  simp only [rule_ok_iff, ruleValue, Value.map.injEq, exists_eq_left']
  simp [required_ok_iff, withDefault_ok_iff, find?_text_cons, nonempty_text_iff,
    optional_textOrNull, strays, ruleNames]

/-- Settings are read back from what they are written as just if they meet their constraints. -/
theorem config_configValue_iff {c : Config} : config (configValue c) = .ok c ↔ c.Normal := by
  have hb : bool (.bool c.strict) = .ok c.strict := rfl
  have hl : list text (.list (c.selfBridging.map .text)) = .ok c.selfBridging :=
    list_map_iff.mpr fun s _ => text_text s
  have hread : config (configValue c) = .ok c ↔
      (Proper c.fileExtension ∧ c.fileExtension.toList.head? ≠ some '.') ∧ Proper c.clientType ∧
        Proper c.generatorName ∧ Proper c.variantLead ∧
        ∀ r ∈ c.renameRules, Proper r.fieldName ∧ Proper r.accessor := by
    simp only [config_ok_iff, configValue, Value.map.injEq, exists_eq_left']
    simp [withDefault_ok_iff, find?_text_cons, text_text, hb, hl, nonempty_text_iff,
      extension_text_iff, list_map_iff, rule_ruleValue_iff, strays, configNames]
  rw [hread]
  constructor
  · rintro ⟨⟨he, hp⟩, hc, hg, hv, hr⟩
    exact ⟨⟨hp, he.encodable, hc, hg, hv, hr⟩, he.ne_empty⟩
  · rintro ⟨⟨hp, hs, hc, hg, hv, hr⟩, he⟩
    exact ⟨⟨⟨he, hs⟩, hp⟩, hc, hg, hv, hr⟩

/-! ## What is read -/

theorem noPoint_of_extension {v : Value} {e : String} (h : extension v = .ok e) :
    e.toList.head? ≠ some '.' ∧ Encodable e := by
  obtain ⟨s, hs, rfl⟩ := extension_ok_iff.mp h
  exact ⟨head?_withoutPoints s, encodable_withoutPoints (nonempty_ok_iff.mp hs).2.encodable⟩

theorem proper_of_nonempty {v : Value} {s : String} (h : nonempty v = .ok s) : Proper s :=
  (nonempty_ok_iff.mp h).2

theorem named_of_rule {v : Value} {r : RenameRule} (h : rule v = .ok r) :
    Proper r.fieldName ∧ Proper r.accessor := by
  obtain ⟨entries, -, ⟨hf, ha, -, -⟩, -⟩ := rule_ok_iff.mp h
  obtain ⟨_, -, hf⟩ := required_ok_iff.mp hf
  obtain ⟨_, -, ha⟩ := required_ok_iff.mp ha
  exact ⟨proper_of_nonempty hf, proper_of_nonempty ha⟩

theorem named_of_rules {v : Value} {rs : List RenameRule} (h : list rule v = .ok rs) :
    ∀ r ∈ rs, Proper r.fieldName ∧ Proper r.accessor := by
  intro r hr
  obtain ⟨w, hw⟩ := of_mem_list h hr
  exact named_of_rule hw

/-- Settings that are read meet all constraints but that on the length of the extension. -/
theorem guarded_of_config {v : Value} {c : Config} (h : config v = .ok c) : c.Guarded := by
  obtain ⟨entries, -, ⟨-, he, hc, hg, -, hl, -, hr⟩, -⟩ := config_ok_iff.mp h
  have stated {name usual s : String} (hu : Proper usual)
      (hs : withDefault entries name nonempty usual = .ok s) : Proper s :=
    withDefault_of_forall hu (fun _ _ => proper_of_nonempty) hs
  obtain ⟨hp, hs⟩ := withDefault_of_forall (p := fun e => e.toList.head? ≠ some '.' ∧ Encodable e)
    (by decide) (fun _ _ => noPoint_of_extension) he
  refine ⟨hp, hs, stated (by decide) hc, stated (by decide) hg, stated (by decide) hl, ?_⟩
  exact withDefault_of_forall (p := fun rs => ∀ r ∈ rs, Proper r.fieldName ∧ Proper r.accessor)
    (by decide) (fun _ _ => named_of_rules) hr

/-- The text that a value states for the extension of the files. -/
def statedExtension? : Value → Option String
  | .map entries =>
    (Value.find? (.text "file_extension") entries).bind fun w => (nonempty w).toOption
  | _ => none

theorem extension_of_config {v : Value} {c : Config} (h : config v = .ok c) :
    c.fileExtension = ((statedExtension? v).map withoutPoints).getD Config.usual.fileExtension := by
  obtain ⟨entries, rfl, ⟨-, he, -⟩, -⟩ := config_ok_iff.mp h
  rcases withDefault_ok_iff.mp he with ⟨w, hf, hw⟩ | ⟨hf, hu⟩
  · obtain ⟨s, hs, he⟩ := extension_ok_iff.mp hw
    simp [statedExtension?, hf, hs, he, Except.toOption]
  · simp [statedExtension?, hf, hu]

/-! ## What is assigned -/

theorem assigned_ok_iff {α β : Type} {name : String} {r : Reader α} {v : Value} {set : α → β} {b : β} :
    assigned name r v set = .ok b ↔ ∃ a, r v = .ok a ∧ set a = b := by
  unfold assigned
  cases r v <;> simp [under]

variable {c c' : Config} {name : String} {v : Value}

/-- An accepted assignment gives a new extension, without the points in front, or keeps the extension
and all other constraints. -/
theorem assignConfig_cases (h : assignConfig c name v = .ok c') :
    (name = "file_extension" ∧ ∃ s, nonempty v = .ok s ∧
      c' = { c with fileExtension := withoutPoints s }) ∨
    (name ≠ "file_extension" ∧ c'.fileExtension = c.fileExtension ∧ (c.Guarded → c'.Guarded)) := by
  by_cases hn : name = "file_extension"
  · subst hn
    obtain ⟨e, he, rfl⟩ := assigned_ok_iff.mp (show assigned _ extension v _ = _ from h)
    obtain ⟨s, hs, rfl⟩ := extension_ok_iff.mp he
    exact .inl ⟨rfl, s, hs, rfl⟩
  · refine .inr ⟨hn, ?_⟩
    unfold assignConfig at h
    repeat' split at h
    · obtain ⟨a, -, rfl⟩ := assigned_ok_iff.mp h
      exact ⟨rfl, fun hc =>
        ⟨hc.noPoint, hc.encodable, hc.clientType, hc.generatorName, hc.variantLead, hc.renameRules⟩⟩
    · next he => exact absurd (eq_of_beq he) hn
    · obtain ⟨a, ha, rfl⟩ := assigned_ok_iff.mp h
      exact ⟨rfl, fun hc => { hc with clientType := proper_of_nonempty ha }⟩
    · obtain ⟨a, ha, rfl⟩ := assigned_ok_iff.mp h
      exact ⟨rfl, fun hc => { hc with generatorName := proper_of_nonempty ha }⟩
    · obtain ⟨a, -, rfl⟩ := assigned_ok_iff.mp h
      exact ⟨rfl, fun hc => { hc with }⟩
    · obtain ⟨a, ha, rfl⟩ := assigned_ok_iff.mp h
      exact ⟨rfl, fun hc => { hc with variantLead := proper_of_nonempty ha }⟩
    · obtain ⟨a, -, rfl⟩ := assigned_ok_iff.mp h
      exact ⟨rfl, fun hc => { hc with }⟩
    · obtain ⟨a, ha, rfl⟩ := assigned_ok_iff.mp h
      exact ⟨rfl, fun hc => { hc with renameRules := named_of_rules ha }⟩
    · cases h

/-- The text that an accepted assignment gives to the extension of the files. -/
def givenExtension? (name : String) (v : Value) : Option String :=
  if name = "file_extension" then (nonempty v).toOption else none

/-- The record after an assignment; a refused one leaves it as it is. -/
def Instance.next (i : Instance) (name : String) (v : Value) : Instance :=
  (i.assign name v).toOption.getD i

/-- The record after assignments one after the other. -/
def Instance.after (i : Instance) (as : List (String × Value)) : Instance :=
  as.foldl (fun i a => i.next a.1 a.2) i

theorem assign_extension (c : Config) (v : Value) :
    (Instance.config c).assign "file_extension" v =
      (assigned "file_extension" extension v fun e => { c with fileExtension := e }).map .config :=
  rfl

theorem assign_config_ok {i : Instance} (h : (Instance.config c).assign name v = .ok i) :
    ∃ c', i = .config c' ∧ assignConfig c name v = .ok c' := by
  unfold Instance.assign at h
  split at h
  · cases h
  · cases hc : assignConfig c name v with
    | error e => simp [hc, Except.map] at h
    | ok c' =>
      simp only [hc, Except.map, Except.ok.injEq] at h
      exact ⟨c', h.symm, rfl⟩

/-- A refused assignment gives no extension. -/
theorem givenExtension?_of_refused {e : Refusal} (h : (Instance.config c).assign name v = .error e) :
    givenExtension? name v = none := by
  unfold givenExtension?
  split
  · next hn =>
    subst hn
    rw [assign_extension] at h
    cases hs : nonempty v with
    | error fs => rfl
    | ok s => simp [assigned, under, extension_ok_iff.mpr ⟨s, hs, rfl⟩, Except.map] at h
  · rfl

theorem next_config (hc : c.Guarded) (name : String) (v : Value) :
    ∃ c' : Config, (Instance.config c).next name v = .config c' ∧ c'.Guarded ∧
      c'.fileExtension = ((givenExtension? name v).map withoutPoints).getD c.fileExtension := by
  unfold Instance.next
  cases h : (Instance.config c).assign name v with
  | error e => exact ⟨c, rfl, hc, by rw [givenExtension?_of_refused h]; rfl⟩
  | ok i =>
    obtain ⟨c', rfl, hc'⟩ := assign_config_ok h
    rcases assignConfig_cases hc' with ⟨rfl, s, hs, rfl⟩ | ⟨hn, he, hg⟩
    · have hstated := encodable_withoutPoints (proper_of_nonempty hs).encodable
      exact ⟨_, rfl, { hc with noPoint := head?_withoutPoints s, encodable := hstated }, by
        simp [givenExtension?, hs, Except.toOption]⟩
    · exact ⟨c', rfl, hg hc, by simp [givenExtension?, hn, he]⟩

/-- After any assignments the extension is the last one given, without the points in front. -/
theorem after_config (hc : c.Guarded) (as : List (String × Value)) :
    ∃ c' : Config, (Instance.config c).after as = .config c' ∧ c'.Guarded ∧
      c'.fileExtension = ((as.filterMap fun a => givenExtension? a.1 a.2).getLast?.map
        withoutPoints).getD c.fileExtension := by
  -- each step starts from other settings, so what they meet is carried along with the extension
  induction as generalizing c with
  | nil => exact ⟨c, rfl, hc, rfl⟩
  | cons a as ih =>
    obtain ⟨c₁, hnext, hc₁, he₁⟩ := next_config hc a.1 a.2
    obtain ⟨c', hafter, hc', he'⟩ := ih hc₁
    refine ⟨c', by rw [← hafter, ← hnext]; rfl, hc', ?_⟩
    rw [he', he₁]
    cases hg : givenExtension? a.1 a.2 with
    | none => simp [hg]
    | some s =>
      simp only [List.filterMap_cons, hg, List.getLast?_cons]
      cases (as.filterMap fun a => givenExtension? a.1 a.2).getLast? <;> rfl

/-- The texts that are accepted for the extension of the files, in their order. -/
def givenExtensions (v : Value) (as : List (String × Value)) : List String :=
  (statedExtension? v).toList ++ as.filterMap fun a => givenExtension? a.1 a.2

/-- Settings that are read and then assigned to, whether the assignments are accepted or not, meet all
declared constraints, and are read back from what they are written as, just if the last text that was
accepted for the extension of the files is not made of points only. The other constraints hold in any
case, and a refused assignment changes nothing. -/
theorem settings_normal_iff {v : Value} {c : Config} (h : config v = .ok c)
    (as : List (String × Value)) :
    ∃ now : Config, (Instance.config c).after as = .config now ∧
      now.fileExtension = ((givenExtensions v as).getLast?.map withoutPoints).getD
        Config.usual.fileExtension ∧
      now.Guarded ∧
      (now.Normal ↔ ¬ ∃ s, (givenExtensions v as).getLast? = some s ∧ ∀ ch ∈ s.toList, ch = '.') ∧
      (config (configValue now) = .ok now ↔ now.Normal) ∧
      ∀ name w e, (Instance.config now).assign name w = .error e →
        (Instance.config c).after (as ++ [(name, w)]) = .config now := by
  obtain ⟨now, hafter, hg, he⟩ := after_config (guarded_of_config h) as
  have hlast : now.fileExtension = ((givenExtensions v as).getLast?.map withoutPoints).getD
      Config.usual.fileExtension := by
    rw [he, extension_of_config h, givenExtensions, List.getLast?_append]
    cases (as.filterMap fun a => givenExtension? a.1 a.2).getLast? <;>
      cases statedExtension? v <;> rfl
  refine ⟨now, hafter, hlast, hg, ?_, config_configValue_iff, fun name w e hw => ?_⟩
  · have hnormal : now.Normal ↔ now.fileExtension ≠ "" := ⟨fun h => h.fileExtension, fun h => ⟨hg, h⟩⟩
    rw [hnormal, hlast]
    cases (givenExtensions v as).getLast? with
    | none => simp [Config.usual]
    | some s => simp [withoutPoints_eq_empty_iff]
  · have hsnoc : (Instance.config c).after (as ++ [(name, w)]) =
        ((Instance.config c).after as).next name w := by
      rw [Instance.after, List.foldl_append]
      rfl
    rw [hsnoc, hafter, Instance.next, hw]
    rfl

/-- An extension of points only is replaced by another one, and the assignments of an empty one and of
one that is no text are refused. -/
theorem settings_normal_kt :
    let v : Value := .map [(.text "file_extension", .text "."), (.text "strict", .text "off")]
    let as : List (String × Value) := [("file_extension", .text ""), ("file_extension", .text "..kt"),
      ("client_type", .int 7)]
    let now : Config := { Config.usual with fileExtension := "kt", strict := false }
    config v = .ok { Config.usual with fileExtension := "", strict := false } ∧
      (Instance.config { Config.usual with fileExtension := "", strict := false }).after as =
        .config now ∧
      now.Normal ∧ config (configValue now) = .ok now := by
  intro v as now
  have hread : config v = .ok { Config.usual with fileExtension := "", strict := false } := rfl
  obtain ⟨now', hafter, -, -, hnormal, hback, -⟩ := settings_normal_iff hread as
  have hnow : (Instance.config { Config.usual with fileExtension := "", strict := false }).after as =
      .config now := rfl
  obtain rfl : now' = now := by
    rw [hnow] at hafter
    cases hafter
    rfl
  have hn : now.Normal := hnormal.mpr (by
    have hlast : (givenExtensions v as).getLast? = some "..kt" := rfl
    simp [hlast])
  exact ⟨hread, hnow, hn, hback.mpr hn⟩

/-- An extension of points only is accepted and leaves none. -/
theorem settings_not_always_normal :
    ¬ ∀ (v : Value) (c now : Config) (as : List (String × Value)), config v = .ok c →
      (Instance.config c).after as = .config now → now.Normal := by
  intro h
  have hn := h (.map [(.text "file_extension", .text ".")]) { Config.usual with fileExtension := "" }
    { Config.usual with fileExtension := "" } [] rfl rfl
  exact hn.fileExtension rfl

end Record
end ClientGen
