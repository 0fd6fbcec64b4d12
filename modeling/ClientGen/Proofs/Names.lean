import ClientGen.Proofs.Declarations
import ClientGen.Proofs.Issues

/-! Names where the generated code needs identifiers. The check of a name lets a line feed at its
end pass, so a schema without errors has identifiers there except for such a line feed. -/

namespace ClientGen
namespace Identifier

/-- A nonempty sequence of letters, digits and underlines of ASCII that does not start with a
digit. -/
def IsName (s : String) : Prop :=
  s.toList ≠ [] ∧ (∀ ch ∈ s.toList, ch.isAlphanum = true ∨ ch = '_') ∧
    ∀ ch, s.toList.head? = some ch → ch.isDigit = false

theorem isDigit_of_isAlpha {ch : Char} (h : ch.isAlpha = true) : ch.isDigit = false := by
  have hletter : 65 ≤ ch.toNat := by
    rcases (Bool.or_eq_true ch.isUpper ch.isLower).mp h with hu | hl
    · exact (of_decide_eq_true hu).1
    · have hlow : 97 ≤ ch.toNat := of_decide_eq_true ((Bool.and_eq_true _ _).mp hl).1
      omega
  cases hd : ch.isDigit with
  | false => rfl
  | true =>
    have hnine : '9'.toNat = 57 := rfl
    have hdigit := (Char.isDigit_iff_toNat.mp hd).2
    omega

theorem isStart_iff (ch : Char) :
    isStart ch = true ↔ (ch.isAlphanum = true ∨ ch = '_') ∧ ch.isDigit = false := by
  simp only [isStart, Char.isAlphanum, Bool.or_eq_true, beq_iff_eq]
  constructor
  · rintro (h | rfl)
    · exact ⟨.inl (.inl h), isDigit_of_isAlpha h⟩
    · exact ⟨.inr rfl, rfl⟩
  · rintro ⟨(h | h) | h, hd⟩
    · exact .inl h
    · rw [hd] at h
      cases h
    · exact .inr h

theorem isWord_toList_iff (s : String) : isWord s.toList = true ↔ IsName s := by
  unfold IsName
  cases s.toList with
  | nil => simp [isWord]
  | cons ch rest =>
    simp only [isWord, isPart, Bool.and_eq_true, isStart_iff, List.all_eq_true, Bool.or_eq_true,
      beq_iff_eq, List.forall_mem_cons, List.head?_cons, Option.some.injEq, forall_eq']
    constructor
    · rintro ⟨⟨hch, hd⟩, hrest⟩
      exact ⟨by simp, ⟨hch, hrest⟩, hd⟩
    · rintro ⟨-, ⟨hch, hrest⟩, hd⟩
      exact ⟨⟨hch, hd⟩, hrest⟩

/-- The check of an identifier passes names, and names with a line feed behind them. -/
theorem isIdentifier_iff (s : String) :
    isIdentifier s = true ↔ IsName s ∨ ∃ w, IsName w ∧ s = w ++ "\n" := by
  simp only [isIdentifier, Bool.or_eq_true, Bool.and_eq_true, beq_iff_eq, isWord_toList_iff]
  apply or_congr_right
  constructor
  · rintro ⟨hl, hw⟩
    obtain ⟨front, hf⟩ := List.getLast?_eq_some_iff.mp hl
    refine ⟨String.ofList front, ?_, ?_⟩
    · rw [← isWord_toList_iff, String.toList_ofList]
      simpa [hf] using hw
    · apply String.toList_injective
      simp [hf]
  · rintro ⟨w, hw, rfl⟩
    simpa [isWord_toList_iff] using hw

theorem IsName.no_line_feed {s : String} (h : IsName s) : '\n' ∉ s.toList := by
  intro hm
  rcases h.2.1 _ hm with hc | hc
  · exact absurd hc (by decide)
  · exact absurd hc (by decide)

/-- Among the texts that pass the check, names are those without line feed. -/
theorem isName_iff_of_isIdentifier {s : String} (h : isIdentifier s = true) :
    IsName s ↔ '\n' ∉ s.toList := by
  refine ⟨IsName.no_line_feed, fun hn => ?_⟩
  rcases (isIdentifier_iff s).mp h with hs | ⟨w, -, rfl⟩
  · exact hs
  · exact absurd (by simp) hn

end Identifier

namespace Validation

open Identifier

/-- The names that rendering puts where the generated code needs an identifier: those of structs,
accessors, methods and parameters. -/
inductive Emitted (s : Schema) (c : Config) : String → Prop
  | type {name : String} {t : TypeDef} (ht : (name, t) ∈ s.types.toList) : Emitted s c name
  | accessor {type : String} {t : TypeDef} {p : String × Field} (ht : (type, t) ∈ s.types.toList)
      (hp : p ∈ t.fields.toList) (hf : Code.isLiteralTrue p.2 = false) :
      Emitted s c (Code.accessorName c type p)
  | method {name : String} {m : Method} (hm : (name, m) ∈ s.methods.toList) : Emitted s c name
  | parameter {name : String} {m : Method} {p : String × Field}
      (hm : (name, m) ∈ s.methods.toList) (hp : p ∈ m.parameters.toList) :
      Emitted s c (camelized p.1)

/-- In a schema without errors each emitted name passes the check of identifiers. -/
theorem isIdentifier_of_emitted {s : Schema} {c : Config} {name : String}
    (h : (findings s c).isValid = true) (he : Emitted s c name) : isIdentifier name = true := by
  cases he with
  | type ht => exact isIdentifier_typeName h (List.mem_map.mpr ⟨_, ht, rfl⟩)
  | accessor ht hp hf =>
    exact isIdentifier_accessor h ht (List.mem_filter.mpr ⟨Table.mem_sorted.mpr hp, by simp [hf]⟩)
  | method hm => exact isIdentifier_methodName h hm
  | parameter hm hp => exact isIdentifier_parameter h hm (Table.mem_sorted.mpr hp)

/-- In a schema without errors an emitted name is one of the target language unless it has a line
feed, which then is its last character. So are the names of all variables that a struct declares. -/
theorem emitted_names_of_isValid {s : Schema} {c : Config} (h : (findings s c).isValid = true) :
    (∀ name, Emitted s c name → IsName name ∨ ∃ w, IsName w ∧ name = w ++ "\n") ∧
    (∀ name, Emitted s c name → (IsName name ↔ '\n' ∉ name.toList)) ∧
    ∀ type t text, (type, t) ∈ s.types.toList → Code.structText c type t = .ok text →
      ∃ (members : List String) (ds : List Code.Declaration),
        text = Text.unlines (Code.structHead type ++ members ++
          Code.structTail (Code.defaultsLiteral t.fields.sorted)) ∧
        (Code.structHead type ++ members ++
            Code.structTail (Code.defaultsLiteral t.fields.sorted)).filter Code.isVariable =
          ds.map Code.Declaration.part ∧
        ∀ d ∈ ds, d.name ∈ structMembers ∨ Emitted s c d.name := by
  refine ⟨fun name he => (isIdentifier_iff name).mp (isIdentifier_of_emitted h he),
    fun name he => isName_iff_of_isIdentifier (isIdentifier_of_emitted h he), ?_⟩
  intro type t text ht hx
  obtain ⟨members, ds, -, htext, hparts, hnames⟩ := Code.structText_declares hx
  refine ⟨members, ds, htext, hparts, fun d hd => ?_⟩
  have hm : d.name ∈ memberNames c type t := hnames ▸ List.mem_map.mpr ⟨d, hd, rfl⟩
  rcases List.mem_append.mp hm with hm | hm
  · exact .inl hm
  · obtain ⟨p, hp, he⟩ := List.mem_map.mp hm
    obtain ⟨hp, hf⟩ := List.mem_filter.mp hp
    exact .inr (he ▸ .accessor ht (Table.mem_sorted.mp hp) (by simpa using hf))

/-- A schema whose only type has a line feed behind its name. -/
def brokenUser : Schema where
  types := ⟨[("User\n", ⟨⟨[("first_name", ⟨"String", false, false, false⟩)], by simp⟩⟩)], by simp⟩
  methods := .empty
  sourceFile := none

theorem emitted_names_of_brokenUser :
    (findings brokenUser .usual).isValid = true ∧
      ∃ w, Identifier.IsName w ∧ "User\n" = w ++ "\n" := by
  have hv : (findings brokenUser .usual).isValid = true := by decide
  have he : Emitted brokenUser .usual "User\n" := .type (List.mem_singleton.mpr rfl)
  obtain ⟨hname, hiff, -⟩ := emitted_names_of_isValid hv
  refine ⟨hv, ?_⟩
  rcases hname _ he with hn | hw
  · exact absurd (by decide) ((hiff _ he).mp hn)
  · exact hw

/-- A name that is emitted for a schema without errors need not be one of the target language. -/
theorem emitted_not_isName :
    ¬ ∀ (s : Schema) (c : Config) (name : String), (findings s c).isValid = true →
      Emitted s c name → IsName name := by
  intro h
  have hn : IsName "User\n" :=
    h brokenUser .usual "User\n" (by decide) (.type (List.mem_singleton.mpr rfl))
  exact hn.no_line_feed (by decide)

end Validation
end ClientGen
