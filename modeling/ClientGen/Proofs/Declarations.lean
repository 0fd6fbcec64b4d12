import ClientGen.Proofs.Templates
import ClientGen.Validation.Types

/-! The variables that a struct declares: each part of its text that starts as a declaration is for
one of its members. -/

namespace ClientGen
namespace Validation

/-- The names of the members that the struct of a type declares. -/
def memberNames (c : Config) (type : String) (t : TypeDef) : List String :=
  structMembers ++ (accessible t).map (Code.accessorName c type)

end Validation

namespace Code

/-- Whether a part of a struct declares a variable. -/
def isVariable (part : String) : Bool :=
  "    public var ".toList.isPrefixOf part.toList ||
    "    internal var ".toList.isPrefixOf part.toList

/-- The declaration of a variable: its access, its name, and the rest from the type on. -/
structure Declaration where
  access : String
  name : String
  rest : String

/-- The part of a struct that starts with the declaration. -/
def Declaration.part (d : Declaration) : String :=
  Text.indent (d.access ++ " var " ++ d.name ++ ": " ++ d.rest) 1 4

theorem isVariable_part (name rest : String) :
    isVariable (Declaration.part ⟨"public", name, rest⟩) = true := by
  obtain ⟨more, h⟩ := Text.indent_append "public var ".toList (name ++ (": " ++ rest))
    (by decide) (by decide)
  have hp : Declaration.part ⟨"public", name, rest⟩ = "    " ++ "public var " ++ more := by
    simpa [Declaration.part, String.append_assoc] using h
  simp [hp, isVariable, List.isPrefixOf]

/-- A variable with a body is declared with an opening brace behind its type. -/
theorem opened_eq_declared (accessor type : String) :
    Accessor.opened accessor type = Accessor.declared accessor (type ++ " \x7b") := by
  simp [Accessor.opened, Accessor.declared, String.append_assoc]

/-- A template fails under all names of the accessor or under none, and then only the declaration on its
first line depends on the name. -/
theorem exists_body (k : Kind) (key : String) (f : Field) :
    (∃ e, ∀ accessor, Accessor.lines k accessor key f = .error e) ∨
      ∃ rest more, ∀ accessor,
        Accessor.lines k accessor key f = .ok (Accessor.declared accessor rest :: more) := by
  have hopened (type : String) (more : List String) : ∃ rest more', ∀ accessor,
      (.ok (Accessor.opened accessor type :: more) : Except Fault (List String)) =
        .ok (Accessor.declared accessor rest :: more') :=
    ⟨type ++ " \x7b", more, fun accessor => by rw [opened_eq_declared]⟩
  cases k with
  | scalar =>
    cases hs : stem? f.type with
    | none => exact .inl ⟨.noScalar f.type, fun accessor => by simp only [Accessor.lines, hs]⟩
    | some stem =>
      simp only [Accessor.lines, hs]
      exact .inr (hopened _ _)
  | selfBridging =>
    refine .inr ⟨f.type ++ if f.isOptional then "? = nil" else "", [], fun accessor => ?_⟩
    simp [Accessor.lines, Accessor.selfBridging, Accessor.declared, String.append_assoc]
  | nestedObject =>
    simp only [Accessor.lines, Accessor.nestedObject]
    split
    · exact .inr (hopened _ _)
    · exact .inr (hopened _ _)
  | dateOptional => exact .inr (hopened _ _)
  | dateRequired => exact .inr (hopened _ _)
  | arrayOfArrayOptional => exact .inr (hopened _ _)
  | arrayOfArrayRequired => exact .inr (hopened _ _)
  | arrayOptional => exact .inr (hopened _ _)
  | arrayRequired => exact .inr (hopened _ _)
  | variantContent => exact .inr (hopened _ _)

/-- The lines of a template start with the declaration of the accessor. -/
theorem lines_declared {k : Kind} {accessor key : String} {f : Field} {ls : List String}
    (h : Accessor.lines k accessor key f = .ok ls) :
    ∃ rest more, ls = Accessor.declared accessor rest :: more := by
  rcases exists_body k key f with ⟨e, he⟩ | ⟨rest, more, hbody⟩
  · rw [he] at h
    cases h
  · rw [hbody] at h
    exact ⟨rest, more, (Except.ok.inj h).symm⟩

/-- The accessor of a field declares a variable with the accessor's name. -/
theorem accessor_declares {c : Config} {owner : String} {p : String × Field} {part : String}
    (h : accessor c owner p = .ok part) :
    ∃ rest, part = Declaration.part ⟨"public", accessorName c owner p, rest⟩ := by
  obtain ⟨k, ls, hls, rfl⟩ := lines_of_accessor h
  obtain ⟨rest, more, rfl⟩ := lines_declared hls
  obtain ⟨rest', hr⟩ := Text.unlines_cons (Accessor.declared (accessorName c owner p) rest) more
  refine ⟨rest ++ rest', ?_⟩
  rw [hr]
  simp [Declaration.part, Accessor.declared, String.append_assoc]

/-- The accessors of a type declare one variable for each field that is not always true. -/
theorem accessors_declare {c : Config} {owner : String} {fields : List (String × Field)}
    {parts : List String} (h : accessors c owner fields = .ok parts) :
    ∃ ds : List Declaration, parts.filter isVariable = ds.map Declaration.part ∧
      ds.map Declaration.name =
        (fields.filter fun p => !isLiteralTrue p.2).map (accessorName c owner) := by
  induction fields generalizing parts with
  | nil =>
    cases h
    exact ⟨[], rfl, rfl⟩
  | cons p rest ih =>
    cases ht : isLiteralTrue p.2 with
    | true =>
      rw [accessors, if_pos ht] at h
      obtain ⟨ds, hparts, hnames⟩ := ih h
      exact ⟨ds, hparts, by simp [ht, hnames]⟩
    | false =>
      obtain ⟨part, others, ha, ho, rfl⟩ := (accessors_cons_ok_iff ht).mp h
      obtain ⟨ds, hparts, hnames⟩ := ih ho
      obtain ⟨tail, rfl⟩ := accessor_declares ha
      have hempty : isVariable "" = false := rfl
      refine ⟨⟨"public", accessorName c owner p, tail⟩ :: ds, ?_, by simp [ht, hnames]⟩
      simp [isVariable_part, hempty, hparts]

theorem filter_structHead (name : String) :
    (structHead name).filter isVariable =
      ["    public var json: Any \x7b", "    internal var internalJson: JSON"] := by
  simp [structHead, isVariable, List.isPrefixOf]

theorem filter_structTail (defaults : String) : (structTail defaults).filter isVariable = [] := by
  simp [structTail, isVariable, List.isPrefixOf]

/-- The parts of a struct that declare variables are for its member names, in order. -/
theorem structText_declares {c : Config} {type : String} {t : TypeDef} {text : String}
    (h : structText c type t = .ok text) :
    ∃ (members : List String) (ds : List Declaration),
      accessors c type t.fields.sorted = .ok members ∧
      text = Text.unlines
        (structHead type ++ members ++ structTail (defaultsLiteral t.fields.sorted)) ∧
      (structHead type ++ members ++ structTail (defaultsLiteral t.fields.sorted)).filter
        isVariable = ds.map Declaration.part ∧
      ds.map Declaration.name = Validation.memberNames c type t := by
  obtain ⟨members, hm, rfl⟩ := structText_ok_iff.mp h
  obtain ⟨ds, hparts, hnames⟩ := accessors_declare hm
  refine ⟨members, ⟨"public", "json", "Any \x7b"⟩ :: ⟨"internal", "internalJson", "JSON"⟩ :: ds,
    hm, rfl, ?_, ?_⟩
  · rw [List.filter_append, List.filter_append, filter_structHead, filter_structTail, hparts]
    simp only [List.append_nil, List.map_cons]
    rfl
  · simp [hnames, Validation.memberNames, Validation.structMembers, Validation.accessible]

end Code
end ClientGen
