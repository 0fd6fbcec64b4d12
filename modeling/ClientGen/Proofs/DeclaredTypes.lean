import ClientGen.Code.Request
import ClientGen.Proofs.StructText

/-! The types that accessors declare. Each template spells the type of its field by itself, with what
the classification has found out about the field; all of them agree with the spelling in the
signatures of methods, but for sequences, which a struct always has. -/

namespace ClientGen
namespace Code

open Text

variable {c : Config} {f : Field} {k : Kind}

/-! ## Fields with a template -/

/-- Under strict settings the templates are those that there are for the fields. -/
theorem classify_probe_ok_iff {owner name : String} :
    classify c.probe owner name f = .ok k ↔ kind? c f = some k := by
  cases hk : kind? c f with
  | none => simp [classify, hk]
  | some k' => simp [classify, hk]

/-- The template for a field can be filled in, also the one that lenient settings take for want of
another. -/
theorem text_of_classify {owner name : String} (h : classify c owner name f = .ok k)
    (accessor key : String) : ∃ s, Accessor.text k accessor key f = .ok s := by
  cases hk : kind? c f with
  | some k' =>
    rw [classify_of_some owner name hk] at h
    obtain rfl := Except.ok.inj h
    exact text_of_kind accessor key hk
  | none =>
    rw [classify_of_none owner name hk] at h
    split at h
    · cases h
    · obtain rfl := Except.ok.inj h
      exact ⟨_, rfl⟩

/-! ## Spellings of types -/

/-- The type that the accessor of a field declares: a sequence that is absent is an empty one. -/
def declaredType (f : Field) : String :=
  typeName { f with isOptional := f.isOptional && !f.isSequence }

/-- A signature says of a sequence, too, whether it may be absent. -/
theorem typeName_eq_declaredType (f : Field) :
    typeName f = declaredType f ++ if f.isSequence && f.isOptional then "?" else "" := by
  obtain ⟨type, isArray, isNested, isOptional⟩ := f
  cases isArray <;> cases isNested <;> cases isOptional <;>
    simp [typeName, declaredType, Field.isSequence, isLiteralTrue, String.append_assoc]

theorem declaredType_single (ht : isLiteralTrue f = false) (hs : f.isSequence = false) :
    declaredType f = f.type ++ if f.isOptional then "?" else "" := by
  obtain ⟨hArray, hNested⟩ := Bool.or_eq_false_iff.mp hs
  have htype : (f.type == trueType) = false := ht
  simp [declaredType, typeName, isLiteralTrue, htype, Field.isSequence, hArray, hNested]

theorem declaredType_array (ht : isLiteralTrue f = false) (hn : f.isNested = false)
    (ha : f.isArray = true) : declaredType f = "[" ++ f.type ++ "]" := by
  have htype : (f.type == trueType) = false := ht
  simp [declaredType, typeName, isLiteralTrue, htype, Field.isSequence, hn, ha]

theorem declaredType_nested (ht : isLiteralTrue f = false) (hn : f.isNested = true) :
    declaredType f = "[[" ++ f.type ++ "]]" := by
  have htype : (f.type == trueType) = false := ht
  simp [declaredType, typeName, isLiteralTrue, htype, Field.isSequence, hn]

theorem unbroken_declaredType (ht : isLiteralTrue f = false) (h : Unbroken f.type) :
    Unbroken (declaredType f) := by
  have hmark : Unbroken (if f.isOptional then "?" else "") := by
    cases f.isOptional <;> decide
  cases hs : f.isSequence with
  | false =>
    rw [declaredType_single ht hs]
    exact unbroken_append.mpr ⟨h, hmark⟩
  | true =>
    cases hn : f.isNested with
    | true =>
      rw [declaredType_nested ht hn]
      simp +decide [h]
    | false =>
      have ha : f.isArray = true := by simpa [Field.isSequence, hn] using hs
      rw [declaredType_array ht hn ha]
      simp +decide [h]

/-! ## Declarations -/

/-- What stands behind the type in the declaration of an accessor. A field with a bridging of its own
needs no body. -/
def Kind.ending (f : Field) : Kind → String
  | .selfBridging => if f.isOptional then " = nil" else ""
  | _ => " \x7b"

theorem ending_mem (k : Kind) (f : Field) : k.ending f ∈ [" \x7b", " = nil", ""] := by
  cases k with
  | selfBridging =>
    unfold Kind.ending
    split <;> simp
  | _ => simp [Kind.ending]

/-- A template starts with the type as it is spelled everywhere. -/
theorem lines_of_fits (ht : isLiteralTrue f = false) (h : k.Fits f) (accessor key : String) :
    ∃ more, Accessor.lines k accessor key f =
      .ok (Accessor.declared accessor (declaredType f ++ k.ending f) :: more) := by
  have hopened {type : String} (hd : declaredType f = type) (more : List String) :
      ∃ more', (.ok (Accessor.opened accessor type :: more) : Except Fault (List String)) =
        .ok (Accessor.declared accessor (declaredType f ++ " \x7b") :: more') :=
    ⟨more, by rw [hd, opened_eq_declared]⟩
  cases k with
  | scalar =>
    obtain ⟨hs, hstem⟩ := h
    obtain ⟨stem, hstem⟩ := Option.isSome_iff_exists.mp hstem
    simp only [Accessor.lines, hstem]
    exact hopened (declaredType_single ht hs) _
  | dateOptional =>
    obtain ⟨hs, hdate, ho⟩ := h
    have hd : declaredType f = "Date?" := by
      rw [declaredType_single ht hs, hdate, ho]
      decide
    exact hopened hd _
  | dateRequired =>
    obtain ⟨hs, hdate, ho⟩ := h
    have hd : declaredType f = "Date" := by
      rw [declaredType_single ht hs, hdate, ho]
      decide
    exact hopened hd _
  | arrayOfArrayOptional => exact hopened (declaredType_nested ht h.1) _
  | arrayOfArrayRequired => exact hopened (declaredType_nested ht h.1) _
  | arrayOptional => exact hopened (declaredType_array ht h.1 h.2.1) _
  | arrayRequired => exact hopened (declaredType_array ht h.1 h.2.1) _
  | variantContent => exact hopened (declaredType_single ht h) _
  | selfBridging =>
    refine ⟨[], ?_⟩
    simp only [Accessor.lines, Accessor.selfBridging, Accessor.declared, declaredType_single ht h,
      Kind.ending]
    cases f.isOptional with
    | true => simp [String.append_assoc]
    | false => simp
  | nestedObject =>
    have hd := declaredType_single ht h.1
    simp only [Accessor.lines, Accessor.nestedObject]
    cases ho : f.isOptional with
    | true =>
      simp only [ho, if_true] at hd ⊢
      exact hopened hd _
    | false =>
      simp only [ho, Bool.false_eq_true, if_false, String.append_empty] at hd ⊢
      exact hopened hd _

/-- A field with a template has an accessor, whatever the names. Unless it is always true, and where no
line break comes in, the accessor declares the type as signatures spell it, but for the question mark
behind a sequence; behind the type stands the brace of the body or an initial value, or the line
ends. -/
theorem accessors_spell_types (c : Config) (f : Field) :
    (∀ owner name k, classify c owner name f = .ok k →
      ∀ accessor key, ∃ s, Accessor.text k accessor key f = .ok s) ∧
    (∀ owner name k, classify c.probe owner name f = .ok k → f.type ≠ "True" → Unbroken f.type →
      ∀ accessor key, Unbroken accessor →
        ∃ s more, Accessor.text k accessor key f = .ok s ∧
          Text.lines s =
            ("    public var " ++ accessor ++ ": " ++ declaredType f ++ k.ending f) :: more ∧
          k.ending f ∈ [" \x7b", " = nil", ""]) ∧
    typeName f = declaredType f ++ (if f.isSequence && f.isOptional then "?" else "") ∧
    ∀ name, parameterItem (name, f) = Identifier.camelized name ++ ": " ++ declaredType f ++
      (if f.isSequence && f.isOptional then "?" else "") ++
      (if f.isOptional then " = nil" else "") ++ "," := by
  refine ⟨fun owner name k h => text_of_classify h, ?_, typeName_eq_declaredType f, ?_⟩
  · intro owner name k h htype hf accessor key ha
    have ht : isLiteralTrue f = false := by simpa [isLiteralTrue, trueType] using htype
    have hfits : k.Fits f := fits_of_kind? (classify_probe_ok_iff.mp h)
    obtain ⟨more, hlines⟩ := lines_of_fits ht hfits accessor key
    have hending : Unbroken (k.ending f) := by
      have hall : ∀ e ∈ [" \x7b", " = nil", ""], Unbroken e := by decide
      exact hall _ (ending_mem k f)
    have hunbroken : Unbroken (Accessor.declared accessor (declaredType f ++ k.ending f)) := by
      simp +decide [Accessor.declared, ha, unbroken_declaredType ht hf, hending]
    have htext : Accessor.text k accessor key f = .ok (indent
        (unlines (Accessor.declared accessor (declaredType f ++ k.ending f) :: more)) 1 4) := by
      rw [Accessor.text, hlines]
    refine ⟨_, (more.flatMap Text.lines).map moved, htext, ?_, ending_mem k f⟩
    rw [lines_declaration hunbroken, ← String.append_assoc]
  · intro name
    rw [parameterItem, typeName_eq_declaredType f]
    simp only [String.append_assoc]

/-- Rows of photos that may be absent: the accessor declares them without a question mark. -/
theorem photos_spell_types :
    let f : Field := ⟨"PhotoSize", true, true, true⟩
    ∃ s more, Accessor.text .arrayOfArrayOptional "photos" "photos" f = .ok s ∧
      Text.lines s = "    public var photos: [[PhotoSize]] \x7b" :: more ∧
      typeName f = "[[PhotoSize]]?" := by
  intro f
  have hclass : classify Config.usual.probe "Album" "photos" f = .ok .arrayOfArrayOptional :=
    classify_probe_ok_iff.mpr (by decide)
  obtain ⟨-, declares, hname, -⟩ := accessors_spell_types .usual f
  obtain ⟨s, more, htext, hlines, -⟩ :=
    declares _ _ _ hclass (by decide) (by decide) "photos" "photos" (by decide)
  exact ⟨s, more, htext, hlines, hname⟩

end Code
end ClientGen
