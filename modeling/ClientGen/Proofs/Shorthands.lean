import ClientGen.Proofs.Tokens
import ClientGen.Record.Schema

/-! Shorthands and fields. The shorthand of a field that was read from a text is this text without its
blanks, and it is read as the same field again. A field that was made otherwise has such a shorthand
just if its type is a name, and if it is a sequence where it is a sequence of sequences. -/

namespace ClientGen
namespace Field

/-- A field that its shorthand stands for. -/
structure Expressible (f : Field) : Prop where
  type : IsTypeName f.type.toList
  isArray : f.isNested = true → f.isArray = true

/-- How many brackets a field has on each side. -/
def depth (f : Field) : Nat :=
  if f.isNested then 2 else if f.isArray then 1 else 0

/-- The tokens of the shorthand of a field. -/
def written (f : Field) : Written :=
  ⟨f.depth, f.type.toList, f.depth, f.isOptional⟩

theorem depth_le (f : Field) : f.depth ≤ 2 := by
  unfold depth
  repeat' split
  all_goals omega

theorem toList_shorthand (f : Field) : f.shorthand.toList = f.written.tokens.flatten := by
  obtain ⟨type, isArray, isNested, isOptional⟩ := f
  cases isNested <;> cases isArray <;> cases isOptional <;>
    simp [shorthand, Written.tokens, written, depth]

/-- A field has the tokens that it was read from. -/
theorem written_ofWritten {w : Written} (ho : w.opened ≤ 2) (hb : w.opened = w.closed) :
    (ofWritten w).written = w := by
  obtain ⟨opened, name, closed, optional⟩ := w
  dsimp only at ho hb
  subst hb
  obtain rfl | rfl | rfl : opened = 0 ∨ opened = 1 ∨ opened = 2 := by omega
  all_goals simp [written, ofWritten, depth]

theorem ofWritten_written {f : Field} (h : f.isNested = true → f.isArray = true) :
    ofWritten f.written = f := by
  obtain ⟨type, isArray, isNested, isOptional⟩ := f
  cases isNested with
  | true =>
    obtain rfl : isArray = true := h rfl
    simp [written, ofWritten, depth]
  | false => cases isArray <;> simp [written, ofWritten, depth]

theorem expressible_ofWritten {w : Written} (h : IsTypeName w.name) : (ofWritten w).Expressible := by
  refine ⟨by simpa [ofWritten] using h, fun hn => ?_⟩
  have htwo : w.opened = 2 := by simpa [ofWritten] using hn
  simp [ofWritten, htwo]

/-- The tokens of a shorthand hold no blank. -/
theorem not_blank_of_mem_tokens {w : Written} (h : IsTypeName w.name) :
    ∀ t ∈ w.tokens, ∀ ch ∈ t, Text.isBlank ch = false := by
  intro t ht ch hch
  simp only [Written.tokens, List.mem_append, List.mem_cons, List.mem_replicate] at ht
  rcases ht with ⟨-, rfl⟩ | rfl | ⟨-, rfl⟩ | ⟨-, rfl⟩
  · obtain rfl := List.mem_singleton.mp hch
    decide
  · exact (h.chars ch hch).1
  · obtain rfl := List.mem_singleton.mp hch
    decide
  · obtain rfl := List.mem_singleton.mp hch
    decide

/-- What a shorthand describes is expressible, and its own shorthand has no blanks. -/
theorem of_ofShorthand {s : String} {f : Field} (h : ofShorthand s = .ok f) :
    f.Expressible ∧ f.shorthand.toList = Text.squeeze s.toList := by
  obtain ⟨w, hs, hb, rfl⟩ := ofShorthand_ok_iff.mp h
  refine ⟨expressible_ofWritten hs.name, ?_⟩
  rw [toList_shorthand, written_ofWritten hs.opened hb,
    hs.text.squeeze_eq (not_blank_of_mem_tokens hs.name)]

theorem ofShorthand_shorthand {f : Field} (h : f.Expressible) : ofShorthand f.shorthand = .ok f := by
  refine ofShorthand_ok_iff.mpr ⟨f.written, ⟨f.depth_le, f.depth_le, h.type, ?_⟩, rfl,
    (ofWritten_written h.isArray).symm⟩
  rw [toList_shorthand]
  exact Spaced.flatten _

/-- A text is read as a field just as its shorthand is. -/
theorem field_text_iff {s : String} {f : Field} :
    Record.field (.text s) = .ok f ↔ ofShorthand s = .ok f := by
  rw [Record.field, Record.fieldResult.eq_def]
  cases ofShorthand s with
  | error fault => simp [Record.refuse]
  | ok g => simp

/-- The shorthand of a field that was read from a text is the text without its blanks, and stands for
the same field; so two texts describe one field just if they differ in blanks only. The shorthand of any
field is read as this field just if the type is a name and a sequence of sequences is a sequence. -/
theorem shorthand_inverse :
    (∀ s f, ofShorthand s = .ok f →
      f.shorthand.toList = Text.squeeze s.toList ∧ ofShorthand f.shorthand = .ok f) ∧
    (∀ s t f g, ofShorthand s = .ok f → ofShorthand t = .ok g →
      (f = g ↔ Text.squeeze s.toList = Text.squeeze t.toList)) ∧
    ∀ f : Field, Record.field (.text f.shorthand) = .ok f ↔
      (f.type.toList ≠ [] ∧
        ∀ ch ∈ f.type.toList, Text.isBlank ch = false ∧ ch ≠ '[' ∧ ch ≠ ']' ∧ ch ≠ '?') ∧
      (f.isNested = true → f.isArray = true) := by
  refine ⟨fun s f h => ?_, fun s t f g hs ht => ⟨?_, fun he => ?_⟩, fun f => ?_⟩
  · obtain ⟨he, hsqueeze⟩ := of_ofShorthand h
    exact ⟨hsqueeze, ofShorthand_shorthand he⟩
  · rintro rfl
    exact (of_ofShorthand hs).2.symm.trans (of_ofShorthand ht).2
  · obtain ⟨hf, hs⟩ := of_ofShorthand hs
    obtain ⟨hg, ht⟩ := of_ofShorthand ht
    have hshort : f.shorthand = g.shorthand :=
      String.toList_injective (hs.trans (he.trans ht.symm))
    have hread := ofShorthand_shorthand hf
    rw [hshort, ofShorthand_shorthand hg] at hread
    exact (Except.ok.inj hread).symm
  · rw [field_text_iff]
    constructor
    · intro h
      obtain ⟨he, -⟩ := of_ofShorthand h
      exact ⟨⟨he.type.nonempty, he.type.chars⟩, he.isArray⟩
    · rintro ⟨⟨hne, hchars⟩, ha⟩
      exact ofShorthand_shorthand ⟨⟨hne, hchars⟩, ha⟩

theorem shorthand_inverse_photoSize :
    let f : Field := ⟨"PhotoSize", true, true, true⟩
    ofShorthand " [[\tPhotoSize] ]\n?" = .ok f ∧ ofShorthand "[[PhotoSize]]?" = .ok f ∧
      f.shorthand.toList = Text.squeeze " [[\tPhotoSize] ]\n?".toList ∧
      Text.squeeze " [[\tPhotoSize] ]\n?".toList = Text.squeeze "[[PhotoSize]]?".toList ∧
      Record.field (.text f.shorthand) = .ok f := by
  intro f
  have hs : ofShorthand " [[\tPhotoSize] ]\n?" = .ok f := rfl
  have ht : ofShorthand "[[PhotoSize]]?" = .ok f := rfl
  obtain ⟨he, -⟩ := of_ofShorthand hs
  obtain ⟨back, same, iff⟩ := shorthand_inverse
  exact ⟨hs, ht, (back _ _ hs).1, (same _ _ _ _ hs ht).mp rfl,
    (iff f).mpr ⟨⟨he.type.nonempty, he.type.chars⟩, he.isArray⟩⟩

end Field
end ClientGen
