import ClientGen.Proofs.Spellings
import ClientGen.Proofs.Tokens

/-! Lists in place of shorthands. A list of one text, or a list of such a list, describes a field just
if the text is a shorthand without any mark, and then the same one as this text between brackets. No
other list describes a field. -/

namespace ClientGen
namespace Field

open Text (isBlank trim)

/-! ## Texts without blanks at their ends -/

/-- A text is what is left between its blank ends. -/
theorem spaced_trim (cs : List Char) : Spaced [trim cs] cs := by
  have hback : trim cs ++ ((cs.dropWhile isBlank).reverse.takeWhile isBlank).reverse =
      cs.dropWhile isBlank := by
    rw [trim, ← List.reverse_append, List.takeWhile_append_dropWhile, List.reverse_reverse]
  have hblanks : ∀ ch ∈ ((cs.dropWhile isBlank).reverse.takeWhile isBlank).reverse,
      isBlank ch = true :=
    fun ch hm => List.mem_takeWhile_imp (List.mem_reverse.mp hm)
  have hrest : Spaced [trim cs] (cs.dropWhile isBlank) := by
    rw [← hback]
    exact .cons (b := []) (by simp) (.nil hblanks)
  exact hrest.of_dropBlanks

/-- Only blanks are taken from the ends of a name. -/
theorem trim_eq {name cs : List Char} (hn : IsTypeName name) (h : Spaced [name] cs) :
    trim cs = name := by
  have hvisible : ∀ ch ∈ name, isBlank ch = false := fun ch hm => (hn.chars ch hm).1
  obtain ⟨first, more, hfirst⟩ := List.exists_cons_of_ne_nil hn.nonempty
  obtain ⟨last, front, hlast⟩ :=
    List.exists_cons_of_ne_nil (mt List.reverse_eq_nil_iff.mp hn.nonempty)
  have hfirstVisible : isBlank first = false := hvisible first (by simp [hfirst])
  have hlastVisible : isBlank last = false :=
    hvisible last (List.mem_reverse.mp (by simp [hlast]))
  obtain ⟨tail, hdrop, htail⟩ := h.dropBlanks_eq hfirst hfirstVisible
  have hback : dropBlanks (tail.reverse ++ name.reverse) = name.reverse := by
    cases htail with
    | nil hb =>
      rw [dropBlanks_append fun ch hm => hb ch (List.mem_reverse.mp hm), hlast,
        dropBlanks_cons hlastVisible]
  calc trim cs = (dropBlanks (dropBlanks cs).reverse).reverse := rfl
    _ = (dropBlanks (tail.reverse ++ name.reverse)).reverse := by
      rw [hdrop, List.reverse_append]
    _ = name := by rw [hback, List.reverse_reverse]

/-! ## Shorthands without marks -/

/-- A name is read from the texts that hold it and blanks around it. -/
theorem plainName?_eq_some_iff {s name : String} :
    plainName? s = some name ↔ IsTypeName name.toList ∧ Spaced [name.toList] s.toList := by
  have hcheck (cs : List Char) :
      (!cs.isEmpty && cs.all isNameChar) = true ↔ IsTypeName cs := by
    simp [isTypeName_iff]
  constructor
  · intro h
    simp only [plainName?] at h
    split at h
    · next hname =>
      obtain rfl := Option.some.inj h
      rw [String.toList_ofList]
      exact ⟨(hcheck _).mp hname, spaced_trim s.toList⟩
    · cases h
  · rintro ⟨hname, hspaced⟩
    have htrim : trim s.toList = name.toList := trim_eq hname hspaced
    simp only [plainName?, htrim, (hcheck _).mpr hname, if_true, String.ofList_toList]

/-- The tokens of a name without any mark. -/
def bare (name : String) : Written :=
  ⟨0, name.toList, 0, false⟩

theorem tokens_bare (name : String) : (bare name).tokens = [name.toList] := by
  simp [Written.tokens, bare]

theorem ofWritten_eq_single_iff {w : Written} {name : String} (hb : w.opened = w.closed) :
    single name = ofWritten w ↔ w = bare name := by
  obtain ⟨opened, cs, closed, optional⟩ := w
  dsimp only at hb
  subst hb
  constructor
  · intro h
    simp only [single, ofWritten, Field.mk.injEq] at h
    obtain ⟨rfl, hopened, -, hoptional⟩ := h
    have hnone : opened = 0 := by simpa using hopened.symm
    simp [bare, hnone, ← hoptional]
  · intro h
    simp only [bare, Written.mk.injEq] at h
    obtain ⟨rfl, rfl, -, rfl⟩ := h
    simp [single, ofWritten]

/-- A name with blanks around it is the shorthand of a single value. -/
theorem ofShorthand_single_iff {s name : String} :
    ofShorthand s = .ok (single name) ↔ plainName? s = some name := by
  rw [ofShorthand_ok_iff, plainName?_eq_some_iff]
  constructor
  · rintro ⟨w, hspells, hbalanced, hfield⟩
    obtain rfl := (ofWritten_eq_single_iff hbalanced).mp hfield
    have htext := hspells.text
    rw [tokens_bare] at htext
    exact ⟨hspells.name, htext⟩
  · rintro ⟨hname, hspaced⟩
    refine ⟨bare name, ⟨Nat.zero_le 2, Nat.zero_le 2, hname, ?_⟩, rfl,
      (ofWritten_eq_single_iff rfl).mpr rfl⟩
    rw [tokens_bare]
    exact hspaced

/-- The text is a shorthand without brackets and question mark. -/
def IsPlain (s : String) : Prop :=
  ∃ f, ofShorthand s = .ok f ∧ f.isSequence = false ∧ f.isOptional = false

theorem isPlain_iff {s : String} : IsPlain s ↔ ∃ name, plainName? s = some name := by
  constructor
  · rintro ⟨⟨name, isArray, isNested, isOptional⟩, hread, hsequence, hoptional⟩
    simp only [isSequence, Bool.or_eq_false_iff] at hsequence
    obtain ⟨rfl, rfl⟩ := hsequence
    obtain rfl : isOptional = false := hoptional
    exact ⟨name, ofShorthand_single_iff.mp hread⟩
  · rintro ⟨name, hname⟩
    exact ⟨single name, ofShorthand_single_iff.mpr hname, rfl, rfl⟩

/-! ## Names between brackets -/

theorem Spaced.append {ts us : List (List Char)} {cs ds : List Char} (ht : Spaced ts cs)
    (hu : Spaced us ds) : Spaced (ts ++ us) (cs ++ ds) := by
  induction ht with
  | nil hb => exact hu.append_blanks hb
  | @cons b t ts cs hb _ ih =>
    rw [List.cons_append, List.append_assoc]
    exact .cons hb ih

/-- The text with as many brackets before and behind it. -/
def bracketed (n : Nat) (s : String) : String :=
  String.ofList (List.replicate n '[') ++ s ++ String.ofList (List.replicate n ']')

/-- A name between one or two pairs of brackets is the shorthand of a sequence of this depth. -/
theorem ofShorthand_bracketed {s name : String} {n : Nat} (hn : n = 1 ∨ n = 2)
    (h : plainName? s = some name) :
    ofShorthand (bracketed n s) = .ok ⟨name, true, n == 2, false⟩ := by
  obtain ⟨hname, hspaced⟩ := plainName?_eq_some_iff.mp h
  have hmarks (mark : Char) :
      Spaced (List.replicate n [mark]) (List.replicate n mark) := by
    have hflat : (List.replicate n [mark]).flatten = List.replicate n mark := by simp
    rw [← hflat]
    exact .flatten _
  have htext : Spaced (Written.tokens ⟨n, name.toList, n, false⟩) (bracketed n s).toList := by
    have hall := ((hmarks '[').append hspaced).append (hmarks ']')
    simpa [Written.tokens, bracketed] using hall
  have htwo : n ≤ 2 := by omega
  refine ofShorthand_ok_iff.mpr ⟨⟨n, name.toList, n, false⟩, ⟨htwo, htwo, hname, htext⟩, rfl, ?_⟩
  rcases hn with rfl | rfl
  · simp [ofWritten]
  · simp [ofWritten]

/-! ## Lists -/

/-- A list that describes no field has no other fault. -/
theorem ofItems_error {items : List Value} {fault : Fault} (h : ofItems items = .error fault) :
    fault = .noPlainName items := by
  unfold ofItems at h
  dsimp only at h
  repeat' split at h
  all_goals cases h
  all_goals rfl

end Field

namespace Record

open ClientGen.Field (IsPlain isPlain_iff bracketed)

/-- In as many lists as brackets, a name is read as between these. -/
theorem field_list_of_plain {s : String} (h : IsPlain s) :
    field (.list [.text s]) = field (.text (bracketed 1 s)) ∧
      field (.list [.list [.text s]]) = field (.text (bracketed 2 s)) ∧
      (∃ f, field (.list [.text s]) = .ok f) ∧ ∃ f, field (.list [.list [.text s]]) = .ok f := by
  obtain ⟨name, hname⟩ := isPlain_iff.mp h
  have hone : field (.text (bracketed 1 s)) = .ok ⟨name, true, false, false⟩ :=
    field_ok_iff.mpr (.shorthand (Field.ofShorthand_bracketed (.inl rfl) hname))
  have htwo : field (.text (bracketed 2 s)) = .ok ⟨name, true, true, false⟩ :=
    field_ok_iff.mpr (.shorthand (Field.ofShorthand_bracketed (.inr rfl) hname))
  have hlist : field (.list [.text s]) = .ok ⟨name, true, false, false⟩ :=
    field_ok_iff.mpr (.list hname)
  have hnested : field (.list [.list [.text s]]) = .ok ⟨name, true, true, false⟩ :=
    field_ok_iff.mpr (.nested hname)
  exact ⟨hlist.trans hone.symm, hnested.trans htwo.symm, ⟨_, hlist⟩, ⟨_, hnested⟩⟩

/-- A list that describes a field is one of a plain name, or a list of such a list. -/
theorem plain_of_field_list {items : List Value} {f : Field} (h : field (.list items) = .ok f) :
    ∃ s, IsPlain s ∧ (items = [.text s] ∨ items = [.list [.text s]]) := by
  have hread : Field.ofItems items = .ok f := fieldResult_ok_iff.mp h
  obtain ⟨s, name, hname, ⟨hitems, -⟩ | ⟨hitems, -⟩⟩ := ofItems_ok_iff.mp hread
  · exact ⟨s, isPlain_iff.mpr ⟨name, hname⟩, .inl hitems⟩
  · exact ⟨s, isPlain_iff.mpr ⟨name, hname⟩, .inr hitems⟩

/-- A list that describes no field is refused for this alone. -/
theorem field_list_refused {items : List Value} (h : ∀ f, field (.list items) ≠ .ok f) :
    field (.list items) = .error [⟨[], .field (.noPlainName items)⟩] := by
  have hfield : field (.list items) = fieldResult (Field.ofItems items) := by rw [field]
  cases hread : Field.ofItems items with
  | ok f =>
    rw [hread] at hfield
    exact absurd hfield (h f)
  | error fault =>
    rw [hfield, hread, Field.ofItems_error hread]
    rfl

/-- A list of one text describes a field just if the text is a shorthand without brackets and question
mark, and then the same field as the text between brackets. So does a list of such a list, with two
pairs of brackets. All other lists are refused with one message. -/
theorem lists_read_as_shorthands :
    (∀ s : String,
      ((∃ f, field (.list [.text s]) = .ok f) ↔ IsPlain s) ∧
      (IsPlain s → field (.list [.text s]) = field (.text ("[" ++ s ++ "]"))) ∧
      ((∃ f, field (.list [.list [.text s]]) = .ok f) ↔ IsPlain s) ∧
      (IsPlain s → field (.list [.list [.text s]]) = field (.text ("[[" ++ s ++ "]]")))) ∧
    ∀ items : List Value,
      (∀ s, IsPlain s → items ≠ [.text s] ∧ items ≠ [.list [.text s]]) →
      ∃ fault, field (.list items) = .error [fault] ∧ fault.path = [] ∧
        fault.cause.message =
          "Value error, Field sequence must hold exactly one plain type name, got " ++
            (Value.list items).literal := by
  refine ⟨fun s => ⟨⟨?_, ?_⟩, ?_, ⟨?_, ?_⟩, ?_⟩, fun items h => ?_⟩
  · rintro ⟨f, hf⟩
    obtain ⟨t, ht, he | he⟩ := plain_of_field_list hf
    · cases he
      exact ht
    · cases he
  · intro hs
    exact (field_list_of_plain hs).2.2.1
  · intro hs
    exact (field_list_of_plain hs).1
  · rintro ⟨f, hf⟩
    obtain ⟨t, ht, he | he⟩ := plain_of_field_list hf
    · cases he
    · cases he
      exact ht
  · intro hs
    exact (field_list_of_plain hs).2.2.2
  · intro hs
    exact (field_list_of_plain hs).2.1
  · have hnone : ∀ f, field (.list items) ≠ .ok f := by
      intro f hf
      obtain ⟨s, hs, he | he⟩ := plain_of_field_list hf
      · exact (h s hs).1 he
      · exact (h s hs).2 he
    refine ⟨_, field_list_refused hnone, rfl, ?_⟩
    have hmessage : "Value error, Field sequence must hold exactly one plain type name, got " =
        "Value error, " ++ "Field sequence must hold exactly one plain type name, got " := by decide
    rw [hmessage, String.append_assoc]
    rfl

/-- A name with blanks around it in two lists, and a list that is one too deep. -/
theorem photoSize_list_read :
    field (.list [.list [.text " PhotoSize\t"]]) = field (.text "[[ PhotoSize\t]]") ∧
      (∃ f, field (.list [.list [.text " PhotoSize\t"]]) = .ok f) ∧
      ∃ fault, field (.list [.list [.list [.text "PhotoSize"]]]) = .error [fault] ∧
        fault.cause.message = "Value error, Field sequence must hold exactly one plain type name, " ++
          "got [[['PhotoSize']]]" := by
  have hplain : IsPlain " PhotoSize\t" := ⟨.single "PhotoSize", rfl, rfl, rfl⟩
  obtain ⟨texts, others⟩ := lists_read_as_shorthands
  obtain ⟨-, -, hread, hsame⟩ := texts " PhotoSize\t"
  obtain ⟨fault, hfault, -, hmessage⟩ := others [.list [.list [.text "PhotoSize"]]]
    fun s _ => ⟨by simp, by simp⟩
  exact ⟨hsame hplain, hread.mpr hplain, fault, hfault, hmessage.trans (by decide)⟩

end Record
end ClientGen
