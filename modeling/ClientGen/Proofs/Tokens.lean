import ClientGen.Field.Shorthand
import Mathlib.Data.List.TakeWhile

/-! The grammar of shorthands. A text is read just if it consists of up to two opening brackets, the
name of a type, up to two closing brackets and at most one question mark as tokens, whatever blanks
stand around them; and it describes a field just if its brackets are balanced. -/

namespace ClientGen
namespace Field

/-! ## Tokens -/

/-- The name of a type as one token: no blanks, no brackets and no question marks. -/
structure IsTypeName (name : List Char) : Prop where
  nonempty : name ≠ []
  chars : ∀ ch ∈ name, Text.isBlank ch = false ∧ ch ≠ '[' ∧ ch ≠ ']' ∧ ch ≠ '?'

/-- The text is the tokens in their order, with blanks before, between and behind them. -/
inductive Spaced : List (List Char) → List Char → Prop
  | nil {b : List Char} (hb : ∀ ch ∈ b, Text.isBlank ch = true) : Spaced [] b
  | cons {b t : List Char} {ts : List (List Char)} {cs : List Char}
      (hb : ∀ ch ∈ b, Text.isBlank ch = true) (h : Spaced ts cs) : Spaced (t :: ts) (b ++ t ++ cs)

/-- The tokens of a shorthand in their order. -/
def Written.tokens (w : Written) : List (List Char) :=
  List.replicate w.opened ['['] ++
    w.name :: (List.replicate w.closed [']'] ++ List.replicate w.optional.toNat ['?'])

/-- The text has the shape of a shorthand with these tokens, balanced or not. -/
structure Written.Spells (w : Written) (cs : List Char) : Prop where
  opened : w.opened ≤ 2
  closed : w.closed ≤ 2
  name : IsTypeName w.name
  text : Spaced w.tokens cs

/-- The first token, if there is one, begins with a character of that kind. -/
def Begins (kind : Char → Prop) (ts : List (List Char)) : Prop :=
  ∀ t ∈ ts.head?, ∃ ch rest, t = ch :: rest ∧ kind ch

theorem begins_cons {kind : Char → Prop} {t : List Char} {ts : List (List Char)} :
    Begins kind (t :: ts) ↔ ∃ ch rest, t = ch :: rest ∧ kind ch := by
  simp [Begins]

theorem begins_replicate {kind : Char → Prop} {mark : Char} (n : Nat) (h : kind mark) :
    Begins kind (List.replicate n [mark]) := by
  intro t ht
  exact ⟨mark, [], List.eq_of_mem_replicate (List.mem_of_mem_head? ht), h⟩

theorem Begins.append {kind : Char → Prop} {us ts : List (List Char)} (hu : Begins kind us)
    (ht : Begins kind ts) : Begins kind (us ++ ts) := by
  cases us with
  | nil => exact ht
  | cons u us => exact begins_cons.mpr (begins_cons.mp hu)

theorem isNameChar_iff (ch : Char) :
    isNameChar ch = true ↔ Text.isBlank ch = false ∧ ch ≠ '[' ∧ ch ≠ ']' ∧ ch ≠ '?' := by
  simp [isNameChar, and_assoc]

theorem isTypeName_iff (name : List Char) :
    IsTypeName name ↔ name ≠ [] ∧ ∀ ch ∈ name, isNameChar ch = true := by
  simp only [isNameChar_iff]
  exact ⟨fun h => ⟨h.nonempty, h.chars⟩, fun h => ⟨h.1, h.2⟩⟩

theorem dropBlanks_append {b : List Char} (hb : ∀ ch ∈ b, Text.isBlank ch = true) (cs : List Char) :
    dropBlanks (b ++ cs) = dropBlanks cs :=
  List.dropWhile_append_of_pos hb

theorem dropBlanks_cons {ch : Char} (h : Text.isBlank ch = false) (cs : List Char) :
    dropBlanks (ch :: cs) = ch :: cs := by
  simp [dropBlanks, h]

namespace Spaced

variable {ts : List (List Char)} {cs : List Char}

theorem append_blanks {b : List Char} (hb : ∀ ch ∈ b, Text.isBlank ch = true)
    (h : Spaced ts cs) : Spaced ts (b ++ cs) := by
  cases h with
  | nil hc => exact .nil fun ch hm => (List.mem_append.mp hm).elim (hb ch) (hc ch)
  | @cons c t ts cs hc h =>
    rw [← List.append_assoc, ← List.append_assoc]
    exact .cons (fun ch hm => (List.mem_append.mp hm).elim (hb ch) (hc ch)) h

/-- Blanks in front make no difference. -/
theorem of_dropBlanks (h : Spaced ts (dropBlanks cs)) : Spaced ts cs := by
  rw [← List.takeWhile_append_dropWhile (p := Text.isBlank) (l := cs)]
  exact h.append_blanks fun ch hm => List.mem_takeWhile_imp hm

/-- Tokens without any blank between. -/
theorem flatten (ts : List (List Char)) : Spaced ts ts.flatten := by
  induction ts with
  | nil => exact .nil (by simp)
  | cons t ts ih => exact .cons (b := []) (by simp) ih

/-- Without its blanks a text is its tokens. -/
theorem squeeze_eq (h : Spaced ts cs) (ht : ∀ t ∈ ts, ∀ ch ∈ t, Text.isBlank ch = false) :
    Text.squeeze cs = ts.flatten := by
  have blanks {b : List Char} (hb : ∀ ch ∈ b, Text.isBlank ch = true) : Text.squeeze b = [] :=
    List.filter_eq_nil_iff.mpr fun ch hm => by simp [hb ch hm]
  induction h with
  | nil hb => exact blanks hb
  | @cons b t ts cs hb h ih =>
    have htoken : Text.squeeze t = t :=
      List.filter_eq_self.mpr fun ch hm => by simp [ht t (by simp) ch hm]
    rw [Text.squeeze_append, Text.squeeze_append, blanks hb, htoken,
      ih fun t hm => ht t (by simp [hm])]
    rfl

/-- Behind the blanks a text begins with its first token. -/
theorem dropBlanks_eq {t : List Char} {ch : Char} {rest : List Char} (h : Spaced (t :: ts) cs)
    (ht : t = ch :: rest) (hc : Text.isBlank ch = false) :
    ∃ tail, dropBlanks cs = t ++ tail ∧ Spaced ts tail := by
  cases h with
  | @cons b _ _ tail hb h =>
    refine ⟨tail, ?_, h⟩
    rw [List.append_assoc, dropBlanks_append hb, ht]
    exact dropBlanks_cons hc _

theorem dropBlanks_nil (h : Spaced [] cs) : dropBlanks cs = [] := by
  cases h with
  | nil hb => simpa [dropBlanks] using hb

/-- The first character that is no blank is that of the first token. -/
theorem head_dropBlanks {kind : Char → Prop} (h : Spaced ts cs)
    (ht : Begins (fun ch => Text.isBlank ch = false ∧ kind ch) ts) :
    ∀ ch ∈ (dropBlanks cs).head?, kind ch := by
  intro ch hm
  cases ts with
  | nil =>
    rw [h.dropBlanks_nil] at hm
    cases hm
  | cons t ts =>
    obtain ⟨first, rest, he, hb, hk⟩ := begins_cons.mp ht
    obtain ⟨tail, hd, -⟩ := h.dropBlanks_eq he hb
    rw [hd, he] at hm
    cases hm
    exact hk

/-- Where no name comes next stands nothing, a blank or a mark. -/
theorem head_not_name (h : Spaced ts cs) (ht : Begins (fun ch => isNameChar ch = false) ts) :
    ∀ ch ∈ cs.head?, isNameChar ch = false := by
  have blank {ch : Char} (hb : Text.isBlank ch = true) : isNameChar ch = false := by
    simp [isNameChar, hb]
  intro ch hm
  cases h with
  | nil hb => exact blank (hb ch (List.mem_of_mem_head? hm))
  | @cons b t _ _ hb _ =>
    cases b with
    | nil =>
      obtain ⟨first, rest, rfl, hf⟩ := begins_cons.mp ht
      cases hm
      exact hf
    | cons first b =>
      cases hm
      exact blank (hb _ (by simp))

end Spaced

/-! ## Marks -/

theorem takeMarks_le {mark : Char} {most n : Nat} {cs rest : List Char}
    (h : takeMarks mark most cs = (n, rest)) : n ≤ most := by
  induction most generalizing cs n with
  | zero =>
    cases h
    exact Nat.le_refl 0
  | succ most ih =>
    cases cs with
    | nil =>
      cases h
      exact Nat.zero_le _
    | cons ch cs =>
      simp only [takeMarks] at h
      split at h
      · cases h
        exact Nat.succ_le_succ (ih rfl)
      · cases h
        exact Nat.zero_le _

/-- What is read as marks are marks. -/
theorem spaced_takeMarks {mark : Char} {most n : Nat} {ts : List (List Char)} {cs rest : List Char}
    (h : takeMarks mark most cs = (n, rest)) (hs : Spaced ts rest) :
    Spaced (List.replicate n [mark] ++ ts) cs := by
  induction most generalizing cs n with
  | zero =>
    cases h
    exact hs
  | succ most ih =>
    cases cs with
    | nil =>
      cases h
      exact hs
    | cons ch cs =>
      simp only [takeMarks] at h
      split at h
      · next he =>
        cases h
        subst he
        exact .cons (b := []) (by simp) (ih rfl).of_dropBlanks
      · cases h
        exact hs

theorem takeMarks_of_ne {mark : Char} {cs : List Char} (most : Nat)
    (h : ∀ ch ∈ cs.head?, ch ≠ mark) : takeMarks mark most cs = (0, cs) := by
  cases most with
  | zero => rfl
  | succ most =>
    cases cs with
    | nil => rfl
    | cons ch rest => simp [takeMarks, h ch rfl]

/-- All marks that a text begins with are read, if there are not too many of them. -/
theorem takeMarks_spaced {mark : Char} (hm : Text.isBlank mark = false) {n most : Nat}
    (hn : n ≤ most) {ts : List (List Char)} {cs : List Char}
    (h : Spaced (List.replicate n [mark] ++ ts) cs)
    (hts : Begins (fun ch => Text.isBlank ch = false ∧ ch ≠ mark) ts) :
    ∃ rest, Spaced ts rest ∧ takeMarks mark most (dropBlanks cs) = (n, dropBlanks rest) := by
  induction n generalizing most cs with
  | zero => exact ⟨cs, h, takeMarks_of_ne most (h.head_dropBlanks hts)⟩
  | succ n ih =>
    obtain ⟨tail, he, ht⟩ := h.dropBlanks_eq rfl hm
    obtain ⟨most, rfl⟩ : ∃ k, most = k + 1 := ⟨most - 1, by omega⟩
    obtain ⟨rest, hr, hk⟩ := ih (Nat.le_of_succ_le_succ hn) ht
    refine ⟨rest, hr, ?_⟩
    rw [he, List.singleton_append, takeMarks, if_pos rfl, hk]

/-! ## Shapes -/

/-- A name is read up to its end. -/
theorem span_name {name tail : List Char} (hn : ∀ ch ∈ name, isNameChar ch = true)
    (ht : ∀ ch ∈ tail.head?, isNameChar ch = false) :
    (name ++ tail).takeWhile isNameChar = name ∧ (name ++ tail).dropWhile isNameChar = tail := by
  rw [List.takeWhile_append_of_pos hn, List.dropWhile_append_of_pos hn]
  cases tail with
  | nil => simp
  | cons ch rest => simp [ht ch rfl]

/-- The reading of a text in its steps: the marks in front, the name, the marks behind it, and the mark
at the end, behind which nothing is left. -/
theorem written?_eq_some_iff {cs : List Char} {w : Written} :
    written? cs = some w ↔ ∃ front back marks,
      takeMarks '[' 2 (dropBlanks cs) = (w.opened, front) ∧
      w.name = front.takeWhile isNameChar ∧ w.name ≠ [] ∧
      takeMarks ']' 2 (dropBlanks (front.dropWhile isNameChar)) = (w.closed, back) ∧
      takeMarks '?' 1 back = (marks, []) ∧ w.optional = (marks == 1) := by
  obtain ⟨opened, name, closed, optional⟩ := w
  simp only [written?, Option.ite_none_left_eq_some, Bool.or_eq_true, Bool.not_eq_true', not_or,
    List.isEmpty_iff, List.isEmpty_eq_false_iff, not_not, Option.some.injEq, Written.mk.injEq]
  constructor
  · rintro ⟨⟨hname, hend⟩, rfl, rfl, rfl, rfl⟩
    exact ⟨_, _, _, rfl, rfl, hname, rfl, Prod.ext rfl hend, rfl⟩
  · rintro ⟨front, back, marks, ho, rfl, hname, hc, hm, rfl⟩
    simp [ho, hc, hm, hname]

/-- The mark that may stand at the end is there or not. -/
theorem replicate_toNat {n : Nat} (h : n ≤ 1) (t : List Char) :
    List.replicate (n == 1).toNat t = List.replicate n t := by
  obtain rfl | rfl : n = 0 ∨ n = 1 := by omega
  · rfl
  · rfl

/-- What is read has the shape of a shorthand. -/
theorem spells_of_written? {cs : List Char} {w : Written} (h : written? cs = some w) :
    w.Spells cs := by
  obtain ⟨front, back, marks, ho, hname, hne, hc, hm, hopt⟩ := written?_eq_some_iff.mp h
  have hend : Spaced (List.replicate w.optional.toNat ['?']) back := by
    have hs := spaced_takeMarks hm (.nil (by simp))
    rwa [List.append_nil, ← replicate_toNat (takeMarks_le hm), ← hopt] at hs
  have hback : Spaced (List.replicate w.closed [']'] ++ List.replicate w.optional.toNat ['?'])
      (front.dropWhile isNameChar) :=
    (spaced_takeMarks hc hend).of_dropBlanks
  have hfront : Spaced (w.name :: (List.replicate w.closed [']'] ++
      List.replicate w.optional.toNat ['?'])) front := by
    rw [← List.takeWhile_append_dropWhile (p := isNameChar) (l := front), ← hname]
    exact .cons (b := []) (by simp) hback
  exact ⟨takeMarks_le ho, takeMarks_le hc,
    (isTypeName_iff _).mpr ⟨hne, fun ch hm => List.mem_takeWhile_imp (hname ▸ hm)⟩,
    (spaced_takeMarks ho hfront).of_dropBlanks⟩

/-- What has the shape of a shorthand is read. -/
theorem written?_of_spells {cs : List Char} {w : Written} (h : w.Spells cs) :
    written? cs = some w := by
  obtain ⟨hne, hname⟩ := (isTypeName_iff w.name).mp h.name
  obtain ⟨first, more, hw⟩ := List.exists_cons_of_ne_nil hne
  have hfirst := h.name.chars first (by simp [hw])
  obtain ⟨rest, hrest, hopened⟩ := takeMarks_spaced (by decide) h.opened h.text
    (begins_cons.mpr ⟨first, more, hw, hfirst.1, hfirst.2.1⟩)
  obtain ⟨tail, hdrop, htail⟩ := hrest.dropBlanks_eq hw hfirst.1
  obtain ⟨htake, hleft⟩ := span_name hname <|
    htail.head_not_name ((begins_replicate _ (by decide)).append (begins_replicate _ (by decide)))
  obtain ⟨rest', hrest', hclosed⟩ := takeMarks_spaced (by decide) h.closed htail
    (begins_replicate _ (by decide))
  have hend : Spaced (List.replicate w.optional.toNat ['?'] ++ []) rest' := by simpa using hrest'
  obtain ⟨rest'', hrest'', hmarks⟩ := takeMarks_spaced (by decide) (Bool.toNat_le _) hend
    (by simp [Begins])
  rw [hrest''.dropBlanks_nil] at hmarks
  refine written?_eq_some_iff.mpr
    ⟨dropBlanks rest, dropBlanks rest', w.optional.toNat, hopened, ?_, hne, ?_, hmarks, ?_⟩
  · rw [hdrop, htake]
  · rw [hdrop, hleft, hclosed]
  · cases w.optional <;> rfl

theorem written?_iff {cs : List Char} {w : Written} : written? cs = some w ↔ w.Spells cs :=
  ⟨spells_of_written?, written?_of_spells⟩

/-! ## Fields -/

theorem ofShorthand_of_spells {s : String} {w : Written} (h : w.Spells s.toList) :
    ofShorthand s = if w.opened = w.closed then .ok (ofWritten w) else .error (.unbalanced s) := by
  simp only [ofShorthand, written?_iff.mpr h]

theorem ofShorthand_of_not_spells {s : String} (h : ¬ ∃ w : Written, w.Spells s.toList) :
    ofShorthand s = .error (.invalid s) := by
  have hw : written? s.toList = none :=
    Option.eq_none_iff_forall_ne_some.mpr fun w hw => h ⟨w, written?_iff.mp hw⟩
  simp only [ofShorthand, hw]

theorem ofShorthand_ok_iff {s : String} {f : Field} :
    ofShorthand s = .ok f ↔
      ∃ w : Written, w.Spells s.toList ∧ w.opened = w.closed ∧ f = ofWritten w := by
  constructor
  · intro h
    by_cases hs : ∃ w : Written, w.Spells s.toList
    · obtain ⟨w, hs⟩ := hs
      rw [ofShorthand_of_spells hs] at h
      split at h
      · next hb =>
        cases h
        exact ⟨w, hs, hb, rfl⟩
      · cases h
    · rw [ofShorthand_of_not_spells hs] at h
      cases h
  · rintro ⟨w, hs, hb, rfl⟩
    rw [ofShorthand_of_spells hs, if_pos hb]

theorem ofShorthand_error_iff {s : String} {fault : Fault} :
    ofShorthand s = .error fault ↔
      (fault = .unbalanced s ∧ ∃ w : Written, w.Spells s.toList ∧ w.opened ≠ w.closed) ∨
        (fault = .invalid s ∧ ¬ ∃ w : Written, w.Spells s.toList) := by
  constructor
  · intro h
    by_cases hs : ∃ w : Written, w.Spells s.toList
    · obtain ⟨w, hs⟩ := hs
      rw [ofShorthand_of_spells hs] at h
      split at h
      · cases h
      · next hb =>
        cases h
        exact .inl ⟨rfl, w, hs, hb⟩
    · rw [ofShorthand_of_not_spells hs] at h
      cases h
      exact .inr ⟨rfl, hs⟩
  · rintro (⟨rfl, w, hs, hb⟩ | ⟨rfl, hs⟩)
    · rw [ofShorthand_of_spells hs, if_neg hb]
    · exact ofShorthand_of_not_spells hs

theorem unbalanced_ne_invalid (a b : String) :
    "Unbalanced brackets in field shorthand: " ++ a ≠ "Invalid field shorthand: " ++ b := by
  intro h
  have hhead := congrArg (fun s => s.toList.head?) h
  simp at hhead

/-- A text is the shorthand of a field just if it consists of up to two opening brackets, a type name,
as many closing brackets and at most one question mark, with any blanks around these, and it stands for
the field with this name and as many depths. All other texts are faults, and the message tells those
with this shape but for the balance of the brackets from the rest. -/
theorem shorthand_grammar (s : String) :
    (∀ f, ofShorthand s = .ok f ↔ ∃ w : Written, w.Spells s.toList ∧ w.opened = w.closed ∧
      f = ⟨String.ofList w.name, decide (1 ≤ w.opened), decide (w.opened = 2), w.optional⟩) ∧
    ((∃ fault, ofShorthand s = .error fault ∧
        fault.message = "Unbalanced brackets in field shorthand: " ++ Text.quoted s) ↔
      ∃ w : Written, w.Spells s.toList ∧ w.opened ≠ w.closed) ∧
    ((∃ fault, ofShorthand s = .error fault ∧
        fault.message = "Invalid field shorthand: " ++ Text.quoted s) ↔
      ¬ ∃ w : Written, w.Spells s.toList) := by
  refine ⟨fun f => ofShorthand_ok_iff, ⟨?_, fun h => ?_⟩, ⟨?_, fun h => ?_⟩⟩
  · rintro ⟨fault, he, hm⟩
    rcases ofShorthand_error_iff.mp he with ⟨-, h⟩ | ⟨rfl, -⟩
    · exact h
    · exact absurd hm.symm (unbalanced_ne_invalid _ _)
  · exact ⟨_, ofShorthand_error_iff.mpr (.inl ⟨rfl, h⟩), rfl⟩
  · rintro ⟨fault, he, hm⟩
    rcases ofShorthand_error_iff.mp he with ⟨rfl, -⟩ | ⟨-, h⟩
    · exact absurd hm (unbalanced_ne_invalid _ _)
    · exact h
  · exact ⟨_, ofShorthand_error_iff.mpr (.inr ⟨rfl, h⟩), rfl⟩

/-- Blanks may part the brackets; one bracket too many is no fault of the shape. -/
example : ofShorthand "[ [A] ]\t?" = .ok ⟨"A", true, true, true⟩ ∧
    ofShorthand "[A]]" = .error (.unbalanced "[A]]") := ⟨rfl, rfl⟩

end Field
end ClientGen
