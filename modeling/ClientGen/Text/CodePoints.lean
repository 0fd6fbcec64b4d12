/-!
# Code points

A text is a row of code points. Nearly all of them are characters, but the escapes of a document can
also state a surrogate by itself, which is none. A text holds such a code point as two characters: the
mark, and behind it one that tells which code point is meant. The mark itself, where it is meant as a
character, is held in this way too, so that different texts are held differently. The order of texts is
that of their code points, and no rule on characters speaks of the two.
-/

namespace ClientGen
namespace Text

/-- The character before which all surrogates stand in the order. -/
def mark : Char := '\uD7FF'

/-- A code point that is no character. -/
def isSurrogate (n : Nat) : Bool :=
  0xD800 ≤ n && n ≤ 0xDFFF

/-- Whether a text holds a code point as two characters. -/
def isMarked (n : Nat) : Bool :=
  n == mark.toNat || isSurrogate n

/-- The distance from a marked code point to the character behind the mark. -/
def markShift : Nat := 0x801

/-- The characters that a text holds a code point as. -/
def held (n : Nat) : List Char :=
  if isMarked n then [mark, Char.ofNat (n + markShift)] else [Char.ofNat n]

/-- The characters that a text holds characters as. -/
def heldChars (cs : List Char) : List Char :=
  cs.flatMap fun c => held c.toNat

/-- The code points of a text. -/
def codePoints : List Char → List Nat
  | [] => []
  | [c] => [c.toNat]
  | c :: k :: rest =>
    if c = mark && isMarked (k.toNat - markShift) then
      (k.toNat - markShift) :: codePoints rest
    else c.toNat :: codePoints (k :: rest)

theorem isMarked_iff {n : Nat} : isMarked n = true ↔ 0xD7FF ≤ n ∧ n ≤ 0xDFFF := by
  have hm : mark.toNat = 0xD7FF := rfl
  simp only [isMarked, isSurrogate, hm, Bool.or_eq_true, beq_iff_eq, Bool.and_eq_true,
    decide_eq_true_eq]
  omega

/-- The characters behind a mark are no marks. -/
theorem not_isMarked_mark : isMarked (mark.toNat - markShift) = false := by decide

theorem codePoints_cons {c : Char} (h : c ≠ mark) (rest : List Char) :
    codePoints (c :: rest) = c.toNat :: codePoints rest := by
  cases rest <;> simp [codePoints, h]

/-- A marked code point is read as itself wherever it stands in a text. -/
theorem codePoints_append_marked (before : List Char) {k : Char}
    (hk : isMarked (k.toNat - markShift) = true) (rest : List Char) :
    codePoints (before ++ mark :: k :: rest) =
      codePoints before ++ (k.toNat - markShift) :: codePoints rest := by
  induction before using codePoints.induct with
  | case1 => simp [codePoints, hk]
  | case2 c =>
    have hm : isMarked (mark.toNat - markShift) = false := not_isMarked_mark
    simp [codePoints, hm, hk]
  | case3 c l more h ih =>
    simp only [List.cons_append, codePoints, h, if_true, ih]
  | case4 c l more h ih =>
    simp only [List.cons_append] at ih
    simp only [List.cons_append, codePoints, h, Bool.false_eq_true, if_false, ih]

/-- A text without marks is the row of its characters. -/
theorem codePoints_of_not_mem {cs : List Char} (h : mark ∉ cs) :
    codePoints cs = cs.map Char.toNat := by
  induction cs with
  | nil => rfl
  | cons c rest ih =>
    have hc : c ≠ mark := fun e => h (by simp [e])
    rw [codePoints_cons hc, ih fun m => h (by simp [m]), List.map_cons]

theorem isSurrogate_eq_false_iff {n : Nat} : isSurrogate n = false ↔ n < 0xD800 ∨ 0xDFFF < n := by
  simp only [isSurrogate, Bool.and_eq_false_iff, decide_eq_false_iff_not]
  omega

theorem toNat_ofNat {n : Nat} (h : n ≤ 0x10FFFF) (hs : isSurrogate n = false) :
    (Char.ofNat n).toNat = n := by
  have hv : n.isValidChar := by
    rw [isSurrogate_eq_false_iff] at hs
    unfold Nat.isValidChar
    omega
  have hc : Char.ofNat n = Char.ofNatAux n hv := dif_pos hv
  rw [hc]
  rfl

/-- A marked code point and then a text. -/
theorem codePoints_held_append_of_isMarked {n : Nat} (h : isMarked n = true) (rest : List Char) :
    codePoints (held n ++ rest) = n :: codePoints rest := by
  obtain ⟨hl, hu⟩ := isMarked_iff.mp h
  have hd : markShift = 0x801 := rfl
  have hs : isSurrogate (n + markShift) = false := isSurrogate_eq_false_iff.mpr (.inr (by omega))
  have hn : (Char.ofNat (n + markShift)).toNat = n + markShift := toNat_ofNat (by omega) hs
  have hk : (Char.ofNat (n + markShift)).toNat - markShift = n := by omega
  have hread := codePoints_append_marked [] (hk.symm ▸ h) rest
  rw [hk] at hread
  rw [held, if_pos h]
  exact hread

theorem codePoints_held_append_of_not_isMarked {n : Nat} (hn : n ≤ 0x10FFFF)
    (h : isMarked n = false) (rest : List Char) :
    codePoints (held n ++ rest) = n :: codePoints rest := by
  rw [isMarked, Bool.or_eq_false_iff] at h
  have hc : Char.ofNat n ≠ mark := by
    intro he
    have hn' := congrArg Char.toNat he
    rw [toNat_ofNat hn h.2] at hn'
    simp [hn'] at h
  rw [held, isMarked, h.1, h.2, Bool.or_false, if_neg Bool.false_ne_true, List.singleton_append,
    codePoints_cons hc, toNat_ofNat hn h.2]

/-- What a text holds is read as the same code points. -/
theorem codePoints_flatMap_held {ns : List Nat} (h : ∀ n ∈ ns, n ≤ 0x10FFFF) :
    codePoints (ns.flatMap held) = ns := by
  induction ns with
  | nil => rfl
  | cons n rest ih =>
    obtain ⟨hn, hrest⟩ := List.forall_mem_cons.mp h
    rw [List.flatMap_cons]
    cases hm : isMarked n with
    | true => rw [codePoints_held_append_of_isMarked hm, ih hrest]
    | false => rw [codePoints_held_append_of_not_isMarked hn hm, ih hrest]

end Text
end ClientGen
