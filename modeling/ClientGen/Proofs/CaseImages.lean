import ClientGen.Identifier
import ClientGen.Proofs.Lines

/-! Characters that no change of case brings into a text. Line breaks and underlines are such
characters, so a name that is put into another form has none where it had none. -/

namespace ClientGen
namespace Text

/-- A character that is the image of no other one under the mappings of case. -/
structure Settled (ch : Char) : Prop where
  eq_of_mem_upperChar {c : Char} : ch ∈ upperChar c → c = ch
  eq_of_mem_lowerChar {c : Char} : ch ∈ lowerChar c → c = ch
  ne_sigma : ch ≠ 'σ' ∧ ch ≠ 'ς'

/-- Whether no mapping yields the character: none of ASCII does, it is in no listed sequence, and no
run of the tables moves onto it. -/
def isUnmapped (ch : Char) : Bool :=
  ((List.range 0x80).all fun n =>
    n == ch.toNat || (Char.ofNat n).toUpper != ch && (Char.ofNat n).toLower != ch) &&
  ((upperSequences ++ lowerSequences).all fun s => !s.2.contains ch.toNat) &&
  (upperRuns ++ lowerRuns).all fun r =>
    decide ((ch.toNat : Int) < r.first + r.shift ∨ r.last + r.shift < (ch.toNat : Int))

theorem exists_of_moved? {n k : Nat} {runs : List CaseRun} (h : moved? n runs = some k) :
    ∃ r ∈ runs, r.first ≤ n ∧ n ≤ r.last ∧ k = ((n : Int) + r.shift).toNat := by
  induction runs with
  | nil => simp [moved?] at h
  | cons r rest ih =>
    rw [moved?] at h
    split at h
    · next hr =>
      simp only [CaseRun.holds, Bool.and_eq_true, decide_eq_true_eq] at hr
      exact ⟨r, by simp, hr.1.1, hr.1.2, (Option.some.inj h).symm⟩
    · obtain ⟨s, hs, hk⟩ := ih h
      exact ⟨s, by simp [hs], hk⟩

/-- A number stands for a character other than the null character only if it is its number. -/
theorem eq_toNat_of_ofNat {n : Nat} {ch : Char} (h : Char.ofNat n = ch) (hz : ch ≠ '\x00') :
    n = ch.toNat := by
  by_cases hn : n.isValidChar
  · have hvalid : Char.ofNat n = Char.ofNatAux n hn := dif_pos hn
    exact congrArg Char.toNat (hvalid.symm.trans h)
  · have hnull : Char.ofNat n = '\x00' := dif_neg hn
    exact absurd (h.symm.trans hnull) hz

theorem eq_of_mem_mapped {ch c : Char} {sequences : List (Nat × List Nat)} {runs : List CaseRun}
    (hz : ch ≠ '\x00') (hs : ∀ s ∈ sequences, ch.toNat ∉ s.2)
    (hr : ∀ r ∈ runs, (ch.toNat : Int) < r.first + r.shift ∨ r.last + r.shift < (ch.toNat : Int))
    (h : ch ∈ mapped sequences runs c) : c = ch := by
  unfold mapped at h
  split at h
  · next ns hns =>
    obtain ⟨front, back, hl, -⟩ := List.lookup_eq_some_iff.mp hns
    obtain ⟨n, hn, he⟩ := List.mem_map.mp h
    rw [eq_toNat_of_ofNat he hz] at hn
    exact absurd hn (hs (c.toNat, ns) (by simp [hl]))
  · -- A run moves the character away from `ch`; outside the runs it is its own image.
    rw [List.mem_singleton] at h
    cases hm : moved? c.toNat runs with
    | none =>
      rw [hm, Option.getD_none, Char.ofNat_toNat] at h
      exact h.symm
    | some k =>
      rw [hm, Option.getD_some] at h
      obtain ⟨r, hmem, hfirst, hlast, hk⟩ := exists_of_moved? hm
      have hch := eq_toNat_of_ofNat h.symm hz
      have hpos : ch.toNat ≠ 0 := fun e => hz (Char.ext (UInt32.toNat_inj.mp e))
      have havoid := hr r hmem
      omega

theorem settled_of_isUnmapped {ch : Char} (hz : ch ≠ '\x00') (hs : ch ≠ 'σ' ∧ ch ≠ 'ς')
    (h : isUnmapped ch = true) : Settled ch := by
  simp only [isUnmapped, Bool.and_eq_true, bne_iff_ne, ne_eq, List.all_append, List.all_eq_true,
    Bool.or_eq_true, beq_iff_eq, decide_eq_true_eq, List.mem_range, Bool.not_eq_true',
    List.contains_eq_mem, decide_eq_false_iff_not] at h
  obtain ⟨⟨hascii, hupper, hlower⟩, hupperRuns, hlowerRuns⟩ := h
  have hcase {c : Char} (hc : c.toNat < 0x80) : c = ch ∨ c.toUpper ≠ ch ∧ c.toLower ≠ ch := by
    rcases hascii c.toNat hc with he | hne
    · exact .inl (Char.ext (UInt32.toNat_inj.mp he))
    · rw [Char.ofNat_toNat] at hne
      exact .inr hne
  refine ⟨fun {c} hm => ?_, fun {c} hm => ?_, hs⟩
  · by_cases hc : c.toNat < 0x80
    · rw [upperChar_ascii hc, List.mem_singleton] at hm
      exact (hcase hc).elim id fun hne => absurd hm.symm hne.1
    · rw [upperChar, if_neg hc] at hm
      exact eq_of_mem_mapped hz hupper hupperRuns hm
  · by_cases hc : c.toNat < 0x80
    · rw [lowerChar_ascii hc, List.mem_singleton] at hm
      exact (hcase hc).elim id fun hne => absurd hm.symm hne.2
    · rw [lowerChar, if_neg hc] at hm
      exact eq_of_mem_mapped hz hlower hlowerRuns hm

theorem settled_newline : Settled '\n' :=
  settled_of_isUnmapped (by decide) (by decide) (by decide +kernel)

theorem settled_underline : Settled '_' :=
  settled_of_isUnmapped (by decide) (by decide) (by decide +kernel)

theorem Settled.mem_of_mem_lowerAfter {ch : Char} (h : Settled ch) {before cs : List Char}
    (hm : ch ∈ lowerAfter before cs) : ch ∈ cs := by
  induction cs generalizing before with
  | nil => simp [lowerAfter] at hm
  | cons c rest ih =>
    rw [lowerAfter, List.mem_append] at hm
    rcases hm with hm | hm
    · split at hm
      · split at hm
        · exact absurd (List.mem_singleton.mp hm) h.ne_sigma.2
        · exact absurd (List.mem_singleton.mp hm) h.ne_sigma.1
      · exact List.mem_cons.mpr (.inl (h.eq_of_mem_lowerChar hm).symm)
    · exact List.mem_cons_of_mem c (ih hm)

end Text

namespace Identifier

open Text

theorem mem_of_mem_titled {ch : Char} (h : Settled ch) {part : List Char} (hm : ch ∈ titled part) :
    ch ∈ part := by
  cases part with
  | nil => simp [titled] at hm
  | cons c rest =>
    rw [titled, List.mem_append] at hm
    rcases hm with hm | hm
    · exact List.mem_cons.mpr (.inl (h.eq_of_mem_upperChar hm).symm)
    · exact List.mem_cons_of_mem c (h.mem_of_mem_lowerAfter hm)

/-- A settled character of the joined words is in one of them. -/
theorem exists_mem_of_mem_camelized {ch : Char} (h : Settled ch) {s : String}
    (hm : ch ∈ (camelized s).toList) : ∃ part ∈ split '_' s.toList, ch ∈ part := by
  rw [camelized, String.toList_ofList] at hm
  cases hs : split '_' s.toList with
  | nil => exact absurd hs (split_ne_nil _ _)
  | cons first rest =>
    rw [hs, joinWords, List.mem_append] at hm
    rcases hm with hm | hm
    · exact ⟨first, by simp, h.mem_of_mem_lowerAfter hm⟩
    · obtain ⟨part, hp, hm⟩ := List.mem_flatMap.mp hm
      exact ⟨part, by simp [hp], mem_of_mem_titled h hm⟩

/-- The joined words have no underline. -/
theorem underline_not_mem_camelized (s : String) : '_' ∉ (camelized s).toList := by
  intro hm
  obtain ⟨part, hp, hm⟩ := exists_mem_of_mem_camelized settled_underline hm
  exact (mem_of_mem_split hp hm).2 rfl

/-- A settled character is in a name that is put into another form only if it was in the name. -/
theorem not_mem_camelized {ch : Char} (h : Settled ch) {s : String} (hs : ch ∉ s.toList) :
    ch ∉ (camelized s).toList := by
  intro hm
  obtain ⟨part, hp, hm⟩ := exists_mem_of_mem_camelized h hm
  exact hs (mem_of_mem_split hp hm).1

theorem not_mem_capitalized {ch : Char} (h : Settled ch) {s : String} (hs : ch ∉ s.toList) :
    ch ∉ (capitalized s).toList := by
  rw [capitalized, String.toList_ofList]
  cases hl : s.toList with
  | nil => simp [upperFirst]
  | cons c rest =>
    rw [hl, List.mem_cons, not_or] at hs
    rw [upperFirst, List.mem_append, not_or]
    exact ⟨fun hm => hs.1 (h.eq_of_mem_upperChar hm).symm, hs.2⟩

theorem unbroken_camelized {s : String} (h : Unbroken s) : Unbroken (camelized s) :=
  not_mem_camelized settled_newline h

theorem unbroken_capitalized {s : String} (h : Unbroken s) : Unbroken (capitalized s) :=
  not_mem_capitalized settled_newline h

end Identifier
end ClientGen
