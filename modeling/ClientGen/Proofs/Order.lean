import ClientGen.Table

/-! Sorting by name puts the entries of a table into strictly ascending order. -/

namespace ClientGen
namespace Text

variable {α : Type}

theorem lt_of_not_lt_of_ne {a b : String} (h : ¬ a < b) (hne : a ≠ b) : b < a := by
  have hle : b ≤ a := String.not_lt.mp h
  by_cases hba : b < a
  · exact hba
  · exact absurd (String.le_antisymm (String.not_lt.mp hba) hle) hne

theorem insertByKey_ascending {p : String × α} {l : List (String × α)}
    (hl : l.Pairwise fun a b => a.1 < b.1) (hp : ∀ q ∈ l, q.1 ≠ p.1) :
    (insertByKey p l).Pairwise fun a b => a.1 < b.1 := by
  induction l with
  | nil => simp [insertByKey]
  | cons q rest ih =>
    obtain ⟨hq, hrest⟩ := List.pairwise_cons.mp hl
    simp only [insertByKey]
    split
    · next hqp =>
      refine List.pairwise_cons.mpr ⟨?_, ih hrest fun r hr => hp r (by simp [hr])⟩
      intro r hr
      rcases List.mem_cons.mp ((insertByKey_perm p rest).mem_iff.mp hr) with rfl | hr
      · exact hqp
      · exact hq r hr
    · next hqp =>
      have hpq : p.1 < q.1 := lt_of_not_lt_of_ne hqp (hp q (by simp))
      refine List.pairwise_cons.mpr ⟨?_, hl⟩
      intro r hr
      rcases List.mem_cons.mp hr with rfl | hr
      · exact hpq
      · exact String.lt_trans hpq (hq r hr)

/-- Entries with distinct names come in strictly ascending order. -/
theorem sortByKey_ascending {l : List (String × α)} (h : (l.map Prod.fst).Nodup) :
    (sortByKey l).Pairwise fun a b => a.1 < b.1 := by
  induction l with
  | nil => simp [sortByKey]
  | cons p rest ih =>
    obtain ⟨hp, hrest⟩ := List.nodup_cons.mp h
    refine insertByKey_ascending (ih hrest) fun q hq e => hp ?_
    exact List.mem_map.mpr ⟨q, mem_sortByKey.mp hq, e⟩

end Text

namespace Table

variable {α : Type}

theorem sorted_ascending (t : Table α) : t.sorted.Pairwise fun a b => a.1 < b.1 :=
  Text.sortByKey_ascending t.nodup

theorem sorted_names_ascending (t : Table α) : (t.sorted.map Prod.fst).Pairwise (· < ·) :=
  List.pairwise_map.mpr t.sorted_ascending

theorem sorted_names_perm (t : Table α) : (t.sorted.map Prod.fst).Perm t.names :=
  (Text.sortByKey_perm t.toList).map Prod.fst

end Table
end ClientGen
