/-!
# Order of names

Names are ordered by their characters' code points. `sortByKey` puts named things into ascending
order of their names; things of one name keep their order.
-/

namespace ClientGen
namespace Text

variable {α : Type}

/-- Puts `p` before the first entry whose key is not below that of `p`. -/
def insertByKey (p : String × α) : List (String × α) → List (String × α)
  | [] => [p]
  | q :: rest => if q.1 < p.1 then q :: insertByKey p rest else p :: q :: rest

/-- The entries in ascending order of their keys. -/
def sortByKey : List (String × α) → List (String × α)
  | [] => []
  | p :: rest => insertByKey p (sortByKey rest)

theorem insertByKey_perm (p : String × α) (l : List (String × α)) :
    (insertByKey p l).Perm (p :: l) := by
  induction l with
  | nil => exact List.Perm.refl _
  | cons q rest ih =>
    simp only [insertByKey]
    split
    · exact (ih.cons q).trans (List.Perm.swap p q rest)
    · exact List.Perm.refl _

/-- Sorting loses and adds no entry. -/
theorem sortByKey_perm (l : List (String × α)) : (sortByKey l).Perm l := by
  induction l with
  | nil => exact List.Perm.refl _
  | cons p rest ih => exact (insertByKey_perm p _).trans (ih.cons p)

@[simp] theorem length_sortByKey (l : List (String × α)) : (sortByKey l).length = l.length :=
  (sortByKey_perm l).length_eq

@[simp] theorem mem_sortByKey {p : String × α} {l : List (String × α)} :
    p ∈ sortByKey l ↔ p ∈ l :=
  (sortByKey_perm l).mem_iff

theorem sortByKey_map {β : Type} (f : α → β) (l : List (String × α)) :
    sortByKey (l.map fun p => (p.1, f p.2)) = (sortByKey l).map fun p => (p.1, f p.2) := by
  have insert_map (p : String × α) (l : List (String × α)) :
      insertByKey (p.1, f p.2) (l.map fun p => (p.1, f p.2)) =
        (insertByKey p l).map fun p => (p.1, f p.2) := by
    induction l with
    | nil => rfl
    | cons q rest ih =>
      simp only [List.map_cons, insertByKey]
      split <;> simp_all
  induction l with
  | nil => rfl
  | cons p rest ih => simp only [List.map_cons, sortByKey, ih, insert_map]

end Text
end ClientGen
