import ClientGen.Text.Order

/-!
# Tables

A table has its entries in order and each name once. Putting an entry under an old name keeps its
place; a new one comes last.
-/

namespace ClientGen

/-- Entries with distinct names, in order. -/
structure Table (α : Type) where
  toList : List (String × α)
  nodup : (toList.map Prod.fst).Nodup

namespace Table

variable {α β : Type}

@[ext] theorem ext {t u : Table α} (h : t.toList = u.toList) : t = u := by
  cases t
  cases u
  simp_all

instance [DecidableEq α] : DecidableEq (Table α) := fun t u =>
  if h : t.toList = u.toList then isTrue (ext h) else isFalse fun e => h (e ▸ rfl)

def empty : Table α :=
  ⟨[], by simp⟩

instance : Inhabited (Table α) := ⟨empty⟩

def size (t : Table α) : Nat :=
  t.toList.length

/-- The names in order. -/
def names (t : Table α) : List String :=
  t.toList.map Prod.fst

/-- The entries with `a` under the name `k`. -/
def putList (k : String) (a : α) : List (String × α) → List (String × α)
  | [] => [(k, a)]
  | (m, b) :: rest => if m = k then (m, a) :: rest else (m, b) :: putList k a rest

theorem names_putList (k : String) (a : α) (l : List (String × α)) :
    (putList k a l).map Prod.fst =
      if k ∈ l.map Prod.fst then l.map Prod.fst else l.map Prod.fst ++ [k] := by
  induction l with
  | nil => simp [putList]
  | cons p rest ih =>
    obtain ⟨m, b⟩ := p
    by_cases h : m = k
    · simp [putList, h]
    · have hk : k ≠ m := fun e => h e.symm
      simp only [putList, h, if_false, List.map_cons, ih, List.mem_cons, hk, false_or]
      split <;> simp_all

/-- The table with `a` under the name `k`. -/
def put (t : Table α) (k : String) (a : α) : Table α :=
  ⟨putList k a t.toList, by
    rw [names_putList]
    split
    · exact t.nodup
    · next h =>
      rw [List.nodup_append]
      refine ⟨t.nodup, by simp, ?_⟩
      intro x hx y hy e
      simp only [List.mem_singleton] at hy
      exact h (by rw [← hy, ← e]; exact hx)⟩

/-- The table that results from putting the entries one after the other. -/
def ofList (l : List (String × α)) : Table α :=
  l.foldl (fun t p => t.put p.1 p.2) empty

/-- The entries in ascending order of their names. -/
def sorted (t : Table α) : List (String × α) :=
  Text.sortByKey t.toList

@[simp] theorem mem_sorted {t : Table α} {p : String × α} : p ∈ t.sorted ↔ p ∈ t.toList :=
  Text.mem_sortByKey

@[simp] theorem length_sorted (t : Table α) : t.sorted.length = t.size :=
  Text.length_sortByKey _

end Table
end ClientGen
