/-!
# Stores by reference

Several owners may refer to the same store: what one of them puts there all of them find. A reference that nothing
has been put under leads to an empty store.
-/

namespace ThemedViews

/-- Stores under the references to them. -/
structure Heap (α : Type) where
  cells : List (Nat × α)

namespace Heap

variable {α : Type}

/-- Nothing but empty stores. -/
def empty : Heap α :=
  ⟨[]⟩

/-- The store that a reference leads to. -/
def find [Inhabited α] (reference : Nat) (heap : Heap α) : α :=
  (heap.cells.lookup reference).getD default

/-- Another store under a reference. -/
def put (reference : Nat) (store : α) (heap : Heap α) : Heap α :=
  ⟨(reference, store) :: heap.cells.filter fun cell => cell.1 ≠ reference⟩

variable {reference other : Nat}

@[simp]
theorem find_put_self [Inhabited α] (store : α) (heap : Heap α) :
    (heap.put reference store).find reference = store := by
  simp [find, put]

theorem lookup_filter_of_ne (different : other ≠ reference) (cells : List (Nat × α)) :
    (cells.filter fun cell => cell.1 ≠ reference).lookup other = cells.lookup other := by
  induction cells with
  | nil => rfl
  | cons cell rest hypothesis =>
    obtain ⟨found, store⟩ := cell
    by_cases same : found = reference
    · have skipped : (other == found) = false := by simpa [same] using different
      rw [List.filter_cons_of_neg (by simpa using same), hypothesis, List.lookup_cons, skipped]
    · rw [List.filter_cons_of_pos (by simpa using same), List.lookup_cons, List.lookup_cons, hypothesis]

theorem find_put_of_ne [Inhabited α] (different : other ≠ reference) (store : α) (heap : Heap α) :
    (heap.put reference store).find other = heap.find other := by
  have unequal : (other == reference) = false := by simpa using different
  rw [find, put, List.lookup_cons, unequal, lookup_filter_of_ne different, ← find]

theorem find_put [Inhabited α] (reference other : Nat) (store : α) (heap : Heap α) :
    (heap.put reference store).find other = if other = reference then store else heap.find other := by
  split
  · next same => rw [same, find_put_self]
  · next different => exact find_put_of_ne different store heap

end Heap

end ThemedViews
