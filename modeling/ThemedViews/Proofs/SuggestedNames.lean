import Mathlib.Data.List.FinRange
import ThemedViews.Proofs.EditDistance
import ThemedViews.Template.Diagnosis

/-!
# Which names are suggested

A name is suggested for a target if it is near enough and at most two such names come
before it.  One name comes before another if it is closer, or as close and earlier in the
list.  The names are sorted by their distances alone, which keeps equally close ones in the
order of the list.  As a list may hold a name several times, the places of
the list are sorted here instead of the names.
-/

namespace ThemedViews.Template

section Sorting

/-- Each position stands at its own index. -/
theorem val_eq_of_mem_zipIdx_finRange {count : Nat} {entry : Fin count × Nat}
    (member : entry ∈ (List.finRange count).zipIdx) : entry.1.val = entry.2 := by
  obtain ⟨place, index⟩ := entry
  obtain ⟨inRange, rfl⟩ := List.getElem?_eq_some_iff.mp (List.mk_mem_zipIdx_iff_getElem?.mp member)
  rw [List.getElem_finRange, Fin.val_cast]

/-- Sorting positions by keys leaves those with equal keys in their order. -/
theorem pairwise_mergeSort_finRange {count : Nat} (key : Fin count → Nat) :
    ((List.finRange count).mergeSort fun place other => key place ≤ key other).Pairwise fun place other =>
      key place < key other ∨ key place = key other ∧ place < other := by
  have transitive : ∀ first second third, decide (key first ≤ key second) →
      decide (key second ≤ key third) → decide (key first ≤ key third) := by
    intro first second third ahead behind
    exact decide_eq_true (Nat.le_trans (of_decide_eq_true ahead) (of_decide_eq_true behind))
  have total : ∀ first second, decide (key first ≤ key second) || decide (key second ≤ key first) := by
    intro first second
    rw [Bool.or_eq_true, decide_eq_true_eq, decide_eq_true_eq]
    exact Nat.le_total ..
  -- The sort is that of the positions with their indices, which decide where the keys are equal.
  have sorted := List.pairwise_mergeSort (List.zipIdxLE_trans transitive) (List.zipIdxLE_total total)
    (List.finRange count).zipIdx
  have distinct : ((List.finRange count).mergeSort fun place other => key place ≤ key other).Nodup :=
    (List.mergeSort_perm ..).nodup_iff.mpr (List.nodup_finRange count)
  rw [← List.mergeSort_zipIdx, List.Nodup, List.pairwise_map] at distinct
  rw [← List.mergeSort_zipIdx, List.pairwise_map]
  refine (sorted.and distinct).imp_of_mem fun {entry other} member otherMember ⟨ordered, differ⟩ => ?_
  have index := val_eq_of_mem_zipIdx_finRange (List.mem_mergeSort.mp member)
  have otherIndex := val_eq_of_mem_zipIdx_finRange (List.mem_mergeSort.mp otherMember)
  have placesDiffer := Fin.val_ne_of_ne differ
  simp only [List.zipIdxLE, decide_eq_true_eq] at ordered
  rw [Fin.lt_def]
  split at ordered
  · split at ordered
    · rw [decide_eq_true_eq] at ordered
      omega
    · omega
  · cases ordered

/-- What is not among the first items of an ordered list comes behind them. -/
theorem length_take_and_forall_of_not_mem_take {α : Type} {before : α → α → Prop} {items : List α}
    {count : Nat} {item : α} (ordered : items.Pairwise before) (member : item ∈ items)
    (left : item ∉ items.take count) :
    (items.take count).length = count ∧ ∀ other ∈ items.take count, before other item := by
  rw [← List.take_append_drop count items] at ordered member
  have behind : item ∈ items.drop count := (List.mem_append.mp member).resolve_left left
  have enough : count < items.length := by
    have some := List.length_pos_of_mem behind
    rw [List.length_drop] at some
    omega
  refine ⟨List.length_take_of_le (Nat.le_of_lt enough), fun other among => ?_⟩
  exact (List.pairwise_append.mp ordered).2.2 other among item behind

end Sorting

section Places

variable (target : String) (available : List String)

/-- The distance of the name at a place. -/
def distanceAt (place : Fin available.length) : Nat :=
  Text.distance target.toList available[place].toList

/-- The name at a place comes before that at another: it is closer, or as close and earlier. -/
def ComesBefore (place other : Fin available.length) : Prop :=
  distanceAt target available place < distanceAt target available other ∨
    distanceAt target available place = distanceAt target available other ∧ place < other

/-- The places of the names that are near enough, in the order of their distances. -/
def nearPlaces : List (Fin available.length) :=
  ((List.finRange available.length).mergeSort fun place other =>
    distanceAt target available place ≤ distanceAt target available other).filter fun place =>
      distanceAt target available place ≤ suggestionLimit target

variable {target available} in
theorem mem_nearPlaces_iff {place : Fin available.length} :
    place ∈ nearPlaces target available ↔ distanceAt target available place ≤ suggestionLimit target := by
  rw [nearPlaces, List.mem_filter, List.mem_mergeSort, decide_eq_true_eq]
  exact and_iff_right (List.mem_finRange place)

theorem pairwise_nearPlaces : (nearPlaces target available).Pairwise (ComesBefore target available) :=
  (pairwise_mergeSort_finRange (distanceAt target available)).filter _

/-- The names that are suggested are those at the first three near places. -/
theorem similarNames_eq_map : similarNames target available =
    ((nearPlaces target available).take 3).map fun place => available[place] := by
  have scored : available.map (fun name => (name, Text.distance target.toList name.toList)) =
      (List.finRange available.length).map fun place => (available[place], distanceAt target available place) := by
    conv_lhs => rw [← List.map_getElem_finRange available, List.map_map]
    rfl
  have sorted := List.map_mergeSort (l := List.finRange available.length)
    (f := fun place => (available[place], distanceAt target available place))
    (r := fun place other => distanceAt target available place ≤ distanceAt target available other)
    (s := fun left right => left.2 ≤ right.2) fun _ _ _ _ => rfl
  rw [similarNames]
  simp only [scored]
  rw [← sorted, List.filter_map, ← List.map_take, List.map_map]
  rfl

end Places

theorem suggestionLimit_eq (target : String) : suggestionLimit target = target.utf8ByteSize / 2 := by
  rw [suggestionLimit]
  omega

/-- The names that are suggested stand at most at three places of the list, none of which is farther from
the target than half the bytes of the target, in the order of their distances and, where these
are equal, of the list.  If another name is near enough, there are three, and all of
them come before it.  The distance is the least number of edits. -/
theorem exists_places_similarNames (target : String) (available : List String) :
    (∀ place, IsLeast {count | Text.Edits count target.toList available[place].toList}
      (distanceAt target available place)) ∧
    ∃ places : List (Fin available.length),
      similarNames target available = places.map (fun place => available[place]) ∧
      places.length ≤ 3 ∧
      (∀ place ∈ places, distanceAt target available place ≤ target.utf8ByteSize / 2) ∧
      places.Pairwise (ComesBefore target available) ∧
      ∀ other ∉ places, distanceAt target available other ≤ target.utf8ByteSize / 2 →
        places.length = 3 ∧ ∀ place ∈ places, ComesBefore target available place other := by
  have ordered := pairwise_nearPlaces target available
  rw [← suggestionLimit_eq]
  refine ⟨fun place => Text.isLeast_distance _ _, (nearPlaces target available).take 3,
    similarNames_eq_map target available, List.length_take_le _ _, ?_,
    ordered.sublist (List.take_sublist _ _), ?_⟩
  · intro place member
    exact mem_nearPlaces_iff.mp (List.mem_of_mem_take member)
  · intro other left near
    exact length_take_and_forall_of_not_mem_take ordered (mem_nearPlaces_iff.mpr near) left

example : similarNames "title" ["tile", "body", "tilde", "title", "tile"] = ["title", "tile", "tile"] := by
  cbv

end ThemedViews.Template
