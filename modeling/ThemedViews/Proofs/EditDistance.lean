import Mathlib.Order.Bounds.Defs
import ThemedViews.Text.Distance

/-!
# Edits of texts

An edit inserts, deletes or substitutes one character.  The distance of two texts is
the least number of edits that lead from one to the other.  Its rows are those of a
recursion on both texts from their ends, and what this recursion gives changes by at most
one when a text is edited.
-/

namespace ThemedViews.Text

/-- One character is inserted, deleted or substituted. -/
inductive Edit : Text → Text → Prop where
  | insertion (before : Text) (character : Char) (behind : Text) :
      Edit (before ++ behind) (before ++ character :: behind)
  | deletion (before : Text) (character : Char) (behind : Text) :
      Edit (before ++ character :: behind) (before ++ behind)
  | substitution (before : Text) (character other : Char) (behind : Text) :
      Edit (before ++ character :: behind) (before ++ other :: behind)

/-- A number of edits, one after another. -/
inductive Edits : Nat → Text → Text → Prop where
  | none (text : Text) : Edits 0 text text
  | next {count : Nat} {source between target : Text} (edits : Edits count source between)
      (edit : Edit between target) : Edits (count + 1) source target

section Edits

variable {count : Nat} {source target : Text}

theorem Edit.cons (edit : Edit source target) (character : Char) :
    Edit (character :: source) (character :: target) := by
  cases edit with
  | insertion before inserted behind => exact .insertion (character :: before) inserted behind
  | deletion before deleted behind => exact .deletion (character :: before) deleted behind
  | substitution before old new behind => exact .substitution (character :: before) old new behind

theorem Edit.reverse (edit : Edit source target) : Edit source.reverse target.reverse := by
  cases edit with
  | insertion before inserted behind =>
      simpa using Edit.insertion behind.reverse inserted before.reverse
  | deletion before deleted behind =>
      simpa using Edit.deletion behind.reverse deleted before.reverse
  | substitution before old new behind =>
      simpa using Edit.substitution behind.reverse old new before.reverse

theorem Edits.cons (edits : Edits count source target) (character : Char) :
    Edits count (character :: source) (character :: target) := by
  induction edits with
  | none text => exact .none (character :: text)
  | next edits edit ih => exact ih.next (edit.cons character)

theorem Edits.reverse (edits : Edits count source target) : Edits count source.reverse target.reverse := by
  induction edits with
  | none text => exact .none text.reverse
  | next edits edit ih => exact ih.next edit.reverse

/-- The shorter of two ways. -/
theorem Edits.min {other : Nat} (edits : Edits count source target) (others : Edits other source target) :
    Edits (min count other) source target := by
  rcases Nat.le_total count other with less | more
  · rwa [Nat.min_eq_left less]
  · rwa [Nat.min_eq_right more]

end Edits

/-- The distance of two texts that are given backwards. -/
def gapOf : (source target : Text) → Nat
  | [], target => target.length
  | source, [] => source.length
  | first :: source, other :: target =>
      min (min (gapOf (first :: source) target + 1) (gapOf source (other :: target) + 1))
        (gapOf source target + if first = other then 0 else 1)
termination_by source target => source.length + target.length

@[simp]
theorem gapOf_nil_left (target : Text) : gapOf [] target = target.length := by
  rw [gapOf]

@[simp]
theorem gapOf_nil_right (source : Text) : gapOf source [] = source.length := by
  cases source with
  | nil => rw [gapOf]
  | cons first source => rw [gapOf]; exact nofun

theorem gapOf_cons_cons (first other : Char) (source target : Text) :
    gapOf (first :: source) (other :: target) =
      min (min (gapOf (first :: source) target + 1) (gapOf source (other :: target) + 1))
        (gapOf source target + if first = other then 0 else 1) := by
  rw [gapOf]

section Rows

/-- The entries of a row behind the one for `behind`, as the other text goes on. -/
def entriesBehind (source : Text) : (behind others : Text) → List Nat
  | _, [] => []
  | behind, other :: others =>
      gapOf source (other :: behind) :: entriesBehind source (other :: behind) others

/-- The distances between a text that is given backwards and all beginnings of another. -/
def rowOf (target source : Text) : List Nat :=
  gapOf source [] :: entriesBehind source [] target

theorem nextEntries_entriesBehind (character : Char) (source behind others : Text) :
    nextEntries character (gapOf (character :: source) behind) (gapOf source behind) others
        (entriesBehind source behind others) =
      entriesBehind (character :: source) behind others := by
  induction others generalizing behind with
  | nil => rfl
  | cons other others ih =>
      rw [entriesBehind, entriesBehind, nextEntries, ← gapOf_cons_cons, ih]

theorem nextRow_rowOf (target source : Text) (character : Char) :
    nextRow target (rowOf target source) character = rowOf target (character :: source) := by
  have corner : gapOf source [] + 1 = gapOf (character :: source) [] := by simp
  rw [rowOf, nextRow, corner, nextEntries_entriesBehind]
  rfl

theorem foldl_nextRow_rowOf (target source known : Text) :
    source.foldl (nextRow target) (rowOf target known) = rowOf target (source.reverse ++ known) := by
  induction source generalizing known with
  | nil => rfl
  | cons first source ih => simp [nextRow_rowOf, ih]

theorem entriesBehind_nil (behind others : Text) :
    entriesBehind [] behind others = List.range' (behind.length + 1) others.length := by
  induction others generalizing behind with
  | nil => rfl
  | cons other others ih =>
      rw [entriesBehind, ih, gapOf_nil_left, List.length_cons, List.length_cons, List.range'_succ]

theorem range_eq_rowOf (target : Text) : List.range (target.length + 1) = rowOf target [] := by
  rw [rowOf, entriesBehind_nil, List.range_eq_range', List.range'_succ, gapOf_nil_left]
  rfl

theorem getLast?_entriesBehind (source behind others : Text) :
    (gapOf source behind :: entriesBehind source behind others).getLast? =
      some (gapOf source (others.reverse ++ behind)) := by
  induction others generalizing behind with
  | nil => rfl
  | cons other others ih =>
      simp [entriesBehind, List.getLast?_cons_cons, ih]

/-- The last entry of the last row is the distance of the whole texts. -/
theorem distance_eq_gapOf (source target : Text) :
    distance source target = gapOf source.reverse target.reverse := by
  rw [distance, range_eq_rowOf, foldl_nextRow_rowOf, rowOf, getLast?_entriesBehind]
  simp

end Rows

section Bounds

variable {source target changed : Text}

theorem gapOf_cons_left_le (first : Char) (source target : Text) :
    gapOf (first :: source) target ≤ gapOf source target + 1 := by
  cases target with
  | nil => simp
  | cons other target =>
      rw [gapOf_cons_cons]
      omega

theorem gapOf_cons_right_le (other : Char) (source target : Text) :
    gapOf source (other :: target) ≤ gapOf source target + 1 := by
  cases source with
  | nil => simp
  | cons first source =>
      rw [gapOf_cons_cons]
      omega

theorem gapOf_le_cons_right (other : Char) (source target : Text) :
    gapOf source target ≤ gapOf source (other :: target) + 1 := by
  induction source with
  | nil =>
      simp only [gapOf_nil_left, List.length_cons]
      omega
  | cons first source ih =>
      have removed := gapOf_cons_left_le first source target
      rw [gapOf_cons_cons]
      omega

theorem gapOf_cons_right_le_cons_right (first other : Char) (source target : Text) :
    gapOf source (other :: target) ≤ gapOf source (first :: target) + 1 := by
  induction source with
  | nil => simp
  | cons start source ih =>
      rw [gapOf_cons_cons start other, gapOf_cons_cons start first]
      split <;> omega

/-- What holds behind a character holds with it. -/
theorem gapOf_le_cons_of_forall (atMost : ∀ source, gapOf source changed ≤ gapOf source target + 1)
    (character : Char) (source : Text) :
    gapOf source (character :: changed) ≤ gapOf source (character :: target) + 1 := by
  induction source with
  | nil =>
      have lengths := atMost []
      simp only [gapOf_nil_left, List.length_cons] at lengths ⊢
      omega
  | cons first source ih =>
      have whole := atMost (first :: source)
      have tail := atMost source
      rw [gapOf_cons_cons, gapOf_cons_cons]
      omega

theorem gapOf_le_append_of_forall (atMost : ∀ source, gapOf source changed ≤ gapOf source target + 1)
    (before source : Text) : gapOf source (before ++ changed) ≤ gapOf source (before ++ target) + 1 := by
  induction before generalizing source with
  | nil => exact atMost source
  | cons first before ih => exact gapOf_le_cons_of_forall ih first source

/-- An edit changes the distance by at most one. -/
theorem gapOf_le_of_edit (edit : Edit target changed) (source : Text) :
    gapOf source changed ≤ gapOf source target + 1 := by
  cases edit with
  | insertion before inserted behind =>
      exact gapOf_le_append_of_forall (fun source => gapOf_cons_right_le inserted source behind) before source
  | deletion before deleted behind =>
      exact gapOf_le_append_of_forall (fun source => gapOf_le_cons_right deleted source behind) before source
  | substitution before old new behind =>
      exact gapOf_le_append_of_forall (fun source => gapOf_cons_right_le_cons_right old new source behind)
        before source

theorem gapOf_self (text : Text) : gapOf text text = 0 := by
  induction text with
  | nil => rw [gapOf_nil_left, List.length_nil]
  | cons first text ih =>
      rw [gapOf_cons_cons, if_pos rfl, ih]
      omega

theorem gapOf_le_of_edits {count : Nat} (edits : Edits count source target) : gapOf source target ≤ count := by
  induction edits with
  | none text => exact Nat.le_of_eq (gapOf_self text)
  | next edits edit ih => exact Nat.le_trans (gapOf_le_of_edit edit _) (Nat.succ_le_succ ih)

/-- So many edits are enough. -/
theorem edits_gapOf (source target : Text) : Edits (gapOf source target) source target := by
  induction source, target using gapOf.induct with
  | case1 target =>
      induction target with
      | nil => simpa using Edits.none []
      | cons other target ih => simpa using ih.next (.insertion [] other target)
  | case2 source nonempty =>
      clear nonempty
      induction source with
      | nil => simpa using Edits.none []
      | cons first source ih => simpa using (ih.cons first).next (.deletion [] first [])
  | case3 first source other target inserted deleted kept =>
      have byInsertion := inserted.next (.insertion [] other target)
      have byDeletion := (deleted.cons first).next (.deletion [] first (other :: target))
      have bySubstitution : Edits (gapOf source target + if first = other then 0 else 1)
          (first :: source) (other :: target) := by
        split
        · next same => exact same ▸ kept.cons first
        · exact (kept.cons first).next (.substitution [] first other target)
      rw [gapOf_cons_cons]
      exact (byInsertion.min byDeletion).min bySubstitution

end Bounds

/-- The distance of two texts is the least number of edits that lead from one to the other. -/
theorem isLeast_distance (source target : Text) :
    IsLeast {count | Edits count source target} (distance source target) := by
  rw [distance_eq_gapOf]
  constructor
  · have edits := (edits_gapOf source.reverse target.reverse).reverse
    rwa [List.reverse_reverse, List.reverse_reverse] at edits
  · intro count edits
    exact gapOf_le_of_edits edits.reverse

end ThemedViews.Text
