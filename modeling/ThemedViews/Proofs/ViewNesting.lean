import Mathlib.Data.Fintype.Card
import Mathlib.Data.Set.Finite.List
import Mathlib.Logic.Relation
import Mathlib.Order.WellFounded
import ThemedViews.Proofs.Tables
import ThemedViews.View.Rendering

/-!
# Views inside of views

Rendering a view renders the views in its data, in the shared data that it does
not bind itself, and in the data of its partials.  A view is larger than those
that it holds, but not than those that are shared.  So this nesting is
well-founded below a view unless some view below it is nested in itself, by way
of the shared data.
-/

namespace ThemedViews

open Relation

variable {κ : Type}

namespace DataValue

mutual

/-- The views that are rendered when data is resolved, in order. -/
def views : DataValue κ → List (View κ)
  | .scalar _ => []
  | .nested entries => viewsOfEntries entries
  | .renderable _ => []
  | .view inner => [inner]

/-- The views of entries, one after another. -/
def viewsOfEntries : List (String × DataValue κ) → List (View κ)
  | [] => []
  | (_, value) :: rest => views value ++ viewsOfEntries rest

end

theorem mem_viewsOfEntries {inner : View κ} {entries : List (String × DataValue κ)} :
    inner ∈ viewsOfEntries entries ↔ ∃ entry ∈ entries, inner ∈ views entry.2 := by
  induction entries with
  | nil => simp [viewsOfEntries]
  | cons entry rest ih =>
      rw [viewsOfEntries, List.mem_append, ih, List.exists_mem_cons_iff]

end DataValue

namespace View

open DataValue

/-- The views that a view holds in its data and in that of its partials. -/
def heldViews (view : View κ) : List (View κ) :=
  viewsOfEntries view.data ++ view.partials.flatMap fun entry => viewsOfEntries entry.2.data

/-- The views in shared data, whatever references lead there. -/
def sharedViews (shared : Heap (Data κ)) : List (View κ) :=
  shared.cells.flatMap fun cell => viewsOfEntries cell.2

/-- The views that are rendered when a view is rendered. -/
def nestedViews (shared : Heap (Data κ)) (view : View κ) : List (View κ) :=
  viewsOfEntries (view.mergedData shared) ++
    view.partials.flatMap fun entry => viewsOfEntries entry.2.data

/-- A view that is rendered when another is rendered. -/
def NestedIn (shared : Heap (Data κ)) (inner view : View κ) : Prop :=
  inner ∈ view.nestedViews shared

variable {shared : Heap (Data κ)} {view inner : View κ}

theorem mem_sharedViews_of_find {reference : Nat} (member : inner ∈ viewsOfEntries (shared.find reference)) :
    inner ∈ sharedViews shared := by
  rw [Heap.find] at member
  cases found : shared.cells.lookup reference with
  | none =>
      rw [found] at member
      cases member
  | some data =>
      rw [found] at member
      obtain ⟨before, behind, cells, -⟩ := List.lookup_eq_some_iff.mp found
      refine List.mem_flatMap.mpr ⟨(reference, data), ?_, member⟩
      rw [cells]
      exact List.mem_append_right before List.mem_cons_self

theorem mem_sharedViews_of_put {reference : Nat} {store : Data κ}
    (member : inner ∈ sharedViews (shared.put reference store)) :
    inner ∈ sharedViews shared ∨ inner ∈ viewsOfEntries store := by
  rcases List.mem_append.mp member with inStore | inOthers
  · exact .inr inStore
  · obtain ⟨cell, kept, found⟩ := List.mem_flatMap.mp inOthers
    exact .inl (List.mem_flatMap.mpr ⟨cell, List.mem_of_mem_filter kept, found⟩)

theorem NestedIn.mem_shared_or_mem_held (nested : NestedIn shared inner view) :
    inner ∈ sharedViews shared ∨ inner ∈ view.heldViews := by
  rcases List.mem_append.mp nested with inData | inPartial
  · obtain ⟨entry, member, found⟩ := mem_viewsOfEntries.mp inData
    rcases Table.mem_or_mem_of_mem_overlay member with below | above
    · exact .inl (mem_sharedViews_of_find (mem_viewsOfEntries.mpr ⟨entry, below, found⟩))
    · exact .inr (List.mem_append_left _ (mem_viewsOfEntries.mpr ⟨entry, above, found⟩))
  · exact .inr (List.mem_append_right _ inPartial)

/-- A view that is shared under a key that it does not bind is nested in
itself. -/
theorem nestedIn_self_of_shared {key : String} (shares : (key, .view view) ∈ shared.find view.handle.shared)
    (unbound : key ∉ Table.keys view.data) : NestedIn shared view view := by
  have seen := Table.mem_overlay_of_not_mem_keys shares unbound
  exact List.mem_append_left _ (mem_viewsOfEntries.mpr ⟨_, seen, List.mem_singleton.mpr rfl⟩)

section Induction

variable {motive : View κ → Prop}

mutual

theorem forall_views (step : ∀ view, (∀ inner ∈ heldViews view, motive inner) → motive view) :
    ∀ (value : DataValue κ), ∀ inner ∈ views value, motive inner
  | .scalar _, _, member => by cases member
  | .nested entries, inner, member => forall_viewsOfEntries step entries inner member
  | .renderable _, _, member => by cases member
  | .view ⟨⟨name, theme, layout, path, data, handle⟩, partials⟩, inner, member => by
      rw [List.mem_singleton.mp member]
      refine step _ fun held isHeld => ?_
      rcases List.mem_append.mp isHeld with inData | inPartial
      · exact forall_viewsOfEntries step data held inData
      · exact forall_viewsOfPartials step partials held inPartial

theorem forall_viewsOfEntries
    (step : ∀ view, (∀ inner ∈ heldViews view, motive inner) → motive view) :
    ∀ (entries : List (String × DataValue κ)), ∀ inner ∈ viewsOfEntries entries, motive inner
  | [], _, member => by cases member
  | (_, value) :: rest, inner, member => by
      rcases List.mem_append.mp member with first | later
      · exact forall_views step value inner first
      · exact forall_viewsOfEntries step rest inner later

theorem forall_viewsOfPartials
    (step : ∀ view, (∀ inner ∈ heldViews view, motive inner) → motive view) :
    ∀ (partials : List (String × Page κ (DataValue κ))),
      ∀ inner ∈ partials.flatMap (fun entry => viewsOfEntries entry.2.data), motive inner
  | [], _, member => by cases member
  | (_, ⟨_, _, _, _, data, _⟩) :: rest, inner, member => by
      rw [List.flatMap_cons] at member
      rcases List.mem_append.mp member with first | later
      · exact forall_viewsOfEntries step data inner first
      · exact forall_viewsOfPartials step rest inner later

end

/-- What holds of a view if it holds of all views that it holds, holds of all. -/
theorem held_induction (step : ∀ view, (∀ inner ∈ heldViews view, motive inner) → motive view)
    (view : View κ) : motive view :=
  forall_views step (.view view) view (List.mem_singleton.mpr rfl)

end Induction

/-- The nesting is well-founded below a view if it is so below all shared views
that come up there. -/
theorem acc_of_forall_shared (view : View κ)
    (below : ∀ inner ∈ sharedViews shared,
      TransGen (NestedIn shared) inner view → Acc (NestedIn shared) inner) :
    Acc (NestedIn shared) view := by
  induction view using held_induction with
  | step view ih =>
      constructor
      intro inner nested
      rcases nested.mem_shared_or_mem_held with isShared | isHeld
      · exact below inner isShared (.single nested)
      · refine ih inner isHeld fun other isShared reached => ?_
        exact below other isShared (reached.tail nested)

/-- Without shared views every nesting is well-founded. -/
theorem acc_of_sharedViews_eq_nil (unshared : sharedViews shared = []) (view : View κ) :
    Acc (NestedIn shared) view :=
  acc_of_forall_shared view fun inner isShared => absurd isShared (by simp [unshared])

/-- Some view that comes up below a view, or the view itself, is nested in
itself. -/
def Circular (shared : Heap (Data κ)) (view : View κ) : Prop :=
  ∃ inner, ReflTransGen (NestedIn shared) inner view ∧ TransGen (NestedIn shared) inner inner

/-- To share a view with itself under a key that it does not bind is enough for a
circle. -/
theorem circular_put {key : String} (shared : Heap (Data κ)) (unbound : key ∉ Table.keys view.data) :
    Circular (shared.put view.handle.shared
      (Table.insert key (DataValue.view view) (shared.find view.handle.shared))) view := by
  refine ⟨view, .refl, .single (nestedIn_self_of_shared ?_ unbound)⟩
  rw [Heap.find_put_self]
  exact Table.mem_insert_self key (DataValue.view view) _

theorem not_acc_of_transGen_self (circle : TransGen (NestedIn shared) view view) :
    ¬ Acc (NestedIn shared) view := by
  intro accessible
  have irreflexive := accessible.transGen
  induction irreflexive with
  | intro view _ ih => exact ih view circle circle accessible

theorem acc_of_not_circular (notCircular : ¬ Circular shared view) : Acc (NestedIn shared) view := by
  -- There are finitely many shared views, so the relation on those that come up
  -- below the view is well-founded if none comes up below itself.
  let Reached := { inner // inner ∈ sharedViews shared ∧ TransGen (NestedIn shared) inner view }
  let below : Reached → Reached → Prop := fun inner other => TransGen (NestedIn shared) inner.1 other.1
  have finite : Finite Reached :=
    Set.Finite.subset (List.finite_toSet (sharedViews shared)) fun _ reached => reached.1
  have transitive : IsTrans Reached below := ⟨fun _ _ _ first second => first.trans second⟩
  have irreflexive : Std.Irrefl below :=
    ⟨fun inner circle => notCircular ⟨inner.1, inner.2.2.to_reflTransGen, circle⟩⟩
  have wellFounded : WellFounded below := Finite.wellFounded_of_trans_of_irrefl below
  have accessible : ∀ inner : Reached, Acc (NestedIn shared) inner.1 := by
    intro inner
    induction inner using wellFounded.induction with
    | _ inner ih =>
        refine acc_of_forall_shared inner.1 fun other isShared reached => ?_
        exact ih ⟨other, isShared, reached.trans inner.2.2⟩ reached
  exact acc_of_forall_shared view fun inner isShared reached => accessible ⟨inner, isShared, reached⟩

/-- The nesting below a view is well-founded unless some view in it is nested
in itself. -/
theorem acc_iff_not_circular : Acc (NestedIn shared) view ↔ ¬ Circular shared view := by
  constructor
  · rintro accessible ⟨inner, reached, circle⟩
    refine not_acc_of_transGen_self circle ?_
    clear circle
    induction reached using ReflTransGen.head_induction_on with
    | refl => exact accessible
    | head nested _ ih => exact ih.inv nested
  · exact acc_of_not_circular

end View

end ThemedViews
