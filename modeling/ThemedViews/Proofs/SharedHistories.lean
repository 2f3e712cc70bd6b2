import ThemedViews.Proofs.CompletedRenderings
import ThemedViews.Proofs.WorkspaceChanges

/-!
# Shared views along histories

As long as what the host renders shares nothing, nothing but sharing changes shared
data, and every view that is in shared data after a history was shared in it.  So as
long as no view is shared, every rendering comes to an end.
-/

namespace ThemedViews

open Rendering DataValue

variable {κ π ε : Type} {host : Host κ π ε} {levels : Nat}

namespace Workspace

variable {here after : Workspace κ ε} {action : Action κ} {actions : List (Action κ)}

section Quiet

variable (quiet : host.KeepsShared)

include quiet

/-- What an action renders shares nothing. -/
theorem shared_of_rendering? {rendering : Rendering (Surroundings κ ε) Reply}
    (renders : action.rendering? host levels here = some rendering) (around : Surroundings κ ε) :
    (outcome rendering around).2.shared = around.shared := by
  -- Whatever is rendered, its result is only put into a reply.
  have replies {α : Type} (convert : α → Reply) {inner : Rendering (Surroundings κ ε) α}
      (kept : Keeps around.shared Surroundings.shared inner) :
      (outcome (do return convert (← inner)) around).2.shared = around.shared := by
    have ended : Keeps around.shared Surroundings.shared (do return convert (← inner)) :=
      kept.bind fun _ _ same => same
    exact ended around rfl
  have rendered (inner : View κ) : Keeps around.shared Surroundings.shared (inner.renderWithin host levels) :=
    View.keeps_renderWithin quiet levels inner
  cases action with
  | resolveShared name key =>
      obtain ⟨handle, -, found⟩ := Option.bind_eq_some_iff.mp renders
      obtain ⟨value, -, rfl⟩ := Option.map_eq_some_iff.mp found
      exact replies Reply.value (keeps_resolve quiet rendered value)
  | renderNew name page data =>
      obtain ⟨handle, -, found⟩ := Option.bind_eq_some_iff.mp renders
      obtain ⟨view, -, rfl⟩ := Option.map_eq_some_iff.mp found
      exact replies Reply.text (rendered view)
  | resolveData name =>
      obtain ⟨view, -, rfl⟩ := Option.map_eq_some_iff.mp renders
      exact replies (fun scope => Reply.value (.object scope))
        (View.keeps_resolvedData quiet rendered view)
  | renderView name =>
      obtain ⟨view, -, rfl⟩ := Option.map_eq_some_iff.mp renders
      exact replies Reply.text (rendered view)
  | _ => cases renders

theorem Change.mem_sharedViews (change : Change host levels here action after) {inner : View κ}
    (member : inner ∈ View.sharedViews after.shared) :
    inner ∈ View.sharedViews here.shared ∨
      ∃ name key value, action = .share name key value ∧ inner ∈ DataValue.views value := by
  rcases change.does_or_idle with ⟨deed, does, rfl⟩ | doesNot
  · cases action with
    | share name key value =>
        obtain ⟨handle, -, rfl⟩ := Option.map_eq_some_iff.mp does
        rcases View.mem_sharedViews_of_put member with before | inserted
        · exact .inl before
        · obtain ⟨entry, bound, found⟩ := mem_viewsOfEntries.mp inserted
          rcases Table.eq_or_mem_of_mem_insert bound with rfl | kept
          · exact .inr ⟨name, key, value, rfl, found⟩
          · exact .inl (View.mem_sharedViews_of_find (mem_viewsOfEntries.mpr ⟨entry, kept, found⟩))
    | loadFile =>
        obtain ⟨handle, -, rfl⟩ := Option.map_eq_some_iff.mp does
        exact .inl member
    | writeFile | removeFile =>
        cases does
        exact .inl member
    | _ => cases does
  · cases change with
    | does does =>
        rw [doesNot] at does
        cases does
    | renders renders =>
        rw [show Surroundings.shared _ = _ from shared_of_rendering? quiet renders _] at member
        exact .inl member
    | opens => exact .inl ((View.mem_sharedViews_of_put member).resolve_right (nomatch ·))
    | _ => exact .inl member

/-- Every view in shared data was shared. -/
theorem shared_of_mem_sharedViews {inner : View κ}
    (member : inner ∈ View.sharedViews (run host levels actions here).shared) :
    inner ∈ View.sharedViews here.shared ∨
      ∃ name key value, .share name key value ∈ actions ∧ inner ∈ DataValue.views value := by
  induction actions generalizing here with
  | nil => exact .inl member
  | cons action rest ih =>
      rcases ih member with before | ⟨name, key, value, isShared, found⟩
      · rcases (change_perform host levels here action).mem_sharedViews quiet before with
          earlier | ⟨name, key, value, rfl, found⟩
        · exact .inl earlier
        · exact .inr ⟨name, key, value, List.mem_cons_self, found⟩
      · exact .inr ⟨name, key, value, List.mem_cons_of_mem _ isShared, found⟩

/-- As long as no view is shared, every rendering comes to an end. -/
theorem completes_run (unsharedBefore : View.sharedViews here.shared = [])
    (unshared : ∀ name key value, .share name key value ∈ actions → DataValue.views value = [])
    {around : Surroundings κ ε} (same : around.shared = (run host levels actions here).shared) (view : View κ) :
    View.Completes host view around := by
  refine View.completes_of_sharedViews_eq_nil quiet ?_ view
  refine List.eq_nil_iff_forall_not_mem.mpr fun inner member => ?_
  rw [same] at member
  rcases shared_of_mem_sharedViews quiet member with before | ⟨name, key, value, isShared, found⟩
  · rw [unsharedBefore] at before
    cases before
  · rw [unshared name key value isShared] at found
    cases found

end Quiet

end Workspace

end ThemedViews
