import ThemedViews.Proofs.PartialHistories

/-!
# Where handles come from

Every handle is held under a name, by a view, or by a partial of a view.  A handle that
is held behind an action was held before, or it is what the action sets of one that was
held before, or the action has opened it.  What holds of handles when they are opened, and
still holds when something is set of them, holds of all handles of a history.
-/

namespace ThemedViews

variable {κ π ε : Type}

namespace Action

/-- The name of a layout behind an action, for the view of a name. -/
def layoutBehind (name layout : String) : Action κ → String
  | .setViewLayout view chosen => if view = name then chosen else layout
  | _ => layout

end Action

namespace Handle

/-- Either both the location and the configuration are taken, or neither. -/
theorem outcome_setLocation (environment : Environment) (location : String) (handle : Handle κ) :
    outcome (setLocation environment location) handle =
      match locate environment { handle.config with location } with
      | .ok path => (.ok (), { handle with config := { handle.config with location }, location := path })
      | .error error => (.error error, handle) := by
  rw [setLocation, outcome_get_bind]
  dsimp only
  rw [outcome_result_bind]
  cases locate environment { handle.config with location } with
  | error error => rfl
  | ok path => rfl

/-- Handles that lead to the same stores. -/
structure Joined (handle other : Handle κ) : Prop where
  content_eq : other.content = handle.content
  shared_eq : other.shared = handle.shared

theorem Joined.refl (handle : Handle κ) : handle.Joined handle :=
  ⟨rfl, rfl⟩

theorem Joined.trans {handle other last : Handle κ} (first : handle.Joined other) (second : other.Joined last) :
    handle.Joined last :=
  ⟨second.content_eq.trans first.content_eq, second.shared_eq.trans first.shared_eq⟩

/-- Whatever is set of a handle, it leads to the stores that it led to. -/
theorem joined_of_setting? {action : Action κ} {target : String}
    {change : Environment → ExceptT ViewError (StateM (Handle κ)) Unit}
    (sets : action.setting? = some (target, change)) (environment : Environment) (handle : Handle κ) :
    handle.Joined (outcome (change environment) handle).2 := by
  cases action with
  | setParser | setErrors | setTheme | setLayout | registerAlias =>
      cases sets
      exact ⟨rfl, rfl⟩
  | setLocation name location =>
      cases sets
      rw [outcome_setLocation]
      cases locate environment { handle.config with location } with
      | ok path => exact ⟨rfl, rfl⟩
      | error error => exact .refl handle
  | _ => cases sets

end Handle

section Made

variable {host : Host κ π ε} {around : Surroundings κ ε} {handle : Handle κ} {theme name : String} {data : Data κ}

theorem Page.handle_of_make {page : Page κ (DataValue κ)}
    (made : Page.make host around handle theme name data = .ok page) :
    page.handle = handle ∧ page.theme = theme := by
  unfold Page.make at made
  obtain ⟨path, -, made⟩ := exists_of_bind_eq_ok made
  cases made
  exact ⟨rfl, rfl⟩

theorem View.handle_of_make {view : View κ} (made : View.make host around handle name data = .ok view) :
    view.handle = handle ∧ view.partials = [] := by
  unfold View.make at made
  obtain ⟨page, paged, made⟩ := exists_of_bind_eq_ok made
  cases made
  exact ⟨(Page.handle_of_make paged).1, rfl⟩

end Made

namespace View

/-- A view later is still the same: it has the same name, file, theme and handle. -/
structure Remains (view later : View κ) : Prop where
  name_eq : later.name = view.name
  path_eq : later.path = view.path
  theme_eq : later.theme = view.theme
  handle_eq : later.handle = view.handle

theorem Remains.refl (view : View κ) : Remains view view :=
  ⟨rfl, rfl, rfl, rfl⟩

theorem Remains.trans {view later last : View κ} (first : Remains view later) (second : Remains later last) :
    Remains view last :=
  ⟨second.name_eq.trans first.name_eq, second.path_eq.trans first.path_eq,
    second.theme_eq.trans first.theme_eq, second.handle_eq.trans first.handle_eq⟩

section Placing

variable {α : Type} {entry : String × α}

theorem eq_or_mem_of_mem_placed {key : String} {page : α} {partials : List (String × α)}
    (member : entry ∈ placed key page partials) : entry = (key, page) ∨ entry ∈ partials := by
  induction partials with
  | nil => exact .inl (List.mem_singleton.mp member)
  | cons first rest ih =>
      obtain ⟨other, old⟩ := first
      unfold placed at member
      split at member
      · rcases List.mem_cons.mp member with isNew | isOld
        · exact .inl isNew
        · exact .inr (List.mem_cons_of_mem _ isOld)
      · rcases List.mem_cons.mp member with isFirst | later
        · exact .inr (List.mem_cons.mpr (.inl isFirst))
        · exact (ih later).imp_right (List.mem_cons_of_mem _)

theorem mem_or_mem_of_mem_placedAll {partials entries : List (String × α)}
    (member : entry ∈ placedAll partials entries) : entry ∈ partials ∨ entry ∈ entries := by
  induction entries generalizing partials with
  | nil => exact .inl member
  | cons first rest ih =>
      rcases ih member with inPlaced | inRest
      · rcases eq_or_mem_of_mem_placed inPlaced with rfl | inPartials
        · exact .inr List.mem_cons_self
        · exact .inl inPartials
      · exact .inr (List.mem_cons_of_mem _ inRest)

end Placing

variable {host : Host κ π ε}

/-- A view that is made from another one: what is fixed of it is the same, and new partials are pages on the
same handle in the same theme. -/
structure Revised (view revised : View κ) : Prop extends Remains view revised where
  partial_eq : ∀ entry ∈ revised.partials,
    entry ∈ view.partials ∨ entry.2.handle = view.handle ∧ entry.2.theme = view.theme

theorem Revised.refl (view : View κ) : Revised view view :=
  { Remains.refl view with partial_eq := fun _ member => .inl member }

theorem revised_addPartials (host : Host κ π ε) (around : Surroundings κ ε) (requests : List (PartialRequest κ))
    (view : View κ) : view.Revised (outcome (addPartials host around requests) view).2 := by
  rw [outcome_addPartials]
  cases paged : view.pages host around requests with
  | error error => exact .refl view
  | ok entries =>
      refine ⟨⟨rfl, rfl, rfl, rfl⟩, fun entry member => ?_⟩
      refine (mem_or_mem_of_mem_placedAll member).imp_right fun isNew => ?_
      obtain ⟨index, less, rfl⟩ := List.mem_iff_getElem.mp isNew
      have each := forall₂_of_pages paged
      obtain ⟨-, made⟩ := each.get (each.length_eq ▸ less) less
      exact Page.handle_of_make made

theorem layout_addPartials (host : Host κ π ε) (around : Surroundings κ ε) (requests : List (PartialRequest κ))
    (view : View κ) : (outcome (addPartials host around requests) view).2.layout = view.layout := by
  rw [outcome_addPartials]
  cases view.pages host around requests with
  | error error => rfl
  | ok entries => rfl

/-- Whatever is changed of a view, nothing that is fixed of it changes, and only one kind of change chooses a
layout. -/
theorem revised_of_revision? {action : Action κ} {name : String}
    {change : Workspace κ ε → ExceptT ViewError (StateM (View κ)) Unit}
    (revises : action.revision? host = some (name, change)) (here : Workspace κ ε) (view : View κ) :
    view.Revised (outcome (change here) view).2 ∧
      (outcome (change here) view).2.layout = action.layoutBehind name view.layout := by
  cases action with
  | bind | bindAll =>
      cases revises
      exact ⟨⟨⟨rfl, rfl, rfl, rfl⟩, fun _ member => .inl member⟩, rfl⟩
  | setViewLayout =>
      cases revises
      exact ⟨⟨⟨rfl, rfl, rfl, rfl⟩, fun _ member => .inl member⟩, (if_pos rfl).symm⟩
  | addPartial target request =>
      cases revises
      dsimp only
      rw [outcome_addPartial_eq]
      exact ⟨revised_addPartials .., layout_addPartials ..⟩
  | addPartials target requests =>
      cases revises
      exact ⟨revised_addPartials .., layout_addPartials ..⟩
  | _ => cases revises

end View

namespace Workspace

/-- A handle is under a name, or a view goes on with it, or a partial of a view. -/
inductive Holds (here : Workspace κ ε) (handle : Handle κ) : Prop
  | named {name} (found : here.handles.lookup name = some handle)
  | inView {name view} (found : here.views.lookup name = some view) (same : view.handle = handle)
  | inPartial {name view entry} (found : here.views.lookup name = some view)
      (member : entry ∈ view.partials) (same : entry.2.handle = handle)

/-- A handle was there before an action, or it is what something sets of one that was there, or the action
has opened it. -/
inductive Derives (here : Workspace κ ε) (action : Action κ) : Handle κ → Prop
  | held {handle} (holds : here.Holds handle) : Derives here action handle
  | set {handle setter target change} (holds : here.Holds handle)
      (sets : Action.setting? setter = some (target, change)) :
      Derives here action (outcome (change here.environment) handle).2
  | opened {handle target} (opens : action.opening? = some target)
      (made : Handle.Made here.environment here.opened handle) : Derives here action handle

variable {host : Host κ π ε} {levels : Nat} {here after : Workspace κ ε} {action : Action κ} {handle : Handle κ}

/-- Only handles and views hold handles. -/
theorem Holds.of_eq (holds : after.Holds handle) (handlesEq : after.handles = here.handles)
    (viewsEq : after.views = here.views) : here.Holds handle := by
  cases holds with
  | named found => exact .named (handlesEq ▸ found)
  | inView found same => exact .inView (viewsEq ▸ found) same
  | inPartial found member same => exact .inPartial (viewsEq ▸ found) member same

theorem holds_of_putHandle {target : String} {put : Handle κ}
    (holds : (here.putHandle target put).Holds handle) : put = handle ∨ here.Holds handle := by
  cases holds with
  | @named name found =>
      rw [lookup_putHandle] at found
      split at found
      · exact .inl (Option.some.inj found)
      · exact .inr (.named found)
  | inView found same => exact .inr (.inView found same)
  | inPartial found member same => exact .inr (.inPartial found member same)

theorem holds_of_putView {target : String} {put : View κ} (holds : (here.putView target put).Holds handle) :
    put.handle = handle ∨ (∃ entry ∈ put.partials, entry.2.handle = handle) ∨ here.Holds handle := by
  cases holds with
  | named found => exact .inr (.inr (.named found))
  | inView found same =>
      rw [lookup_putView] at found
      split at found
      · cases found
        exact .inl same
      · exact .inr (.inr (.inView found same))
  | inPartial found member same =>
      rw [lookup_putView] at found
      split at found
      · cases found
        exact .inr (.inl ⟨_, member, same⟩)
      · exact .inr (.inr (.inPartial found member same))

/-- Every handle behind an action comes from one before it, or the action has opened it. -/
theorem Change.derives (change : Change host levels here action after) (holds : after.Holds handle) :
    Derives here action handle := by
  cases change with
  | nothing => exact .held holds
  | does | renders => exact .held (holds.of_eq rfl rfl)
  | opens opens made =>
      rcases holds_of_putHandle holds with rfl | before
      · exact .opened opens made
      · exact .held (before.of_eq rfl rfl)
  | @copies source target alter found copies isSource =>
      rcases holds_of_putHandle holds with rfl | before
      · cases action with
        | copyHandle =>
            cases copies
            exact .held (.named isSource)
        | copyWithTheme name target theme =>
            cases copies
            have sets : (Action.setTheme source theme : Action κ).setting? = some (source, _) := rfl
            exact .set (.named isSource) sets
        | _ => cases copies
      · exact .held before
  | sets sets found =>
      rcases holds_of_putHandle holds with rfl | before
      · exact .set (.named found) sets
      · exact .held before
  | makes _ found made =>
      obtain ⟨handleEq, none⟩ := View.handle_of_make made
      rcases holds_of_putView holds with same | ⟨entry, member, -⟩ | before
      · exact .held (.named (found.trans (congrArg some (handleEq.symm.trans same))))
      · rw [none] at member
        cases member
      · exact .held before
  | copiesView _ found =>
      rcases holds_of_putView holds with same | ⟨entry, member, same⟩ | before
      · exact .held (.inView found same)
      · exact .held (.inPartial found member same)
      · exact .held before
  | @copiesPartial _ key _ view page _ found has =>
      rcases holds_of_putView holds with same | ⟨entry, member, -⟩ | before
      · obtain ⟨front, behind, split, -⟩ := List.lookup_eq_some_iff.mp has
        have member : (key, page) ∈ view.partials := by
          rw [split]
          exact List.mem_append_right front List.mem_cons_self
        exact .held (.inPartial found member same)
      · cases member
      · exact .held before
  | @revises _ change view revises found =>
      obtain ⟨revised, -⟩ := View.revised_of_revision? revises here view
      rcases holds_of_putView holds with same | ⟨entry, member, same⟩ | before
      · exact .held (.inView found (revised.handle_eq.symm.trans same))
      · rcases revised.partial_eq entry member with isOld | ⟨handleEq, -⟩
        · exact .held (.inPartial found isOld same)
        · exact .held (.inView found (handleEq.symm.trans same))
      · exact .held before

/-- What holds of all handles in the beginning and of those that are opened, and still holds when something is
set of a handle, holds of all handles of a history. -/
theorem forall_holds_run {environment : Environment} {property : Handle κ → Prop}
    (opened : ∀ stores handle, Handle.Made environment stores handle → property handle)
    (kept : ∀ (setter : Action κ) target change handle, setter.setting? = some (target, change) →
      property handle → property (outcome (change environment) handle).2)
    (actions : List (Action κ)) (environmentEq : here.environment = environment)
    (initially : ∀ handle, here.Holds handle → property handle) :
    ∀ handle, (run host levels actions here).Holds handle → property handle := by
  -- No action changes the environment, which decides what a location stands for.
  induction actions generalizing here with
  | nil => exact initially
  | cons action rest ih =>
      have change := change_perform host levels here action
      rw [run_cons]
      refine ih (change.environment_eq.trans environmentEq) fun handle holds => ?_
      cases change.derives holds with
      | held isHeld => exact initially handle isHeld
      | set isHeld sets =>
          rw [environmentEq]
          exact kept _ _ _ _ sets (initially _ isHeld)
      | opened _ made =>
          rw [environmentEq] at made
          exact opened _ handle made

end Workspace

end ThemedViews
