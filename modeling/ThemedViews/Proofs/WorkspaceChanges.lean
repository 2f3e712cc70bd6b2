import ThemedViews.Proofs.Outcomes
import ThemedViews.Proofs.Tables
import ThemedViews.Workspace

/-!
# What an action changes

An action does one thing to a workspace, or nothing: something is done to the
surroundings, something is rendered, a handle is opened, a handle or a view is copied
or changed in its place, or a view is made.  All that is kept along histories is
proved from these cases.
-/

namespace ThemedViews

variable {κ π ε : Type}

/-- A handle on stores with a number, made with a configuration or with the one in a
file. -/
inductive Handle.Made (environment : Environment) (stores : Nat) (handle : Handle κ) : Prop where
  | configured (parser : κ) (config : Config)
      (made : ofConfig environment parser stores config = .ok handle)
  | loaded (files : FileTree) (parser : κ) (path : Path)
      (made : ofFile environment files parser stores path = .ok handle)

namespace Action

/-- The name under which an action opens a handle. -/
def opening? : Action κ → Option String
  | .openHandle target _ _ => some target
  | .openFile target _ _ => some target
  | _ => none

/-- The handle that an action copies, the name of the copy, and what is different
about the copy. -/
def copying? : Action κ → Option (String × String × (Handle κ → Handle κ))
  | .copyHandle handle target => some (handle, target, id)
  | .copyWithTheme handle target theme => some (handle, target, Handle.setTheme theme)
  | _ => none

/-- The name of the handle that an action sets something of, and what it sets. -/
def setting? : Action κ → Option (String × (Environment → ExceptT ViewError (StateM (Handle κ)) Unit))
  | .setParser handle parser => some (handle, fun _ => modify (Handle.setParser parser))
  | .setErrors handle provider => some (handle, fun _ => modify (Handle.setErrors provider))
  | .setTheme handle theme => some (handle, fun _ => modify (Handle.setTheme theme))
  | .setLayout handle layout => some (handle, fun _ => modify (Handle.setLayout layout))
  | .setLocation handle location => some (handle, fun environment => Handle.setLocation environment location)
  | .registerAlias handle key name => some (handle, fun _ => modify (Handle.registerAlias key name))
  | _ => none

/-- The name of the view that an action changes, and what it changes. -/
def revision? (host : Host κ π ε) :
    Action κ → Option (String × (Workspace κ ε → ExceptT ViewError (StateM (View κ)) Unit))
  | .bind view key value => some (view, fun _ => modify (View.bind key value))
  | .bindAll view data => some (view, fun _ => modify (View.bindAll data))
  | .addPartial view request => some (view, fun here => View.addPartial host here.toSurroundings request)
  | .addPartials view requests => some (view, fun here => View.addPartials host here.toSurroundings requests)
  | .setViewLayout view layout => some (view, fun _ => modify (View.setLayout layout))
  | _ => none

/-- What an action does to the surroundings itself. -/
def deed? (here : Workspace κ ε) : Action κ → Option (Deed κ ε)
  | .share handle key value => (here.handles.lookup handle).map fun found => .share found.shared key value
  | .loadFile handle path => (here.handles.lookup handle).map fun found => .load found.content path
  | .writeFile path bytes => some (.write path bytes)
  | .removeFile path => some (.remove path)
  | _ => none

/-- What an action renders. -/
def rendering? (host : Host κ π ε) (levels : Nat) (here : Workspace κ ε) :
    Action κ → Option (Rendering (Surroundings κ ε) Reply)
  | .resolveShared handle key =>
      (here.handles.lookup handle).bind fun found =>
        ((here.shared.find found.shared).lookup key).map fun value => do
          return .value (← value.resolve host (View.renderWithin host levels))
  | .renderNew handle name data =>
      (here.handles.lookup handle).bind fun found =>
        (View.make host here.toSurroundings found name data).toOption.map fun view => do
          return .text (← view.renderWithin host levels)
  | .resolveData view => (here.views.lookup view).map fun found => do
      return .value (.object (← found.resolvedData host (View.renderWithin host levels)))
  | .renderView view => (here.views.lookup view).map fun found => do
      return .text (← found.renderWithin host levels)
  | _ => none

/-- Whether an action puts a handle under a name, in the place of an older one. -/
def replacesHandle (name : String) : Action κ → Bool
  | .openHandle target _ _ => target == name
  | .openFile target _ _ => target == name
  | .copyHandle _ target => target == name
  | .copyWithTheme _ target _ => target == name
  | _ => false

/-- Whether an action puts a view under a name, in the place of an older one. -/
def replacesView (name : String) : Action κ → Bool
  | .makeView _ target _ _ => target == name
  | .copyView _ target => target == name
  | .copyPartial _ _ target => target == name
  | _ => false

theorem ne_of_opening? (action : Action κ) {name target : String} (opens : action.opening? = some target)
    (stays : action.replacesHandle name = false) : target ≠ name := by
  cases action with
  | openHandle | openFile =>
      cases opens
      simpa [replacesHandle] using stays
  | _ => cases opens

theorem ne_of_copying? (action : Action κ) {name source target : String} {alter : Handle κ → Handle κ}
    (copies : action.copying? = some (source, target, alter)) (stays : action.replacesHandle name = false) :
    target ≠ name := by
  cases action with
  | copyHandle | copyWithTheme =>
      cases copies
      simpa [replacesHandle] using stays
  | _ => cases copies

end Action

/-- The handle of a name behind an action: changed if the action sets something of it. -/
def Handle.behind (environment : Environment) (name : String) (handle : Handle κ) (action : Action κ) : Handle κ :=
  match action.setting? with
  | some (target, change) => if target = name then (outcome (change environment) handle).2 else handle
  | none => handle

/-- The view of a name behind an action: changed if the action changes it. -/
def View.behind (host : Host κ π ε) (here : Workspace κ ε) (name : String) (action : Action κ) (view : View κ) :
    View κ :=
  match action.revision? host with
  | some (target, change) => if target = name then (outcome (change here) view).2 else view
  | none => view

namespace Workspace

section Steps

variable {α : Type} {here : Workspace κ ε} {name : String}

theorem outcome_withHandle (action : Handle κ → Step κ ε Reply) (here : Workspace κ ε) (name : String) :
    outcome (withHandle name action) here =
      match here.handles.lookup name with
      | some handle => outcome (action handle) here
      | none => (.ok .nothing, here) := by
  rw [withHandle, outcome_get_bind]
  cases here.handles.lookup name <;> rfl

theorem outcome_withView (action : View κ → Step κ ε Reply) (here : Workspace κ ε) (name : String) :
    outcome (withView name action) here =
      match here.views.lookup name with
      | some view => outcome (action view) here
      | none => (.ok .nothing, here) := by
  rw [withView, outcome_get_bind]
  cases here.views.lookup name <;> rfl

/-- A change that fails fails as a step, with what it has changed before. -/
theorem outcome_changeHandle {handle : Handle κ} (found : here.handles.lookup name = some handle)
    (change : Workspace κ ε → ExceptT ViewError (StateM (Handle κ)) Unit) :
    outcome (changeHandle name change) here =
      (((outcome (change here) handle).1.map fun _ => .nothing).mapError .failed,
        here.putHandle name (outcome (change here) handle).2) := by
  rw [changeHandle, outcome_withHandle, found]
  have ran : (change here).run.run handle = outcome (change here) handle := rfl
  dsimp only
  rw [outcome_get_bind, ran]
  rcases outcome (change here) handle with ⟨_ | _, changed⟩
  · rfl
  · rfl

/-- A change that fails fails as a step, with what it has changed before. -/
theorem outcome_changeView {view : View κ} (found : here.views.lookup name = some view)
    (change : Workspace κ ε → ExceptT ViewError (StateM (View κ)) Unit) :
    outcome (changeView name change) here =
      (((outcome (change here) view).1.map fun _ => .nothing).mapError .failed,
        here.putView name (outcome (change here) view).2) := by
  rw [changeView, outcome_withView, found]
  have ran : (change here).run.run view = outcome (change here) view := rfl
  dsimp only
  rw [outcome_get_bind, ran]
  rcases outcome (change here) view with ⟨_ | _, changed⟩
  · rfl
  · rfl

end Steps

/-- What an action makes of a workspace. -/
inductive Change (host : Host κ π ε) (levels : Nat) (here : Workspace κ ε) (action : Action κ) :
    Workspace κ ε → Prop
  | nothing (doesNothing : action.deed? here = none)
      (rendersNothing : action.rendering? host levels here = none)
      (setsNothing : ∀ target change, action.setting? = some (target, change) →
        here.handles.lookup target = none)
      (revisesNothing : ∀ target change, action.revision? host = some (target, change) →
        here.views.lookup target = none) :
      Change host levels here action here
  | does {deed} (does : action.deed? here = some deed) :
      Change host levels here action { here with toSurroundings := here.toSurroundings.after deed }
  | renders {rendering} (renders : action.rendering? host levels here = some rendering) :
      Change host levels here action
        { here with toSurroundings := (outcome rendering here.toSurroundings).2 }
  | opens {target handle} (opens : action.opening? = some target)
      (made : Handle.Made here.environment here.opened handle) :
      Change host levels here action (here.takeIn target handle)
  | copies {source target alter handle} (copies : action.copying? = some (source, target, alter))
      (found : here.handles.lookup source = some handle) :
      Change host levels here action (here.putHandle target (alter handle))
  | sets {target change handle} (sets : action.setting? = some (target, change))
      (found : here.handles.lookup target = some handle) :
      Change host levels here action
        (here.putHandle target (outcome (change here.environment) handle).2)
  | makes {source target name data handle view} (makes : action = .makeView source target name data)
      (found : here.handles.lookup source = some handle)
      (made : View.make host here.toSurroundings handle name data = .ok view) :
      Change host levels here action (here.putView target view)
  | copiesView {source target view} (copies : action = .copyView source target)
      (found : here.views.lookup source = some view) :
      Change host levels here action (here.putView target view)
  | copiesPartial {source key target view page} (copies : action = .copyPartial source key target)
      (found : here.views.lookup source = some view) (has : view.partials.lookup key = some page) :
      Change host levels here action (here.putView target (.ofPage page))
  | revises {target change view} (revises : action.revision? host = some (target, change))
      (found : here.views.lookup target = some view) :
      Change host levels here action (here.putView target (outcome (change here) view).2)

section Perform

variable (host : Host κ π ε) (levels : Nat) (here : Workspace κ ε) {action : Action κ} {target : String}

theorem perform_of_setting? {change : Environment → ExceptT ViewError (StateM (Handle κ)) Unit}
    (sets : action.setting? = some (target, change)) :
    perform (ε := ε) host levels action = changeHandle target fun here => change here.environment := by
  cases action with
  | setParser | setErrors | setTheme | setLayout | setLocation | registerAlias =>
      cases sets
      rfl
  | _ => cases sets

theorem perform_of_revision? {change : Workspace κ ε → ExceptT ViewError (StateM (View κ)) Unit}
    (revises : action.revision? host = some (target, change)) :
    perform host levels action = changeView target change := by
  cases action with
  | bind | bindAll | addPartial | addPartials | setViewLayout =>
      cases revises
      rfl
  | _ => cases revises

variable {here}

theorem outcome_perform_of_setting? {handle : Handle κ}
    {change : Environment → ExceptT ViewError (StateM (Handle κ)) Unit}
    (sets : action.setting? = some (target, change)) (found : here.handles.lookup target = some handle) :
    outcome (perform host levels action) here =
      (((outcome (change here.environment) handle).1.map fun _ => .nothing).mapError .failed,
        here.putHandle target (outcome (change here.environment) handle).2) := by
  rw [perform_of_setting? host levels sets]
  exact outcome_changeHandle found _

theorem outcome_perform_of_revision? {view : View κ}
    {change : Workspace κ ε → ExceptT ViewError (StateM (View κ)) Unit}
    (revises : action.revision? host = some (target, change)) (found : here.views.lookup target = some view) :
    outcome (perform host levels action) here =
      (((outcome (change here) view).1.map fun _ => .nothing).mapError .failed,
        here.putView target (outcome (change here) view).2) := by
  rw [perform_of_revision? host levels revises]
  exact outcome_changeView found _

theorem outcome_perform_of_copying? {source : String} {handle : Handle κ} {alter : Handle κ → Handle κ}
    (copies : action.copying? = some (source, target, alter))
    (found : here.handles.lookup source = some handle) :
    outcome (perform host levels action) here = (.ok .nothing, here.putHandle target (alter handle)) := by
  cases action with
  | copyHandle | copyWithTheme =>
      cases copies
      rw [perform, outcome_withHandle, found]
      rfl
  | _ => cases copies

theorem outcome_perform_makeView {source name : String} {data : Data κ} {handle : Handle κ} {view : View κ}
    (target : String) (found : here.handles.lookup source = some handle)
    (made : View.make host here.toSurroundings handle name data = .ok view) :
    outcome (perform host levels (.makeView source target name data)) here =
      (.ok .nothing, here.putView target view) := by
  rw [perform, outcome_withHandle, found]
  dsimp only
  rw [outcome_get_bind, made]
  rfl

theorem outcome_inSurroundings {α : Type} (inner : Rendering (Surroundings κ ε) α) (convert : α → Reply) :
    outcome (do return convert (← inSurroundings inner)) here =
      let run := outcome (do return convert (← inner)) here.toSurroundings
      (run.1, { here with toSurroundings := run.2 }) := by
  have focused : outcome (inSurroundings inner) here =
      ((outcome inner here.toSurroundings).1,
        { here with toSurroundings := (outcome inner here.toSurroundings).2 }) := rfl
  rw [outcome_bind, outcome_bind, focused]
  rcases outcome inner here.toSurroundings with ⟨_ | value, later⟩
  · rfl
  · rfl

section Change

variable {host levels}

theorem Change.idle (doesNot : action.deed? here = none)
    (rendersNot : action.rendering? host levels here = none) (setsNot : action.setting? = none)
    (revisesNot : action.revision? host = none) : Change host levels here action here := by
  refine .nothing doesNot rendersNot (fun _ _ sets => ?_) (fun _ _ revises => ?_)
  · rw [setsNot] at sets
    cases sets
  · rw [revisesNot] at revises
    cases revises

theorem Change.rendered {α : Type} {inner : Rendering (Surroundings κ ε) α} {convert : α → Reply}
    (renders : action.rendering? host levels here = some (do return convert (← inner))) :
    Change host levels here action (outcome (do return convert (← inSurroundings inner)) here).2 := by
  rw [outcome_inSurroundings]
  exact .renders renders

theorem change_of_setting? {change : Environment → ExceptT ViewError (StateM (Handle κ)) Unit}
    (sets : action.setting? = some (target, change)) (revisesNot : action.revision? host = none)
    (doesNot : action.deed? here = none) (rendersNot : action.rendering? host levels here = none) :
    Change host levels here action (outcome (perform host levels action) here).2 := by
  cases found : here.handles.lookup target with
  | none =>
      rw [perform_of_setting? host levels sets, changeHandle, outcome_withHandle, found]
      refine .nothing doesNot rendersNot (fun other _ setsOther => ?_) (fun _ _ revises => ?_)
      · rw [sets] at setsOther
        cases setsOther
        exact found
      · rw [revisesNot] at revises
        cases revises
  | some handle =>
      rw [outcome_perform_of_setting? host levels sets found]
      exact .sets sets found

theorem change_of_revision? {change : Workspace κ ε → ExceptT ViewError (StateM (View κ)) Unit}
    (revises : action.revision? host = some (target, change)) (setsNot : action.setting? = none)
    (doesNot : action.deed? here = none) (rendersNot : action.rendering? host levels here = none) :
    Change host levels here action (outcome (perform host levels action) here).2 := by
  cases found : here.views.lookup target with
  | none =>
      rw [perform_of_revision? host levels revises, changeView, outcome_withView, found]
      refine .nothing doesNot rendersNot (fun _ _ sets => ?_) (fun other _ revisesOther => ?_)
      · rw [setsNot] at sets
        cases sets
      · rw [revises] at revisesOther
        cases revisesOther
        exact found
  | some view =>
      rw [outcome_perform_of_revision? host levels revises found]
      exact .revises revises found

theorem change_withHandle {name : String} {act : Handle κ → Step κ ε Reply}
    (idle : here.handles.lookup name = none → Change host levels here action here)
    (each : ∀ handle, here.handles.lookup name = some handle →
      Change host levels here action (outcome (act handle) here).2) :
    Change host levels here action (outcome (withHandle name act) here).2 := by
  rw [outcome_withHandle]
  cases found : here.handles.lookup name with
  | none => exact idle found
  | some handle => exact each handle found

theorem change_withView {name : String} {act : View κ → Step κ ε Reply}
    (idle : here.views.lookup name = none → Change host levels here action here)
    (each : ∀ view, here.views.lookup name = some view →
      Change host levels here action (outcome (act view) here).2) :
    Change host levels here action (outcome (withView name act) here).2 := by
  rw [outcome_withView]
  cases found : here.views.lookup name with
  | none => exact idle found
  | some view => exact each view found

end Change

variable (here)

/-- Every action makes one of these changes. -/
theorem change_perform (action : Action κ) :
    Change host levels here action (outcome (perform host levels action) here).2 := by
  cases action with
  | openHandle target parser config =>
      rw [perform, outcome_get_bind]
      cases made : Handle.ofConfig here.environment parser here.opened config with
      | error error => exact .idle rfl rfl rfl rfl
      | ok handle => exact .opens rfl (.configured parser config made)
  | openFile target parser path =>
      rw [perform, outcome_get_bind]
      cases made : Handle.ofFile here.environment here.files parser here.opened path with
      | error error => exact .idle rfl rfl rfl rfl
      | ok handle => exact .opens rfl (.loaded here.files parser path made)
  | copyHandle source target =>
      refine change_withHandle (fun _ => .idle rfl rfl rfl rfl) fun handle found => ?_
      have copied : Change host levels here (.copyHandle source target) (here.putHandle target (id handle)) :=
        .copies rfl found
      exact copied
  | copyWithTheme source target theme =>
      refine change_withHandle (fun _ => .idle rfl rfl rfl rfl) fun handle found => ?_
      have copied : Change host levels here (.copyWithTheme source target theme)
          (here.putHandle target (handle.setTheme theme)) := .copies rfl found
      exact copied
  | setParser | setErrors | setTheme | setLayout | setLocation | registerAlias =>
      exact change_of_setting? rfl rfl rfl rfl
  | bind | bindAll | addPartial | addPartials | setViewLayout => exact change_of_revision? rfl rfl rfl rfl
  | share name key value =>
      have deedEq : (Action.share name key value).deed? here =
          (here.handles.lookup name).map fun handle => .share handle.shared key value := rfl
      refine change_withHandle (fun absent => .idle (by rw [deedEq, absent]; rfl) rfl rfl rfl) fun handle found => ?_
      rw [found] at deedEq
      exact .does deedEq
  | loadFile name path =>
      have deedEq : (Action.loadFile name path).deed? here =
          (here.handles.lookup name).map fun handle => .load handle.content path := rfl
      refine change_withHandle (fun absent => .idle (by rw [deedEq, absent]; rfl) rfl rfl rfl) fun handle found => ?_
      rw [found] at deedEq
      have changed : Change host levels here (.loadFile name path) _ := .does deedEq
      rw [Surroundings.after] at changed
      rw [outcome_get_bind]
      rcases loaded : here.toSurroundings.load handle.content path with ⟨_ | text, around⟩
      · rw [loaded] at changed
        exact changed
      · rw [loaded] at changed
        exact changed
  | writeFile | removeFile => exact .does rfl
  | resolveShared name key =>
      have renderingEq : (Action.resolveShared name key).rendering? host levels here =
          (here.handles.lookup name).bind fun handle =>
            ((here.shared.find handle.shared).lookup key).map fun value => do
              return .value (← value.resolve host (View.renderWithin host levels)) := rfl
      refine change_withHandle (fun absent => .idle rfl (by rw [renderingEq, absent]; rfl) rfl rfl)
        fun handle found => ?_
      rw [found, Option.bind_some] at renderingEq
      rw [outcome_get_bind]
      cases bound : (here.shared.find handle.shared).lookup key with
      | none => exact .idle rfl (by rw [renderingEq, bound]; rfl) rfl rfl
      | some value => exact .rendered (by rw [renderingEq, bound]; rfl)
  | renderNew name page data =>
      have renderingEq : (Action.renderNew name page data).rendering? host levels here =
          (here.handles.lookup name).bind fun handle =>
            (View.make host here.toSurroundings handle page data).toOption.map fun view => do
              return .text (← view.renderWithin host levels) := rfl
      refine change_withHandle (fun absent => .idle rfl (by rw [renderingEq, absent]; rfl) rfl rfl)
        fun handle found => ?_
      rw [found, Option.bind_some] at renderingEq
      rw [outcome_get_bind]
      cases made : View.make host here.toSurroundings handle page data with
      | error error => exact .idle rfl (by rw [renderingEq, made]; rfl) rfl rfl
      | ok view => exact .rendered (by rw [renderingEq, made]; rfl)
  | resolveData name =>
      have renderingEq : (Action.resolveData name).rendering? host levels here =
          (here.views.lookup name).map fun view => do
            return .value (.object (← view.resolvedData host (View.renderWithin host levels))) := rfl
      refine change_withView (fun absent => .idle rfl (by rw [renderingEq, absent]; rfl) rfl rfl)
        fun view found => .rendered (by rw [renderingEq, found]; rfl)
  | renderView name =>
      have renderingEq : (Action.renderView name).rendering? host levels here =
          (here.views.lookup name).map fun view => do
            return .text (← view.renderWithin host levels) := rfl
      refine change_withView (fun absent => .idle rfl (by rw [renderingEq, absent]; rfl) rfl rfl)
        fun view found => .rendered (by rw [renderingEq, found]; rfl)
  | makeView source target name data =>
      refine change_withHandle (fun _ => .idle rfl rfl rfl rfl) fun handle found => ?_
      rw [outcome_get_bind]
      cases made : View.make host here.toSurroundings handle name data with
      | error error => exact .idle rfl rfl rfl rfl
      | ok view => exact .makes rfl found made
  | copyView source target =>
      exact change_withView (fun _ => .idle rfl rfl rfl rfl) fun view found => .copiesView rfl found
  | copyPartial source key target =>
      refine change_withView (fun _ => .idle rfl rfl rfl rfl) fun view found => ?_
      cases has : view.partials.lookup key with
      | none => exact .idle rfl rfl rfl rfl
      | some page => exact .copiesPartial rfl found has

end Perform

section Cases

variable {host : Host κ π ε} {levels : Nat} {here after : Workspace κ ε} {action : Action κ}

/-- What an action does to the surroundings itself is all that it changes. -/
theorem Change.does_or_idle (change : Change host levels here action after) :
    (∃ deed, action.deed? here = some deed ∧
      after = { here with toSurroundings := here.toSurroundings.after deed }) ∨ action.deed? here = none := by
  cases change with
  | does does => exact .inl ⟨_, does, rfl⟩
  | nothing doesNothing => exact .inr doesNothing
  | renders taken | opens taken | copies taken | sets taken | revises taken =>
      cases action with
      | share | loadFile | writeFile | removeFile => cases taken
      | _ => exact .inr rfl
  | makes taken | copiesView taken | copiesPartial taken =>
      subst taken
      exact .inr rfl

/-- What an action renders is all that it changes. -/
theorem Change.renders_or_idle (change : Change host levels here action after) :
    (∃ rendering, action.rendering? host levels here = some rendering ∧
      after = { here with toSurroundings := (outcome rendering here.toSurroundings).2 }) ∨
      action.rendering? host levels here = none := by
  cases change with
  | renders renders => exact .inl ⟨_, renders, rfl⟩
  | nothing _ rendersNothing => exact .inr rendersNothing
  | does taken | opens taken | copies taken | sets taken | revises taken =>
      cases action with
      | resolveShared | renderNew | resolveData | renderView => cases taken
      | _ => exact .inr rfl
  | makes taken | copiesView taken | copiesPartial taken =>
      subst taken
      exact .inr rfl

/-- An action that does nothing to the surroundings and renders nothing leaves the stores as they are, except
for the newest ones. -/
theorem Change.find_of_idle (change : Change host levels here action after)
    (doesNot : action.deed? here = none) (rendersNot : action.rendering? host levels here = none)
    {reference : Nat} (old : reference < here.opened) :
    after.contents.find reference = here.contents.find reference ∧
      after.shared.find reference = here.shared.find reference := by
  cases change with
  | does does =>
      rw [doesNot] at does
      cases does
  | renders renders =>
      rw [rendersNot] at renders
      cases renders
  | opens =>
      refine ⟨?_, ?_⟩
      · exact Heap.find_put_of_ne (Nat.ne_of_lt old) .empty here.contents
      · exact Heap.find_put_of_ne (Nat.ne_of_lt old) [] here.shared
  | _ => exact ⟨rfl, rfl⟩

theorem lookup_putHandle (name target : String) (handle : Handle κ) (here : Workspace κ ε) :
    (here.putHandle target handle).handles.lookup name =
      if target = name then some handle else here.handles.lookup name := by
  by_cases same : target = name
  · subst same
    rw [if_pos rfl]
    exact Table.lookup_insert_self target handle here.handles
  · rw [if_neg same]
    exact Table.lookup_insert_of_ne (Ne.symm same) handle here.handles

theorem lookup_putView (name target : String) (view : View κ) (here : Workspace κ ε) :
    (here.putView target view).views.lookup name = if target = name then some view else here.views.lookup name := by
  by_cases same : target = name
  · subst same
    rw [if_pos rfl]
    exact Table.lookup_insert_self target view here.views
  · rw [if_neg same]
    exact Table.lookup_insert_of_ne (Ne.symm same) view here.views

/-- A handle that is not replaced is what is set of it. -/
theorem lookup_handles_perform {name : String} (stays : action.replacesHandle name = false) :
    (outcome (perform host levels action) here).2.handles.lookup name =
      (here.handles.lookup name).map fun handle => handle.behind here.environment name action := by
  cases sets : action.setting? with
  | some setting =>
      obtain ⟨target, change⟩ := setting
      have behindEq (handle : Handle κ) : handle.behind here.environment name action =
          if target = name then (outcome (change here.environment) handle).2 else handle := by
        rw [Handle.behind, sets]
      cases found : here.handles.lookup target with
      | none =>
          rw [perform_of_setting? host levels sets, changeHandle, outcome_withHandle, found]
          by_cases same : target = name
          · rw [← same, found, Option.map_none]
          · simp [behindEq, same]
      | some handle =>
          rw [outcome_perform_of_setting? host levels sets found, lookup_putHandle]
          by_cases same : target = name
          · rw [if_pos same, ← same, found, Option.map_some, same, behindEq, if_pos same]
          · simp [behindEq, same]
  | none =>
      have behindEq : (fun handle : Handle κ => handle.behind here.environment name action) = id := by
        funext handle
        rw [Handle.behind, sets, id]
      rw [behindEq, Option.map_id]
      have change := change_perform host levels here action
      generalize (outcome (perform host levels action) here).2 = after at change ⊢
      cases change with
      | @opens target handle opens =>
          have different : target ≠ name := action.ne_of_opening? opens stays
          exact (lookup_putHandle name target handle _).trans (if_neg different)
      | @copies source target alter handle copies =>
          have different : target ≠ name := action.ne_of_copying? copies stays
          exact (lookup_putHandle name target (alter handle) here).trans (if_neg different)
      | sets setsOther =>
          rw [sets] at setsOther
          cases setsOther
      | _ => rfl

/-- A view that is not replaced is what it is changed to. -/
theorem lookup_views_perform {name : String} (stays : action.replacesView name = false) :
    (outcome (perform host levels action) here).2.views.lookup name =
      (here.views.lookup name).map fun view => view.behind host here name action := by
  cases revises : action.revision? host with
  | some revision =>
      obtain ⟨target, change⟩ := revision
      have behindEq (view : View κ) : view.behind host here name action =
          if target = name then (outcome (change here) view).2 else view := by
        rw [View.behind, revises]
      cases found : here.views.lookup target with
      | none =>
          rw [perform_of_revision? host levels revises, changeView, outcome_withView, found]
          by_cases same : target = name
          · rw [← same, found, Option.map_none]
          · simp [behindEq, same]
      | some view =>
          rw [outcome_perform_of_revision? host levels revises found, lookup_putView]
          by_cases same : target = name
          · rw [if_pos same, ← same, found, Option.map_some, same, behindEq, if_pos same]
          · simp [behindEq, same]
  | none =>
      have behindEq : (fun view : View κ => view.behind host here name action) = id := by
        funext view
        rw [View.behind, revises, id]
      rw [behindEq, Option.map_id]
      have change := change_perform host levels here action
      generalize (outcome (perform host levels action) here).2 = after at change ⊢
      cases change with
      | @makes _ target _ _ _ view makes | @copiesView _ target view makes =>
          subst makes
          have different : target ≠ name := by simpa [Action.replacesView] using stays
          exact (lookup_putView name target view here).trans (if_neg different)
      | @copiesPartial _ _ target _ page copies =>
          subst copies
          have different : target ≠ name := by simpa [Action.replacesView] using stays
          exact (lookup_putView name target (.ofPage page) here).trans (if_neg different)
      | revises revisesOther =>
          rw [revises] at revisesOther
          cases revisesOther
      | _ => rfl

end Cases

section Run

variable {host : Host κ π ε} {levels : Nat}

theorem run_append (before behind : List (Action κ)) (here : Workspace κ ε) :
    run host levels (before ++ behind) here = run host levels behind (run host levels before here) :=
  List.foldl_append

theorem run_cons (action : Action κ) (rest : List (Action κ)) (here : Workspace κ ε) :
    run host levels (action :: rest) here =
      run host levels rest (outcome (perform host levels action) here).2 :=
  rfl

/-- What one change after another keeps is kept along a history. -/
theorem run_induction {property : Workspace κ ε → Prop}
    (kept : ∀ action here after, Change host levels here action after → property here → property after)
    (actions : List (Action κ)) {here : Workspace κ ε} (initially : property here) :
    property (run host levels actions here) := by
  induction actions generalizing here with
  | nil => exact initially
  | cons action rest ih => exact ih (kept action here _ (change_perform host levels here action) initially)

theorem Change.opened_le {here after : Workspace κ ε} {action : Action κ}
    (change : Change host levels here action after) : here.opened ≤ after.opened := by
  cases change with
  | opens => exact Nat.le_succ here.opened
  | _ => exact Nat.le_refl here.opened

theorem Change.environment_eq {here after : Workspace κ ε} {action : Action κ}
    (change : Change host levels here action after) : after.environment = here.environment := by
  cases change <;> rfl

theorem environment_run (actions : List (Action κ)) (here : Workspace κ ε) :
    (run host levels actions here).environment = here.environment :=
  run_induction (fun _ _ _ change same => change.environment_eq.trans same) actions rfl

end Run

end Workspace

end ThemedViews
