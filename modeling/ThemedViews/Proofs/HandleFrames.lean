import ThemedViews.Proofs.CacheHistories
import ThemedViews.Proofs.HandleOrigins

/-!
# What handles and views have in common

A handle that is opened gets stores of its own.  Its copies lead to the same stores,
whatever is set of them, and so do the views that are made from them and their partials:
what is shared or loaded through one of them is seen through all, and through no other.
Everything else belongs to one of them: a handle changes by what is set of it itself, and
of a view nothing but its data, its partials and the name of its layout ever changes.
-/

namespace ThemedViews

variable {κ π ε : Type} {name : String}

namespace Table

variable {α : Type}

/-- What lies below is found where nothing lies above. -/
theorem lookup_overlay_of_not_mem_keys {base above : Table α} {key : String} (unbound : key ∉ keys above) :
    (overlay base above).lookup key = base.lookup key := by
  have nowhere : key ∉ keys above.reverse := by simpa [keys] using unbound
  rw [lookup_overlay_eq_reverse, lookup_eq_none_of_not_mem_keys nowhere, Option.none_or]

end Table

namespace ContentCache

/-- A load that succeeds leaves its text for its path. -/
theorem find?_load_of_ok {cache : ContentCache} {files : FileTree} {path : Path} {text : String}
    (loaded : (cache.load files path).1 = .ok text) : (cache.load files path).2.find? path = some text := by
  unfold ContentCache.load at loaded ⊢
  cases known : cache.find? path with
  | some content =>
      rw [known] at loaded
      cases loaded
      exact known
  | none =>
      rw [known] at loaded
      cases read : files.read path with
      | ok content =>
          rw [read] at loaded
          cases loaded
          simp [find?_concat, known]
      | error cause =>
          rw [read] at loaded
          cases loaded

/-- A text that is kept for a path stays, and a load of the path gives it. -/
theorem find?_load {cache : ContentCache} {path : Path} {text : String} (found : cache.find? path = some text)
    (files : FileTree) (other : Path) :
    (cache.load files other).2.find? path = some text ∧
      (other.components = path.components → (cache.load files other).1 = .ok text) := by
  by_cases same : other.components = path.components
  · have known : cache.find? other = some text := by rw [find?, same, ← find?, found]
    unfold ContentCache.load
    rw [known]
    exact ⟨found, fun _ => rfl⟩
  · exact ⟨(find?_load_of_ne files same cache).trans found, fun equal => absurd equal same⟩

/-- A text that is kept for a path stays, and every load of the path gives it. -/
theorem Loading.find?_eq {loads : List Load} {before after : ContentCache} {path : Path} {text : String}
    (loading : Loading loads before after) (found : before.find? path = some text) :
    after.find? path = some text ∧
      ∀ load ∈ loads, load.path.components = path.components → load.result = .ok text := by
  induction loading with
  | nil => exact ⟨found, fun load member => nomatch member⟩
  | @cons first loads before between after loaded _ ih =>
      obtain ⟨kept, given⟩ := find?_load found first.files first.path
      rw [loaded] at kept given
      obtain ⟨final, others⟩ := ih kept
      exact ⟨final, List.forall_mem_cons.mpr ⟨given, others⟩⟩

/-- What a load has given is kept for its path. -/
theorem Loading.find?_of_mem {loads : List Load} {before after : ContentCache} {load : Load} {text : String}
    (loading : Loading loads before after) (member : load ∈ loads) (succeeded : load.result = .ok text) :
    after.find? load.path = some text := by
  induction loading with
  | nil => cases member
  | @cons first loads before between after loaded rest ih =>
      rcases List.mem_cons.mp member with rfl | later
      · have kept : (before.load load.files load.path).2.find? load.path = some text :=
          find?_load_of_ok (by rw [loaded, succeeded])
        rw [loaded] at kept
        exact (rest.find?_eq kept).1
      · exact ih later

end ContentCache

section Sharing

/-- What a deed shares by a reference. -/
def Deed.shares (reference : Nat) : Deed κ ε → List (String × DataValue κ)
  | .share shared key value => if shared = reference then [(key, value)] else []
  | _ => []

theorem find_shared_after (reference : Nat) (around : Surroundings κ ε) (deed : Deed κ ε) :
    (around.after deed).shared.find reference =
      Table.overlay (around.shared.find reference) (deed.shares reference) := by
  cases deed with
  | share shared key value =>
      have sharedEq : (around.after (.share shared key value)).shared =
          around.shared.put shared (Table.insert key value (around.shared.find shared)) := rfl
      rw [sharedEq, Heap.find_put, Deed.shares]
      by_cases same : shared = reference
      · rw [if_pos same, if_pos same.symm, same]
        rfl
      · rw [if_neg same, if_neg (Ne.symm same)]
        rfl
  | load | write | remove | elsewhere => rfl

theorem find_shared_afterAll (reference : Nat) (around : Surroundings κ ε) (deeds : List (Deed κ ε)) :
    (around.afterAll deeds).shared.find reference =
      Table.overlay (around.shared.find reference) (deeds.flatMap (Deed.shares reference)) := by
  induction deeds generalizing around with
  | nil => rfl
  | cons deed rest ih =>
      have later := ih (around.after deed)
      rw [find_shared_after] at later
      rw [List.flatMap_cons, Table.overlay, List.foldl_append]
      exact later

end Sharing

namespace View

/-- Where the layout and the partials of a view are looked up. -/
def resolver (view : View κ) : Resolver :=
  view.handle.resolverFor view.theme

theorem Remains.resolver_eq {view later : View κ} (remains : Remains view later) :
    later.resolver = view.resolver := by
  rw [resolver, resolver, remains.handle_eq, remains.theme_eq]

variable {host : Host κ π ε} {around : Surroundings κ ε}

/-- The file of a new view was found by the resolver of its handle. -/
theorem resolver_path_of_make {handle : Handle κ} {reference : String} {data : Data κ} {view : View κ}
    (made : make host around handle reference data = .ok view) :
    handle.resolver.path around.files reference = .ok view.path ∧ view.resolver = handle.resolver ∧
      view.handle = handle ∧ view.theme = handle.config.theme ∧ view.layout = handle.config.layout := by
  obtain ⟨page, paged, made⟩ := exists_of_bind_eq_ok made
  obtain ⟨path, found, paged⟩ := exists_of_bind_eq_ok paged
  cases paged
  cases made
  exact ⟨found, rfl, rfl, rfl, rfl⟩

theorem resolver_path_of_makePartial {view : View κ} {request : PartialRequest κ} {page : Page κ (DataValue κ)}
    (made : view.makePartial host around request = .ok page) :
    view.resolver.path around.files request.name = .ok page.path ∧ page.theme = view.theme ∧
      page.handle = view.handle := by
  unfold makePartial Page.make at made
  obtain ⟨path, found, made⟩ := exists_of_bind_eq_ok made
  cases made
  exact ⟨found, rfl, rfl⟩

end View

namespace Workspace

variable {host : Host κ π ε} {levels : Nat}

section Handles

theorem lookup_handles_run {actions : List (Action κ)} {here : Workspace κ ε}
    (stays : ∀ action ∈ actions, action.replacesHandle name = false) :
    (run host levels actions here).handles.lookup name =
      (here.handles.lookup name).map fun handle =>
        actions.foldl (Handle.behind here.environment name) handle := by
  induction actions generalizing here with
  | nil => exact Option.map_id'.symm
  | cons action rest ih =>
      obtain ⟨first, others⟩ := List.forall_mem_cons.mp stays
      rw [run_cons, ih others, (change_perform host levels here action).environment_eq, lookup_handles_perform first,
        Option.map_map]
      rfl

end Handles

section Views

variable {here : Workspace κ ε} {view : View κ}

/-- What an action leaves of a view is the view, but for its data, its partials and its layout. -/
theorem revised_behind (host : Host κ π ε) (here : Workspace κ ε) (name : String) (action : Action κ)
    (view : View κ) :
    view.Revised (view.behind host here name action) ∧
      (view.behind host here name action).layout = action.layoutBehind name view.layout := by
  unfold View.behind
  cases revises : action.revision? host with
  | none =>
      refine ⟨.refl view, ?_⟩
      cases action with
      | setViewLayout => cases revises
      | _ => rfl
  | some revision =>
      obtain ⟨target, change⟩ := revision
      dsimp only
      by_cases same : target = name
      · subst same
        rw [if_pos rfl]
        exact View.revised_of_revision? revises here view
      · rw [if_neg same]
        refine ⟨.refl view, ?_⟩
        cases action with
        | setViewLayout other chosen =>
            cases revises
            exact (if_neg same).symm
        | _ => rfl

/-- A view that stays under its name is the same for good, but for its data, the partials that were
registered with it, and the layout that was chosen for it. -/
theorem exists_remains_run {actions : List (Action κ)}
    (stays : ∀ action ∈ actions, action.replacesView name = false)
    (found : here.views.lookup name = some view) :
    ∃ final, (run host levels actions here).views.lookup name = some final ∧ view.Remains final ∧
      final.layout = actions.foldl (fun layout action => action.layoutBehind name layout) view.layout := by
  induction actions generalizing here view with
  | nil => exact ⟨view, found, .refl view, rfl⟩
  | cons action rest ih =>
      obtain ⟨first, others⟩ := List.forall_mem_cons.mp stays
      obtain ⟨revised, layoutEq⟩ := revised_behind host here name action view
      have later : (outcome (perform host levels action) here).2.views.lookup name =
          some (view.behind host here name action) := by
        rw [lookup_views_perform first, found, Option.map_some]
      obtain ⟨final, isFinal, remains, layoutFinal⟩ := ih others later
      refine ⟨final, isFinal, revised.toRemains.trans remains, ?_⟩
      rw [layoutFinal, layoutEq]
      rfl

end Views

section Stores

/-- The stores of all handles are among those that have been opened, and partials are pages on the handles
and in the themes of their views. -/
structure Tidy (here : Workspace κ ε) : Prop where
  opened : ∀ handle, here.Holds handle → handle.content = handle.shared ∧ handle.shared < here.opened
  partial_eq : ∀ name view, here.views.lookup name = some view →
    ∀ entry ∈ view.partials, entry.2.handle = view.handle ∧ entry.2.theme = view.theme

theorem stores_of_made {environment : Environment} {stores : Nat} {handle : Handle κ}
    (made : Handle.Made environment stores handle) : handle.content = stores ∧ handle.shared = stores := by
  have configured {parser : κ} {config : Config}
      (made : Handle.ofConfig environment parser stores config = .ok handle) :
      handle.content = stores ∧ handle.shared = stores := by
    obtain ⟨path, -, made⟩ := exists_of_bind_eq_ok made
    cases made
    exact ⟨rfl, rfl⟩
  cases made with
  | configured parser config made => exact configured made
  | loaded files parser path made =>
      obtain ⟨config, -, made⟩ := exists_of_bind_eq_ok made
      exact configured (mapError_eq_ok_iff.mp made)

variable {here after : Workspace κ ε} {action : Action κ}

theorem partial_eq_putView {target : String} {put : View κ} (tidy : here.Tidy)
    (each : ∀ entry ∈ put.partials, entry.2.handle = put.handle ∧ entry.2.theme = put.theme) :
    ∀ name view, (here.putView target put).views.lookup name = some view →
      ∀ entry ∈ view.partials, entry.2.handle = view.handle ∧ entry.2.theme = view.theme := by
  intro name view found
  rw [lookup_putView] at found
  split at found
  · cases found
    exact each
  · exact tidy.partial_eq name view found

theorem Change.opened_eq_or (change : Change host levels here action after) :
    after.opened = here.opened ∧ (action.opening? = none ∨ after = here) ∨
      after.opened = here.opened + 1 ∧ ∃ target handle, action.opening? = some target ∧
        handle.Made here.environment here.opened ∧ after = here.takeIn target handle := by
  cases change with
  | opens opens made => exact .inr ⟨rfl, _, _, opens, made, rfl⟩
  | nothing => exact .inl ⟨rfl, .inr rfl⟩
  | does taken | renders taken | copies taken | sets taken | revises taken =>
      refine .inl ⟨rfl, .inl ?_⟩
      cases action with
      | openHandle | openFile => cases taken
      | _ => rfl
  | makes taken | copiesView taken | copiesPartial taken =>
      subst taken
      exact .inl ⟨rfl, .inl rfl⟩

theorem Tidy.change (tidy : here.Tidy) (change : Change host levels here action after) : after.Tidy := by
  constructor
  · intro handle holds
    have grows := change.opened_le
    cases change.derives holds with
    | held isHeld => exact ⟨(tidy.opened handle isHeld).1, Nat.lt_of_lt_of_le (tidy.opened handle isHeld).2 grows⟩
    | @set source _ _ _ isHeld sets =>
        obtain ⟨contentEq, sharedEq⟩ := Handle.joined_of_setting? sets here.environment source
        rw [contentEq, sharedEq]
        exact ⟨(tidy.opened source isHeld).1, Nat.lt_of_lt_of_le (tidy.opened source isHeld).2 grows⟩
    | opened opens made =>
        obtain ⟨contentEq, sharedEq⟩ := stores_of_made made
        rcases change.opened_eq_or with ⟨-, opensNot | same⟩ | ⟨openedEq, -⟩
        · rw [opens] at opensNot
          cases opensNot
        · rw [same] at holds ⊢
          exact tidy.opened handle holds
        · exact ⟨contentEq.trans sharedEq.symm, by omega⟩
  · cases change with
    | nothing | does | renders | opens | copies | sets => exact tidy.partial_eq
    | makes _ _ made =>
        refine partial_eq_putView tidy ?_
        rw [(View.handle_of_make made).2]
        exact nofun
    | @copiesView source _ _ _ found => exact partial_eq_putView tidy (tidy.partial_eq source _ found)
    | copiesPartial => exact partial_eq_putView tidy nofun
    | @revises target _ view revises found =>
        obtain ⟨revised, -⟩ := View.revised_of_revision? revises here view
        refine partial_eq_putView tidy fun entry member => ?_
        rw [revised.handle_eq, revised.theme_eq]
        exact (revised.partial_eq entry member).elim (tidy.partial_eq target view found entry) id

theorem tidy_run (actions : List (Action κ)) (tidy : here.Tidy) : (run host levels actions here).Tidy :=
  run_induction (fun _ _ _ change tidy => tidy.change change) actions tidy

theorem tidy_start (environment : Environment) (files : FileTree) (outside : ε) :
    (start environment files outside : Workspace κ ε).Tidy where
  opened handle holds := by
    cases holds with
    | named found | inView found | inPartial found => cases found
  partial_eq name view found := by cases found

/-- Every handle behind a history leads to the stores of one before it, or to stores opened since. -/
theorem joined_or_opened_run (actions : List (Action κ)) (here : Workspace κ ε) {handle : Handle κ}
    (holds : (run host levels actions here).Holds handle) :
    (∃ old, here.Holds old ∧ old.Joined handle) ∨ here.opened ≤ handle.content ∧ here.opened ≤ handle.shared := by
  induction actions generalizing here with
  | nil => exact .inl ⟨handle, holds, .refl handle⟩
  | cons action rest ih =>
      have change := change_perform host levels here action
      rcases ih _ holds with ⟨old, isOld, joined⟩ | ⟨contentNew, sharedNew⟩
      · cases change.derives isOld with
        | held isHeld => exact .inl ⟨old, isHeld, joined⟩
        | @set source _ _ _ isHeld sets =>
            exact .inl ⟨source, isHeld, (Handle.joined_of_setting? sets here.environment source).trans joined⟩
        | opened _ made =>
            obtain ⟨contentEq, sharedEq⟩ := stores_of_made made
            rw [joined.content_eq, joined.shared_eq, contentEq, sharedEq]
            exact .inr ⟨Nat.le_refl _, Nat.le_refl _⟩
      · exact .inr ⟨Nat.le_trans change.opened_le contentNew, Nat.le_trans change.opened_le sharedNew⟩

end Stores

section Shares

/-- What an action shares by a reference, by itself or in the course of what it renders. -/
inductive Shares (host : Host κ π ε) (levels reference : Nat) (here : Workspace κ ε) (action : Action κ) :
    List (String × DataValue κ) → Prop
  | renders {outer course} (plans : Plans host levels here action outer course)
      (passes : Passes host outer course ⟨here.toSurroundings, none⟩
        ⟨(outcome (perform host levels action) here).2.toSurroundings, none⟩) :
      Shares host levels reference here action ((deedsAmong course).flatMap (Deed.shares reference))
  | does {deed} (does : action.deed? here = some deed) :
      Shares host levels reference here action (deed.shares reference)
  | nothing (doesNot : action.deed? here = none) (rendersNot : action.rendering? host levels here = none) :
      Shares host levels reference here action []

/-- What a history shares by a reference, in order. -/
inductive SharesAll (host : Host κ π ε) (levels reference : Nat) :
    Workspace κ ε → List (Action κ) → List (String × DataValue κ) → Prop
  | nil {here} : SharesAll host levels reference here [] []
  | cons {here action actions shares others} (first : Shares host levels reference here action shares)
      (rest : SharesAll host levels reference (run host levels [action] here) actions others) :
      SharesAll host levels reference here (action :: actions) (shares ++ others)

variable {reference : Nat} {here : Workspace κ ε}

theorem exists_sharesAll (host : Host κ π ε) (levels reference : Nat) (here : Workspace κ ε)
    (actions : List (Action κ)) : ∃ shares, SharesAll host levels reference here actions shares := by
  induction actions generalizing here with
  | nil => exact ⟨[], .nil⟩
  | cons action rest ih =>
      obtain ⟨others, sharesOthers⟩ := ih (run host levels [action] here)
      rcases exists_plans_or_idle host levels here action with
        ⟨outer, course, plans, passes⟩ | ⟨deed, does⟩ | ⟨doesNot, rendersNot⟩
      · exact ⟨_, .cons (.renders plans passes) sharesOthers⟩
      · exact ⟨_, .cons (.does does) sharesOthers⟩
      · exact ⟨_, .cons (.nothing doesNot rendersNot) sharesOthers⟩

theorem Shares.find_shared {action : Action κ} {shares : List (String × DataValue κ)}
    (isShared : Shares host levels reference here action shares) (old : reference < here.opened) :
    (outcome (perform host levels action) here).2.shared.find reference =
      Table.overlay (here.shared.find reference) shares := by
  cases isShared with
  | @renders _ course _ passes =>
      rw [passes.sameStores.shared_eq]
      exact find_shared_afterAll reference here.toSurroundings (deedsAmong course)
  | @does deed does =>
      rcases (change_perform host levels here action).does_or_idle with ⟨other, doesOther, isBehind⟩ | doesNot
      · rw [does] at doesOther
        cases doesOther
        rw [isBehind]
        exact find_shared_after reference here.toSurroundings deed
      · rw [does] at doesNot
        cases doesNot
  | nothing doesNot rendersNot =>
      have change := change_perform host levels here action
      exact (change.find_of_idle doesNot rendersNot old).2

/-- A store of shared data holds what was shared by its reference, the latest value under each key. -/
theorem SharesAll.find_shared {actions : List (Action κ)} {shares : List (String × DataValue κ)}
    (areShared : SharesAll host levels reference here actions shares) (old : reference < here.opened) :
    (run host levels actions here).shared.find reference = Table.overlay (here.shared.find reference) shares := by
  induction areShared with
  | nil => rfl
  | @cons here action rest shares others first _ ih =>
      have grows := (change_perform host levels here action).opened_le
      have appended : Table.overlay (here.shared.find reference) (shares ++ others) =
          Table.overlay (Table.overlay (here.shared.find reference) shares) others := List.foldl_append
      rw [run_cons, appended, ← first.find_shared old]
      exact ih (Nat.lt_of_lt_of_le old grows)

end Shares

/-- Along a history handles and views have the stores in common, and nothing else. -/
structure CommonStores (host : Host κ π ε) (levels : Nat) (actions : List (Action κ)) (here : Workspace κ ε) :
    Prop where
  /-- Every handle leads to stores that have been opened. -/
  stores_old : ∀ handle, (run host levels actions here).Holds handle →
    handle.content = handle.shared ∧ handle.shared < (run host levels actions here).opened
  /-- Whatever handles become, they lead to the stores that they led to, or to some opened since. -/
  stores_eq : ∀ handle, (run host levels actions here).Holds handle →
    (∃ old, here.Holds old ∧ old.Joined handle) ∨ here.opened ≤ handle.content ∧ here.opened ≤ handle.shared
  /-- A handle that is opened gets stores of its own, which are empty and to which no other handle leads. -/
  opens : ∀ before action behind target, actions = before ++ action :: behind →
    action.opening? = some target →
      let now := run host levels before here
      run host levels (before ++ [action]) here = now ∨
      ∃ handle, Handle.Made now.environment now.opened handle ∧
        run host levels (before ++ [action]) here = now.takeIn target handle ∧
        (now.takeIn target handle).shared.find handle.shared = [] ∧
        (now.takeIn target handle).contents.find handle.content = .empty ∧
        ∀ other, now.Holds other → other.content ≠ handle.content ∧ other.shared ≠ handle.shared
  /-- To share a value changes nothing but the store of the handle. -/
  sharing_frame : ∀ before source key value behind found,
    actions = before ++ .share source key value :: behind →
    (run host levels before here).handles.lookup source = some found →
      let now := run host levels before here
      ∃ shared, run host levels (before ++ [.share source key value]) here = { now with shared } ∧
        shared.find found.shared = Table.insert key value (now.shared.find found.shared) ∧
        ∀ reference, reference ≠ found.shared → shared.find reference = now.shared.find reference
  /-- A value that is shared through one handle is seen through all that lead to the same store, and by their
  views unless they bind the key, until something else is shared under its key. -/
  shared_seen : ∀ before source key value behind found,
    actions = before ++ .share source key value :: behind →
    (run host levels before here).handles.lookup source = some found →
      let final := run host levels actions here
      let shared := run host levels (before ++ [.share source key value]) here
      (∃ shares, SharesAll host levels found.shared shared behind shares) ∧
      ∀ shares, SharesAll host levels found.shared shared behind shares →
        let latest := (shares.reverse.lookup key).getD value
        (∀ other, final.Holds other → other.shared = found.shared →
          (final.shared.find other.shared).lookup key = some latest) ∧
        ∀ view : View κ, view.handle.shared = found.shared → key ∉ Table.keys view.data →
          (view.mergedData final.shared).lookup key = some latest
  /-- To load a file changes nothing but the cache of the handle. -/
  loading_frame : ∀ before source path behind found,
    actions = before ++ .loadFile source path :: behind →
    (run host levels before here).handles.lookup source = some found →
      let now := run host levels before here
      ∃ contents, run host levels (before ++ [.loadFile source path]) here = { now with contents } ∧
        ∀ reference, reference ≠ found.content → contents.find reference = now.contents.find reference
  /-- A text that is loaded through one handle, in a rendering or not, is what all handles that lead to the same
  cache give for its path from then on, whatever is done next. -/
  cached_seen : ∀ before action behind found loads load text, actions = before ++ action :: behind →
    (run host levels before here).Holds found →
    Makes host levels found.content (run host levels before here) (.performs action) loads →
    load ∈ loads → load.result = .ok text →
      let final := run host levels actions here
      ∀ other, final.Holds other → other.content = found.content → ∀ next,
        (∃ laterLoads, Makes host levels other.content final next laterLoads) ∧
        ∀ laterLoads, Makes host levels other.content final next laterLoads →
          ∀ later ∈ laterLoads, later.path.components = load.path.components → later.result = .ok text
  /-- To set something of a handle changes no other handle, no view, and no store. -/
  setting_frame : ∀ before action behind target change, actions = before ++ action :: behind →
    action.setting? = some (target, change) →
      ∃ handles, run host levels (before ++ [action]) here = { run host levels before here with handles } ∧
        ∀ other, other ≠ target → handles.lookup other = (run host levels before here).handles.lookup other
  /-- A handle is what was set of it itself. -/
  handle_eq : ∀ name handle, here.handles.lookup name = some handle →
    (∀ action ∈ actions, action.replacesHandle name = false) →
      (run host levels actions here).handles.lookup name =
        some (actions.foldl (Handle.behind here.environment name) handle)
  /-- A copy of a handle begins as that handle is at the time, and then it is on its own. -/
  copy_eq : ∀ source target theme handle, here.handles.lookup source = some handle →
    (∀ action ∈ actions, action.replacesHandle target = false) →
      (run host levels (.copyHandle source target :: actions) here).handles.lookup target =
        some (actions.foldl (Handle.behind here.environment target) handle) ∧
      (run host levels (.copyWithTheme source target theme :: actions) here).handles.lookup target =
        some (actions.foldl (Handle.behind here.environment target) (handle.setTheme theme))
  /-- A view stays what it is, but for its data, its partials and the name of its layout. -/
  view_remains : ∀ name view, here.views.lookup name = some view →
    (∀ action ∈ actions, action.replacesView name = false) →
      ∃ final, (run host levels actions here).views.lookup name = some final ∧ view.Remains final ∧
        final.layout = actions.foldl (fun layout action => action.layoutBehind name layout) view.layout ∧
        final.partials = View.placedAll view.partials (registered host levels name actions here)
  /-- Partials are pages on the handles of their views and in their themes. -/
  partial_eq : ∀ name view, (run host levels actions here).views.lookup name = some view →
    ∀ entry ∈ view.partials, entry.2.handle = view.handle ∧ entry.2.theme = view.theme
  /-- A view that was made from a handle before the history goes on with that handle:
  its file, its layout and its partials are found where the handle was at that time. -/
  view_made : ∀ source name reference data handle view, here.handles.lookup source = some handle →
    View.make host here.toSurroundings handle reference data = .ok view →
    (∀ action ∈ actions, action.replacesView name = false) →
      let later := run host levels (.makeView source name reference data :: actions) here
      ∃ final, later.views.lookup name = some final ∧
        handle.resolver.path here.files reference = .ok final.path ∧
        final.handle = handle ∧ final.theme = handle.config.theme ∧ final.resolver = handle.resolver ∧
        final.layout =
          actions.foldl (fun layout action => action.layoutBehind name layout) handle.config.layout ∧
        (∀ (around : Surroundings κ ε) request page, final.makePartial host around request = .ok page →
          handle.resolver.path around.files request.name = .ok page.path ∧ page.theme = handle.config.theme ∧
            page.handle = handle) ∧
        ∀ within (around behind : Surroundings κ ε) text,
          outcome (final.renderWithin host within) around = (.ok text, behind) →
          ∃ fewer, within = fewer + 1 ∧
            ∃ composition : View.Composition host (View.renderWithin host fewer) final around text behind,
              handle.resolver.path composition.behindBody.files (View.layoutName final.layout) =
                .ok composition.layout

section Common

variable {here : Workspace κ ε} {actions : List (Action κ)}

theorem run_share {source key : String} {value : DataValue κ} {found : Handle κ}
    (held : here.handles.lookup source = some found) :
    run host levels [.share source key value] here =
      { here with toSurroundings := here.toSurroundings.share found.shared key value } := by
  rw [run_cons, perform, outcome_withHandle, held]
  rfl

theorem run_loadFile {source : String} {path : Path} {found : Handle κ}
    (held : here.handles.lookup source = some found) :
    run host levels [.loadFile source path] here =
      { here with toSurroundings := (here.toSurroundings.load found.content path).2 } := by
  rw [run_cons, perform, outcome_withHandle, held]
  dsimp only
  rw [outcome_get_bind]
  rcases here.toSurroundings.load found.content path with ⟨_ | _, around⟩
  · rfl
  · rfl

theorem find?_run {reference : Nat} {path : Path} {text : String} (old : reference < here.opened)
    (found : (here.contents.find reference).find? path = some text) :
    ((run host levels actions here).contents.find reference).find? path = some text := by
  induction actions generalizing here with
  | nil => exact found
  | cons action rest ih =>
      obtain ⟨loads, makes⟩ := exists_makes host levels reference here (.performs action)
      have loading := makes.loading old
      exact ih (Nat.lt_of_lt_of_le old (opened_le_behind here (.performs action))) (loading.find?_eq found).1

theorem opened_le_run (host : Host κ π ε) (levels : Nat) (actions : List (Action κ)) (here : Workspace κ ε) :
    here.opened ≤ (run host levels actions here).opened :=
  run_induction (fun _ _ _ change le => Nat.le_trans le change.opened_le) actions (Nat.le_refl _)

theorem Tidy.opens (tidy : here.Tidy) {action : Action κ} {target : String}
    (opens : action.opening? = some target) :
    run host levels [action] here = here ∨
    ∃ handle, Handle.Made here.environment here.opened handle ∧
      run host levels [action] here = here.takeIn target handle ∧
      (here.takeIn target handle).shared.find handle.shared = [] ∧
      (here.takeIn target handle).contents.find handle.content = .empty ∧
      ∀ other, here.Holds other → other.content ≠ handle.content ∧ other.shared ≠ handle.shared := by
  have change := change_perform host levels here action
  rcases change.opened_eq_or with ⟨-, opensNot | same⟩ | ⟨-, other, handle, opensOther, made, taken⟩
  · rw [opens] at opensNot
    cases opensNot
  · exact .inl same
  · rw [opens] at opensOther
    cases opensOther
    obtain ⟨contentEq, sharedEq⟩ := stores_of_made made
    refine .inr ⟨handle, made, taken, ?_, ?_, fun other holds => ?_⟩
    · rw [sharedEq]
      exact Heap.find_put_self ..
    · rw [contentEq]
      exact Heap.find_put_self ..
    · obtain ⟨same, less⟩ := tidy.opened other holds
      rw [contentEq, sharedEq, same]
      exact ⟨Nat.ne_of_lt less, Nat.ne_of_lt less⟩

/-- What is shared stays until something else is shared under its key. -/
theorem lookup_shared_of_share {source key : String} {value : DataValue κ} {found : Handle κ}
    {shares : List (String × DataValue κ)} (held : here.handles.lookup source = some found)
    (old : found.shared < here.opened)
    (areShared :
      SharesAll host levels found.shared (run host levels [.share source key value] here) actions shares) :
    ((run host levels (.share source key value :: actions) here).shared.find found.shared).lookup key =
      some ((shares.reverse.lookup key).getD value) := by
  have grows := opened_le_run host levels [.share source key value] here
  have isRun : run host levels (.share source key value :: actions) here =
      run host levels actions (run host levels [.share source key value] here) := rfl
  rw [isRun, areShared.find_shared (Nat.lt_of_lt_of_le old grows), Table.lookup_overlay_eq_reverse, run_share held]
  have bound : ((here.toSurroundings.share found.shared key value).shared.find found.shared).lookup key =
      some value := by
    simp [Surroundings.share, Table.lookup_insert_self]
  rw [bound]
  exact Option.or_some

/-- What has been loaded is what every later load gives. -/
theorem result_of_makes {reference : Nat} {activity next : Activity κ π ε} {loads laterLoads : List Load}
    {load later : Load} {text : String} (old : reference < here.opened)
    (makes : Makes host levels reference here activity loads) (member : load ∈ loads)
    (succeeded : load.result = .ok text)
    (makesLater : Makes host levels reference (run host levels actions (behind host levels here activity)) next
      laterLoads)
    (isLater : later ∈ laterLoads) (same : later.path.components = load.path.components) :
    later.result = .ok text := by
  have oldBehind : reference < (behind host levels here activity).opened :=
    Nat.lt_of_lt_of_le old (opened_le_behind here activity)
  have kept := (makes.loading old).find?_of_mem member succeeded
  have oldLater := Nat.lt_of_lt_of_le oldBehind (opened_le_run host levels actions _)
  exact ((makesLater.loading oldLater).find?_eq (find?_run oldBehind kept)).2 later isLater same

theorem exists_handles_of_setting? {action : Action κ} {target : String}
    {change : Environment → ExceptT ViewError (StateM (Handle κ)) Unit}
    (sets : action.setting? = some (target, change)) (here : Workspace κ ε) :
    ∃ handles, run host levels [action] here = { here with handles } ∧
      ∀ other, other ≠ target → handles.lookup other = here.handles.lookup other := by
  cases found : here.handles.lookup target with
  | none =>
      refine ⟨here.handles, ?_, fun _ _ => rfl⟩
      rw [run_cons, perform_of_setting? host levels sets, changeHandle, outcome_withHandle, found]
      rfl
  | some handle =>
      rw [run_cons, outcome_perform_of_setting? host levels sets found]
      exact ⟨_, rfl, fun other different => Table.lookup_insert_of_ne different _ here.handles⟩

theorem lookup_copy_run {source target : String} {handle : Handle κ} {alter : Handle κ → Handle κ}
    {action : Action κ} (copies : action.copying? = some (source, target, alter))
    (found : here.handles.lookup source = some handle)
    (stays : ∀ action ∈ actions, action.replacesHandle target = false) :
    (run host levels (action :: actions) here).handles.lookup target =
      some (actions.foldl (Handle.behind here.environment target) (alter handle)) := by
  rw [run_cons, outcome_perform_of_copying? host levels copies found, lookup_handles_run stays, lookup_putHandle,
    if_pos rfl]
  rfl

end Common

section Made

variable {here : Workspace κ ε} {actions : List (Action κ)} {handle : Handle κ} {reference : String}
  {data : Data κ} {view : View κ}

/-- A view is made where its handle is, and goes on with it. -/
theorem exists_remains_of_make {source : String} (found : here.handles.lookup source = some handle)
    (made : View.make host here.toSurroundings handle reference data = .ok view)
    (stays : ∀ action ∈ actions, action.replacesView name = false) :
    let later := run host levels (.makeView source name reference data :: actions) here
    ∃ final, later.views.lookup name = some final ∧
      handle.resolver.path here.files reference = .ok final.path ∧
      final.handle = handle ∧ final.theme = handle.config.theme ∧ final.resolver = handle.resolver ∧
      final.layout = actions.foldl (fun layout action => action.layoutBehind name layout) handle.config.layout := by
  intro later
  obtain ⟨pathFound, madeResolver, madeHandle, madeTheme, madeLayout⟩ := View.resolver_path_of_make made
  have placed : (outcome (perform host levels (.makeView source name reference data)) here).2.views.lookup name =
      some view := by
    rw [outcome_perform_makeView host levels name found made, lookup_putView, if_pos rfl]
  obtain ⟨final, isFinal, remains, layoutEq⟩ := exists_remains_run stays placed
  rw [← remains.path_eq] at pathFound
  rw [madeLayout] at layoutEq
  exact ⟨final, isFinal, pathFound, remains.handle_eq.trans madeHandle, remains.theme_eq.trans madeTheme,
    remains.resolver_eq.trans madeResolver, layoutEq⟩

end Made

/-- Along a history handles and views have the stores in common, and nothing else. -/
theorem commonStores_run (host : Host κ π ε) (levels : Nat) (environment : Environment) (files : FileTree)
    (outside : ε) (earlier actions : List (Action κ)) :
    CommonStores host levels actions (run host levels earlier (start environment files outside)) := by
  have tidyStart : (start environment files outside : Workspace κ ε).Tidy := tidy_start environment files outside
  generalize isHere : run host levels earlier (start environment files outside) = here
  have tidy : here.Tidy := isHere ▸ tidy_run earlier tidyStart
  have tidyRun (actions : List (Action κ)) : (run host levels actions here).Tidy := tidy_run actions tidy
  exact {
    stores_old := fun handle holds => (tidyRun actions).opened handle holds
    stores_eq := fun handle holds => joined_or_opened_run actions here holds
    opens := by
      intro before action behind target _ opens now
      rw [run_append]
      exact (tidyRun before).opens opens
    sharing_frame := by
      intro before source key value behind found _ held now
      rw [run_append, run_share held]
      exact ⟨_, rfl, Heap.find_put_self .., fun reference different => Heap.find_put_of_ne different _ _⟩
    shared_seen := by
      intro before source key value behind found split held final shared
      refine ⟨exists_sharesAll host levels found.shared shared behind, fun shares areShared => ?_⟩
      intro latest
      have old := ((tidyRun before).opened found (.named held)).2
      have isShared : shared = run host levels [.share source key value] (run host levels before here) :=
        run_append before _ here
      rw [isShared] at areShared
      have seen : (final.shared.find found.shared).lookup key = some latest := by
        have isFinal : final =
            run host levels (.share source key value :: behind) (run host levels before here) := by
          rw [← run_append, ← split]
        rw [isFinal]
        exact lookup_shared_of_share held old areShared
      refine ⟨fun other _ same => same ▸ seen, fun view same unbound => ?_⟩
      rw [View.mergedData, Table.lookup_overlay_of_not_mem_keys unbound, same]
      exact seen
    loading_frame := by
      intro before source path behind found _ held now
      rw [run_append, run_loadFile held]
      exact ⟨_, rfl, fun reference different => Heap.find_put_of_ne different _ _⟩
    cached_seen := by
      intro before action behind found loads load text split holds makes member succeeded final other _ same next
      refine ⟨exists_makes host levels other.content final next, fun laterLoads makesLater later isLater => ?_⟩
      obtain ⟨contentEq, less⟩ := (tidyRun before).opened found holds
      rw [same, show final = _ from congrArg (fun actions => run host levels actions here) split, run_append]
        at makesLater
      exact result_of_makes (contentEq ▸ less) makes member succeeded makesLater isLater
    setting_frame := by
      intro before action behind target change _ sets
      rw [run_append]
      exact exists_handles_of_setting? sets _
    handle_eq := by
      intro name handle found stays
      rw [lookup_handles_run stays, found, Option.map_some]
    copy_eq := by
      intro source target theme handle found stays
      have plain : (Action.copyHandle source target : Action κ).copying? = some (source, target, id) := rfl
      have themed : (Action.copyWithTheme source target theme : Action κ).copying? =
          some (source, target, Handle.setTheme theme) := rfl
      exact ⟨lookup_copy_run plain found stays, lookup_copy_run themed found stays⟩
    view_remains := by
      intro name view found stays
      obtain ⟨final, isFinal, remains, layoutEq⟩ := exists_remains_run stays found
      obtain ⟨other, isOther, partialsEq⟩ := exists_partials_run stays found
      rw [isFinal] at isOther
      cases isOther
      exact ⟨final, isFinal, remains, layoutEq, partialsEq⟩
    partial_eq := (tidyRun actions).partial_eq
    view_made := by
      intro source name reference data handle view found made stays later
      obtain ⟨final, isFinal, pathFound, handleEq, themeEq, resolverEq, layoutEq⟩ :=
        exists_remains_of_make found made stays
      refine ⟨final, isFinal, pathFound, handleEq, themeEq, resolverEq, layoutEq, ?_, ?_⟩
      · intro around request page partialMade
        obtain ⟨found, pageTheme, pageHandle⟩ := View.resolver_path_of_makePartial partialMade
        rw [← resolverEq, ← themeEq, ← handleEq]
        exact ⟨found, pageTheme, pageHandle⟩
      · intro within around behind text done
        obtain ⟨fewer, isWithin, ⟨composition⟩⟩ := View.exists_composition_of_renderWithin done
        rw [← resolverEq]
        exact ⟨fewer, isWithin, composition, composition.findsLayout⟩ }

/-- Two handles with stores of their own. -/
def openedHandles : List (Action Unit) :=
  [.openHandle "main" () (Config.withLocation "t"), .openHandle "other" () (Config.withLocation "t")]

/-- After a page is made its handle is set and copied, and through the copy, which is set as well, a value is
shared. -/
def pageHistory : List (Action Unit) :=
  [.setLayout "main" "wide", .copyHandle "main" "night", .setTheme "night" "night",
    .registerAlias "main" "about" "note", .share "night" "title" (.scalar (.text "Title")),
    .setViewLayout "page" "narrow", .setLocation "night" "elsewhere"]

/-- The copy shares with its handle, and not with the other one. -/
theorem commonStores_run_page :
    let here := run View.listingHost 1 openedHandles (start [] View.postFiles ())
    let final := run View.listingHost 1 pageHistory here
    CommonStores View.listingHost 1 pageHistory here ∧
      (∃ handle, final.handles.lookup "main" = some handle ∧
        (final.shared.find handle.shared).lookup "title" = some (.scalar (.text "Title")) ∧
        handle.resolver = ⟨⟨"t"⟩, "main", [("about", "note")]⟩) ∧
      (∃ handle, final.handles.lookup "other" = some handle ∧
        (final.shared.find handle.shared).lookup "title" = none) ∧
      let later := run View.listingHost 1 (.makeView "main" "page" "post" [] :: pageHistory) here
      ∃ view, later.views.lookup "page" = some view ∧
        view.resolver = ⟨⟨"t"⟩, "main", []⟩ ∧ view.path = ⟨"t/main/views/post.html"⟩ ∧ view.layout = "narrow" := by
  intro here final
  have common := commonStores_run View.listingHost 1 [] View.postFiles () openedHandles pageHistory
  have mainHeld : here.handles.lookup "main" = some View.pageHandle := rfl
  have nightHeld : (run View.listingHost 1 (pageHistory.take 4) here).handles.lookup "night" =
      some ((View.pageHandle.setLayout "wide").setTheme "night") := rfl
  have seen := common.shared_seen (pageHistory.take 4) "night" "title" (.scalar (.text "Title"))
    (pageHistory.drop 5) _ rfl nightHeld
  have nothingSince : SharesAll View.listingHost 1 View.pageHandle.shared
      (run View.listingHost 1 (pageHistory.take 4 ++ [.share "night" "title" (.scalar (.text "Title"))]) here)
      (pageHistory.drop 5) [] :=
    .cons (.nothing rfl rfl) (.cons (.nothing rfl rfl) .nil)
  have main : final.handles.lookup "main" =
      some ((View.pageHandle.setLayout "wide").registerAlias "about" "note") :=
    common.handle_eq "main" View.pageHandle mainHeld (by decide)
  have made : View.make View.listingHost here.toSurroundings View.pageHandle "post" [] =
      .ok { View.post with data := [("errors", DataValue.ofValue MessageBag.empty.toValue)], partials := [] } := rfl
  obtain ⟨view, isView, pathFound, -, -, resolverEq, layoutEq, -⟩ :=
    common.view_made "main" "page" "post" [] View.pageHandle _ mainHeld made (by decide)
  have title := (seen.2 [] nothingSince).1 _ (.named main) rfl
  have otherHeld : here.handles.lookup "other" = some { View.pageHandle with content := 1, shared := 1 } := rfl
  have other : final.handles.lookup "other" = some { View.pageHandle with content := 1, shared := 1 } :=
    common.handle_eq "other" _ otherHeld (by decide)
  have throughNight : Shares View.listingHost 1 1 (run View.listingHost 1 (pageHistory.take 4) here)
      (.share "night" "title" (.scalar (.text "Title"))) [] := by
    have does : (Action.share "night" "title" (.scalar (.text "Title"))).deed?
        (run View.listingHost 1 (pageHistory.take 4) here) =
          some (.share View.pageHandle.shared "title" (.scalar (.text "Title"))) := by
      rw [Action.deed?, nightHeld]
      rfl
    exact .does does
  have nothingElsewhere : SharesAll View.listingHost 1 1 here pageHistory [] :=
    .cons (.nothing rfl rfl) (.cons (.nothing rfl rfl) (.cons (.nothing rfl rfl) (.cons (.nothing rfl rfl)
      (.cons throughNight (.cons (.nothing rfl rfl) (.cons (.nothing rfl rfl) .nil))))))
  have untitled : (final.shared.find 1).lookup "title" = none := by
    rw [nothingElsewhere.find_shared (Nat.lt_succ_self 1)]
    rfl
  refine ⟨common, ⟨_, main, title, rfl⟩, ⟨_, other, untitled⟩, view, isView, resolverEq, ?_, layoutEq⟩
  exact (Except.ok.inj pathFound).symm

end Workspace

end ThemedViews
