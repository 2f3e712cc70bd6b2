import Mathlib.Data.List.Forall2
import ThemedViews.Proofs.CompositionScopes
import ThemedViews.Proofs.WorkspaceChanges

/-!
# Registering partials along histories

A call that registers partials makes the page of each of them before it changes
anything.  So it either fails with the error of the first page that cannot be made,
where single calls would have kept the pages before that one, or it has the effect
of single calls one after another.  What a view has after a history is told by the
partials that were registered in it, in order: the keys stand where they came up
first, and the latest page under a key counts.
-/

namespace ThemedViews

namespace View

section Placing

variable {α : Type} {partials entries : List (String × α)}

/-- Pages under their keys, registered one after another. -/
def placedAll (partials entries : List (String × α)) : List (String × α) :=
  entries.foldl (fun partials (key, page) => placed key page partials) partials

theorem keys_placed (key : String) (page : α) (partials : List (String × α)) :
    Table.keys (placed key page partials) =
      if key ∈ Table.keys partials then Table.keys partials else Table.keys partials ++ [key] := by
  simp only [Table.keys]
  induction partials with
  | nil => rfl
  | cons entry rest ih =>
      obtain ⟨other, old⟩ := entry
      unfold placed
      by_cases found : other = key
      · simp [found]
      · rw [if_neg found, List.map_cons, ih]
        by_cases member : key ∈ rest.map Prod.fst <;> simp [member, Ne.symm found]

theorem lookup_placed (key sought : String) (page : α) (partials : List (String × α)) :
    (placed key page partials).lookup sought =
      if sought = key then some page else partials.lookup sought := by
  induction partials with
  | nil => exact Table.lookup_cons sought key page []
  | cons entry rest ih =>
      obtain ⟨other, old⟩ := entry
      unfold placed
      by_cases found : other = key
      · rw [if_pos found, Table.lookup_cons, Table.lookup_cons, found]
        by_cases same : sought = key <;> simp [same]
      · rw [if_neg found, Table.lookup_cons, Table.lookup_cons, ih]
        by_cases same : sought = other
        · simp [same, found]
        · simp [same]

/-- Partials that are those of a history of registrations: every key stands where
it came up first, with the page that it had last. -/
structure Sums (partials registered : List (String × α)) : Prop where
  nodup : (Table.keys partials).Nodup
  keys_eq : Table.keys partials = (Table.keys registered).eraseDups
  lookup_eq : ∀ key, partials.lookup key = registered.reverse.lookup key

theorem eraseDups_eq_self {keys : List String} (nodup : keys.Nodup) : keys.eraseDups = keys := by
  induction keys with
  | nil => rfl
  | cons key rest ih =>
      obtain ⟨fresh, others⟩ := List.nodup_cons.mp nodup
      have kept : rest.filter (fun other => !other == key) = rest := by
        refine List.filter_eq_self.mpr fun other member => ?_
        simpa using fun same : other = key => fresh (same ▸ member)
      rw [List.eraseDups_cons, kept, ih others]

theorem Sums.refl (nodup : (Table.keys partials).Nodup) : Sums partials partials :=
  ⟨nodup, (eraseDups_eq_self nodup).symm, fun key => (Table.lookup_reverse nodup key).symm⟩

theorem Sums.placed {registered : List (String × α)} (sums : Sums partials registered) (key : String)
    (page : α) : Sums (placed key page partials) (registered ++ [(key, page)]) := by
  constructor
  · rw [keys_placed]
    split
    · exact sums.nodup
    · next fresh =>
        exact List.nodup_append.mpr ⟨sums.nodup, List.nodup_singleton key, fun other found _ last same =>
          fresh (List.mem_singleton.mp last ▸ same ▸ found)⟩
  · have member : key ∈ Table.keys partials ↔ key ∈ Table.keys registered := by
      rw [sums.keys_eq, List.mem_eraseDups]
    have appended : Table.keys (registered ++ [(key, page)]) = Table.keys registered ++ [key] :=
      List.map_append
    simp only [keys_placed, appended, Table.eraseDups_concat, ← sums.keys_eq, member]
  · intro sought
    rw [lookup_placed, List.reverse_append, List.lookup_append, sums.lookup_eq]
    by_cases same : sought = key
    · simp [same]
    · simp [Table.lookup_cons, same]

theorem Sums.placedAll {registered : List (String × α)} (sums : Sums partials registered)
    (entries : List (String × α)) : Sums (placedAll partials entries) (registered ++ entries) := by
  induction entries generalizing partials registered with
  | nil => simpa [View.placedAll] using sums
  | cons entry rest ih =>
      have later := ih (sums.placed entry.1 entry.2)
      rwa [List.append_assoc] at later

end Placing

variable {κ π ε : Type} {host : Host κ π ε} {around : Surroundings κ ε} {view : View κ}
  {requests : List (PartialRequest κ)}

/-- The page of a request, under the key of the request. -/
def Makes (host : Host κ π ε) (around : Surroundings κ ε) (view : View κ) (request : PartialRequest κ)
    (entry : String × Page κ (DataValue κ)) : Prop :=
  entry.1 = request.key ∧ view.makePartial host around request = .ok entry.2

def pages (host : Host κ π ε) (around : Surroundings κ ε) (requests : List (PartialRequest κ)) (view : View κ) :
    Except ViewError (List (String × Page κ (DataValue κ))) :=
  requests.mapM fun request => do
    return (request.key, ← view.makePartial host around request)

/-- A view with more partials, registered one after another. -/
def withPartials (view : View κ) (entries : List (String × Page κ (DataValue κ))) : View κ :=
  { view with partials := placedAll view.partials entries }

theorem pages_cons (request : PartialRequest κ) (rest : List (PartialRequest κ)) :
    view.pages host around (request :: rest) = do
      let page ← view.makePartial host around request
      let others ← view.pages host around rest
      return (request.key, page) :: others := by
  simp [pages]

theorem outcome_forM_place (entries : List (String × Page κ (DataValue κ))) (view : View κ) :
    outcome (entries.forM fun (key, page) => modify (place key page) : ExceptT ViewError (StateM (View κ)) Unit)
        view =
      (.ok (), view.withPartials entries) := by
  induction entries generalizing view with
  | nil => rfl
  | cons entry rest ih => exact ih (view.place entry.1 entry.2)

/-- Either no page is registered, or all of them. -/
theorem outcome_addPartials (requests : List (PartialRequest κ)) (view : View κ) :
    outcome (addPartials host around requests) view =
      match view.pages host around requests with
      | .ok entries => (.ok (), view.withPartials entries)
      | .error error => (.error error, view) := by
  rw [addPartials, outcome_get_bind, outcome_result_bind, ← pages]
  cases view.pages host around requests with
  | error error => rfl
  | ok entries => exact outcome_forM_place entries view

/-- A page is registered if it can be made. -/
theorem outcome_addPartial (request : PartialRequest κ) (view : View κ) :
    outcome (addPartial host around request) view =
      match view.makePartial host around request with
      | .ok page => (.ok (), view.withPartials [(request.key, page)])
      | .error error => (.error error, view) := by
  rw [addPartial, outcome_get_bind, outcome_result_bind]
  cases view.makePartial host around request <;> rfl

theorem forall₂_of_pages {entries : List (String × Page κ (DataValue κ))}
    (made : view.pages host around requests = .ok entries) :
    List.Forall₂ (view.Makes host around) requests entries := by
  induction requests generalizing entries with
  | nil =>
      cases made
      exact .nil
  | cons request rest ih =>
      rw [pages_cons] at made
      obtain ⟨page, first, behind⟩ := exists_of_bind_eq_ok made
      obtain ⟨others, later, done⟩ := exists_of_bind_eq_ok behind
      cases done
      exact .cons ⟨rfl, first⟩ (ih later)

/-- Requests fail with the error of the first one that fails. -/
theorem exists_of_pages_eq_error {error : ViewError} (failed : view.pages host around requests = .error error) :
    ∃ earlier request later entries, requests = earlier ++ request :: later ∧
      List.Forall₂ (view.Makes host around) earlier entries ∧
      view.makePartial host around request = .error error := by
  induction requests with
  | nil => cases failed
  | cons request rest ih =>
      rw [pages_cons] at failed
      cases first : view.makePartial host around request with
      | error found =>
          rw [first] at failed
          cases failed
          exact ⟨[], request, rest, [], rfl, .nil, first⟩
      | ok page =>
          rw [first] at failed
          cases behind : view.pages host around rest with
          | ok others =>
              rw [behind] at failed
              cases failed
          | error found =>
              rw [behind] at failed
              cases failed
              obtain ⟨earlier, later, others, entries, rfl, made, fails⟩ := ih behind
              exact ⟨request :: earlier, later, others, (request.key, page) :: entries, rfl,
                .cons ⟨rfl, first⟩ made, fails⟩

/-- Single calls one after another register the pages of all requests that can be made, and go on with the
rest. -/
theorem outcome_forM_addPartial_append {earlier : List (PartialRequest κ)}
    {entries : List (String × Page κ (DataValue κ))} (made : List.Forall₂ (view.Makes host around) earlier entries)
    (later : List (PartialRequest κ)) :
    outcome ((earlier ++ later).forM (addPartial host around)) view =
      outcome (later.forM (addPartial host around)) (view.withPartials entries) := by
  induction earlier generalizing view entries with
  | nil =>
      cases made
      rfl
  | cons request rest ih =>
      cases made with
      | @cons _ entry _ others first behind =>
          obtain ⟨key, page⟩ := entry
          obtain ⟨rfl, paged⟩ := first
          have registers : outcome (addPartial host around request) view =
              (.ok (), view.withPartials [(request.key, page)]) := by
            rw [outcome_addPartial, paged]
          -- The partials change from call to call, but not what pages are made from.
          have madeStill : List.Forall₂ ((view.withPartials [(request.key, page)]).Makes host around) rest others :=
            behind
          exact (outcome_bind_of_ok registers _).trans (ih madeStill)

/-- What a call does that registers partials with a view, and what single calls would do one after another: the
call fails with the error of the first page that cannot be made and changes nothing, where single calls would keep
the pages before; or it registers all pages, as single calls do. -/
inductive Registers (host : Host κ π ε) (around : Surroundings κ ε) (requests : List (PartialRequest κ))
    (view : View κ) : List (String × Page κ (DataValue κ)) → Except ViewError Unit × View κ → Prop where
  | refused {earlier later : List (PartialRequest κ)} {request : PartialRequest κ}
      {entries : List (String × Page κ (DataValue κ))} {error : ViewError}
      (split : requests = earlier ++ request :: later)
      (made : List.Forall₂ (view.Makes host around) earlier entries)
      (fails : view.makePartial host around request = .error error)
      (singly : outcome (requests.forM (addPartial host around)) view =
        (.error error, view.withPartials entries)) :
      Registers host around requests view [] (.error error, view)
  | done {entries : List (String × Page κ (DataValue κ))}
      (made : List.Forall₂ (view.Makes host around) requests entries)
      (singly : outcome (requests.forM (addPartial host around)) view = (.ok (), view.withPartials entries)) :
      Registers host around requests view entries (.ok (), view.withPartials entries)

theorem registers_addPartials (host : Host κ π ε) (around : Surroundings κ ε) (requests : List (PartialRequest κ))
    (view : View κ) :
    Registers host around requests view ((view.pages host around requests).toOption.getD [])
      (outcome (addPartials host around requests) view) := by
  rw [outcome_addPartials]
  cases result : view.pages host around requests with
  | error error =>
      obtain ⟨earlier, request, later, entries, split, made, fails⟩ := exists_of_pages_eq_error result
      refine .refused split made fails ?_
      have stops : outcome (addPartial host around request) (view.withPartials entries) =
          (.error error, view.withPartials entries) := by
        rw [outcome_addPartial, show (view.withPartials entries).makePartial host around request = _ from fails]
      rw [split, outcome_forM_addPartial_append made]
      exact outcome_bind_of_error stops _
  | ok entries =>
      have made := forall₂_of_pages result
      have singly := outcome_forM_addPartial_append made []
      rw [List.append_nil] at singly
      exact .done made singly

/-- A single call is a call for one partial. -/
theorem outcome_addPartial_eq (request : PartialRequest κ) (view : View κ) :
    outcome (addPartial host around request) view = outcome (addPartials host around [request]) view := by
  rw [outcome_addPartial, outcome_addPartials, pages_cons]
  cases view.makePartial host around request <;> rfl

end View

variable {κ π ε : Type} {name : String} {host : Host κ π ε} {levels : Nat}

/-- The partials that an action registers with the view of a name. -/
def Action.requestsOn (name : String) : Action κ → Option (List (View.PartialRequest κ))
  | .addPartial view request => if view = name then some [request] else none
  | .addPartials view requests => if view = name then some requests else none
  | _ => none

namespace Workspace

open View

/-- The partials that an action registers with the view of a name; none if it
fails. -/
def registrations (host : Host κ π ε) (name : String) (action : Action κ) (here : Workspace κ ε) :
    List (String × Page κ (DataValue κ)) :=
  match here.views.lookup name, action.requestsOn name with
  | some view, some requests => ((view.pages host here.toSurroundings requests).toOption).getD []
  | _, _ => []

/-- The partials that a history registers with the view of a name, in order. -/
def registered (host : Host κ π ε) (levels : Nat) (name : String) :
    List (Action κ) → Workspace κ ε → List (String × Page κ (DataValue κ))
  | [], _ => []
  | action :: rest, here =>
      registrations host name action here ++
        registered host levels name rest (run host levels [action] here)

section Asked

variable {action : Action κ} {requests : List (PartialRequest κ)} {here : Workspace κ ε} {view : View κ}
  (asks : action.requestsOn name = some requests)

include asks

theorem exists_revision?_of_requestsOn (here : Workspace κ ε) (view : View κ) :
    ∃ change, action.revision? host = some (name, change) ∧
      outcome (change here) view = outcome (addPartials host here.toSurroundings requests) view := by
  cases action with
  | addPartial target request =>
      simp only [Action.requestsOn] at asks
      split at asks
      · next same =>
          cases asks
          subst same
          exact ⟨_, rfl, outcome_addPartial_eq request view⟩
      · cases asks
  | addPartials target requests =>
      simp only [Action.requestsOn] at asks
      split at asks
      · next same =>
          cases asks
          subst same
          exact ⟨_, rfl, rfl⟩
      · cases asks
  | _ => cases asks

variable (found : here.views.lookup name = some view)

include found

theorem registrations_eq :
    registrations host name action here = (view.pages host here.toSurroundings requests).toOption.getD [] := by
  rw [registrations, found, asks]

/-- A call that registers partials does nothing but to change the view in its place. -/
theorem outcome_perform_of_requestsOn :
    outcome (perform host levels action) here =
      let call := outcome (addPartials host here.toSurroundings requests) view
      ((call.1.map fun _ => .nothing).mapError .failed, here.putView name call.2) := by
  obtain ⟨change, revises, same⟩ := exists_revision?_of_requestsOn asks here view
  rw [outcome_perform_of_revision? host levels revises found, same]

end Asked

/-- Of the partials of a view an action changes nothing but that it registers some. -/
theorem partials_behind {action : Action κ} {here : Workspace κ ε} {view : View κ}
    (found : here.views.lookup name = some view) :
    (view.behind host here name action).partials =
      placedAll view.partials (registrations host name action here) := by
  cases asks : action.requestsOn name with
  | some requests =>
      obtain ⟨change, revises, same⟩ := exists_revision?_of_requestsOn asks here view
      rw [registrations_eq asks found, View.behind, revises]
      dsimp only
      rw [if_pos rfl, same, outcome_addPartials]
      cases view.pages host here.toSurroundings requests <;> rfl
  | none =>
      have nothing : registrations host name action here = [] := by
        rw [registrations, found, asks]
      rw [nothing]
      cases action with
      | bind target | bindAll target | setViewLayout target =>
          by_cases same : target = name <;> simp [View.behind, Action.revision?, same] <;> rfl
      | addPartial target | addPartials target =>
          have different : target ≠ name := by
            rintro rfl
            simp [Action.requestsOn] at asks
          simp [View.behind, Action.revision?, different]
          rfl
      | _ => rfl

/-- A history adds what it registers to the partials of a view. -/
theorem exists_partials_run {actions : List (Action κ)} {here : Workspace κ ε} {view : View κ}
    (stays : ∀ action ∈ actions, action.replacesView name = false)
    (found : here.views.lookup name = some view) :
    ∃ final, (run host levels actions here).views.lookup name = some final ∧
      final.partials = placedAll view.partials (registered host levels name actions here) := by
  induction actions generalizing here view with
  | nil => exact ⟨view, found, rfl⟩
  | cons action rest ih =>
      obtain ⟨first, others⟩ := List.forall_mem_cons.mp stays
      have later : (outcome (perform host levels action) here).2.views.lookup name =
          some (view.behind host here name action) := by
        rw [lookup_views_perform first, found, Option.map_some]
      obtain ⟨final, isFinal, partialsEq⟩ := ih others later
      refine ⟨final, isFinal, ?_⟩
      rw [partialsEq, partials_behind found, registered, placedAll, placedAll, placedAll, List.foldl_append]
      rfl

/-- Every call that registers partials with a view registers all of them or none,
and behind a history the partials of the view are those that were registered:
each key stands where it came up first, with the page that it had last.  Views are
made without partials, so that their keys are distinct from the beginning. -/
theorem registers_along_run {actions : List (Action κ)} {workspace : Workspace κ ε} {view : View κ}
    (found : workspace.views.lookup name = some view) (distinct : (Table.keys view.partials).Nodup)
    (stays : ∀ action ∈ actions, action.replacesView name = false) :
    (∀ before action behind requests, actions = before ++ action :: behind →
      action.requestsOn name = some requests →
      let here := run host levels before workspace
      ∃ current result after, here.views.lookup name = some current ∧
        Registers host here.toSurroundings requests current (registrations host name action here)
          (result, after) ∧
        outcome (perform host levels action) here =
          ((result.map fun _ => .nothing).mapError .failed, here.putView name after)) ∧
    ∃ final, (run host levels actions workspace).views.lookup name = some final ∧
      Sums final.partials (view.partials ++ registered host levels name actions workspace) := by
  constructor
  · intro before action behind requests split asks here
    have earlier : ∀ action ∈ before, action.replacesView name = false :=
      fun action member => stays action (split ▸ List.mem_append_left _ member)
    obtain ⟨current, isCurrent, -⟩ : ∃ current, here.views.lookup name = some current ∧ _ :=
      exists_partials_run earlier found
    have call := registers_addPartials host here.toSurroundings requests current
    rw [← registrations_eq asks isCurrent] at call
    exact ⟨current, _, _, isCurrent, call, outcome_perform_of_requestsOn asks isCurrent⟩
  · obtain ⟨final, isFinal, partialsEq⟩ := exists_partials_run stays found
    exact ⟨final, isFinal, partialsEq ▸ (Sums.refl distinct).placedAll _⟩

def postWorkspace : Workspace Unit Unit :=
  { Workspace.start [] postFiles () with views := [("post", post)] }

/-- Of the first two partials the second has no file until it is written. -/
def postHistory : List (Action Unit) :=
  [.addPartials "post" [⟨"first", "note", []⟩, ⟨"second", "aside", []⟩],
    .writeFile ⟨"t/main/views/aside.html"⟩ "aside".toUTF8,
    .addPartials "post" [⟨"first", "note", []⟩, ⟨"second", "aside", []⟩, ⟨"first", "aside", []⟩],
    .addPartial "post" ⟨"third", "name: nowhere", []⟩,
    .addPartial "post" ⟨"note", "aside", []⟩]

theorem registers_along_run_post :
    postWorkspace.views.lookup "post" = some post ∧ (Table.keys post.partials).Nodup ∧
      (∀ action ∈ postHistory, action.replacesView "post" = false) ∧
      ∃ final, (run listingHost 1 postHistory postWorkspace).views.lookup "post" = some final ∧
        Sums final.partials (post.partials ++ registered listingHost 1 "post" postHistory postWorkspace) ∧
        (Table.keys final.partials = ["note", "first", "second"] ∧
          final.partials.map (fun entry => entry.2.name) = ["aside", "aside", "aside"]) := by
  have found : postWorkspace.views.lookup "post" = some post := rfl
  have distinct : (Table.keys post.partials).Nodup := by decide
  have stays : ∀ action ∈ postHistory, action.replacesView "post" = false := by decide
  obtain ⟨_, final, isFinal, sums⟩ := registers_along_run found distinct stays
  have kept : (run listingHost 1 postHistory postWorkspace).views.lookup "post" = some _ := rfl
  cases isFinal.symm.trans kept
  exact ⟨found, distinct, stays, _, isFinal, sums, rfl, rfl⟩

end Workspace

end ThemedViews
