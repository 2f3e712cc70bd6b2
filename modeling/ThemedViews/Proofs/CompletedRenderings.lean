import ThemedViews.Proofs.RendererPasses
import ThemedViews.Proofs.ViewNesting
import ThemedViews.Workspace

/-!
# Renderings that come to an end

A rendering with a limit on how many views are rendered inside each other either
ends within the limit or is left unfinished.  Where it ends, it ends in the same
way within every larger limit.  Where the nesting of views is well-founded, some
limit is enough, whatever the surroundings are.  A rendering that gives a text
has rendered all views that are nested in the view, so that the nesting was
well-founded; without it a rendering fails before it gets that far, or it never
ends.
-/

namespace ThemedViews

namespace Rendering

variable {σ τ α β : Type}

theorem outcome_focused (get : τ → σ) (set : τ → σ → τ) (inner : Rendering σ α) (whole : τ) :
    outcome (focused get set inner) whole =
      ((outcome inner (get whole)).1, set whole (outcome inner (get whole)).2) :=
  rfl

theorem outcome_ofPass (pass : ExceptT ViewError (StateM σ) α) (state : σ) :
    outcome (ofPass pass) state =
      ((outcome pass state).1.mapError .failed, (outcome pass state).2) :=
  rfl

/-- A relation of computations with part of the state as it is, that is kept when
computations are put together, and holds of those that render no views with
themselves.  The part keeps its value. -/
structure Compatible {ρ : Type} (value : ρ)
    (related : ∀ {σ α : Type}, (σ → ρ) → Rendering σ α → Rendering σ α → Prop) : Prop where
  ofPass : ∀ {σ α : Type} {part : σ → ρ} (pass : ExceptT ViewError (StateM σ) α),
    (∀ state, part (outcome pass state).2 = part state) → related part (ofPass pass) (ofPass pass)
  get_bind : ∀ {σ α : Type} {part : σ → ρ} {lessNext moreNext : σ → Rendering σ α},
    (∀ state, part state = value → related part (lessNext state) (moreNext state)) →
      related part (get >>= lessNext) (get >>= moreNext)
  bind : ∀ {σ α β : Type} {part : σ → ρ} {less more : Rendering σ α} {lessNext moreNext : α → Rendering σ β},
    related part less more → (∀ value, related part (lessNext value) (moreNext value)) →
      related part (less >>= lessNext) (more >>= moreNext)
  focused : ∀ {σ τ α : Type} {inner : σ → ρ} {outer : τ → ρ} {less more : Rendering σ α} {get : τ → σ}
    {set : τ → σ → τ}, (∀ whole, inner (get whole) = outer whole) →
      (∀ whole part, outer (set whole part) = inner part) → related inner less more →
        related outer (focused get set less) (focused get set more)

section Related

variable {ρ : Type} {value : ρ} {part : σ → ρ}

theorem Compatible.related_pure {related : ∀ {σ α : Type}, (σ → ρ) → Rendering σ α → Rendering σ α → Prop}
    (compatible : Compatible value @related) (result : α) :
    related part (pure result : Rendering σ α) (pure result) :=
  compatible.ofPass (pure result) fun _ => rfl

/-- A computation that keeps the value of a part of the state. -/
def Keeps (value : ρ) (part : σ → ρ) (action : Rendering σ α) : Prop :=
  ∀ state, part state = value → part (outcome action state).2 = value

/-- A computation that is left unfinished from no state with the value, and keeps
the value. -/
def Ends (value : ρ) (part : σ → ρ) (action : Rendering σ α) : Prop :=
  ∀ state, part state = value →
    (outcome action state).1 ≠ .error .unfinished ∧ part (outcome action state).2 = value

/-- A computation that has the outcomes of another wherever that one ends, while the
other keeps the value. -/
def Extends (value : ρ) (part : σ → ρ) (less more : Rendering σ α) : Prop :=
  ∀ state, part state = value → part (outcome less state).2 = value ∧
    ((outcome less state).1 ≠ .error .unfinished → outcome more state = outcome less state)

theorem Ends.of_extends {less more : Rendering σ α} (ends : Ends value part less)
    (extended : Extends value part less more) : Ends value part more := by
  intro state same
  rw [(extended state same).2 (ends state same).1]
  exact ends state same

theorem outcome_ofPass_ne_unfinished (pass : ExceptT ViewError (StateM σ) α) (state : σ) :
    (outcome (ofPass pass) state).1 ≠ .error .unfinished := by
  intro unfinished
  rw [outcome_ofPass] at unfinished
  cases result : (outcome pass state).1 with
  | error error =>
      rw [result] at unfinished
      cases unfinished
  | ok value =>
      rw [result] at unfinished
      cases unfinished

theorem Keeps.bind {action : Rendering σ α} {next : α → Rendering σ β} (first : Keeps value part action)
    (behind : ∀ result, Keeps value part (next result)) : Keeps value part (action >>= next) := by
  intro state same
  have kept := first state same
  rw [outcome_bind]
  cases result : outcome action state with
  | mk found after =>
      rw [result] at kept
      cases found with
      | ok value => exact behind value after kept
      | error error => exact kept

theorem Ends.bind {action : Rendering σ α} {next : α → Rendering σ β} (first : Ends value part action)
    (behind : ∀ result, Ends value part (next result)) : Ends value part (action >>= next) := by
  intro state same
  obtain ⟨ended, kept⟩ := first state same
  rw [outcome_bind]
  cases result : outcome action state with
  | mk found after =>
      rw [result] at ended kept
      cases found with
      | ok value => exact behind value after kept
      | error error =>
          refine ⟨fun unfinished => ended ?_, kept⟩
          cases unfinished
          rfl

theorem Extends.bind {less more : Rendering σ α} {lessNext moreNext : α → Rendering σ β}
    (first : Extends value part less more)
    (behind : ∀ result, Extends value part (lessNext result) (moreNext result)) :
    Extends value part (less >>= lessNext) (more >>= moreNext) := by
  intro state same
  obtain ⟨kept, extended⟩ := first state same
  rw [outcome_bind, outcome_bind]
  cases result : outcome less state with
  | mk found after =>
      rw [result] at kept extended
      cases found with
      | ok value =>
          obtain ⟨keptBehind, extendedBehind⟩ := behind value after kept
          refine ⟨keptBehind, fun ended => ?_⟩
          rw [extended (by simp)]
          exact extendedBehind ended
      | error error =>
          refine ⟨kept, fun ended => ?_⟩
          have endedFirst : (Except.error error : Except (Halt ViewError) α) ≠ .error .unfinished := by
            intro unfinished
            apply ended
            cases unfinished
            rfl
          rw [extended endedFirst]

theorem keeps_focused {inner : σ → ρ} {outer : τ → ρ} {action : Rendering σ α} {get : τ → σ}
    {set : τ → σ → τ} (getsPart : ∀ whole, inner (get whole) = outer whole)
    (setsPart : ∀ whole part, outer (set whole part) = inner part) (kept : Keeps value inner action) :
    Keeps value outer (focused get set action) := by
  intro whole same
  rw [outcome_focused, setsPart]
  exact kept _ ((getsPart whole).trans same)

theorem ends_ofPass (pass : ExceptT ViewError (StateM σ) α)
    (kept : ∀ state, part (outcome pass state).2 = part state) : Ends value part (ofPass pass) :=
  fun state same => ⟨outcome_ofPass_ne_unfinished pass state, (kept state).trans same⟩

theorem ends_focused {inner : σ → ρ} {outer : τ → ρ} {action : Rendering σ α} {get : τ → σ}
    {set : τ → σ → τ} (getsPart : ∀ whole, inner (get whole) = outer whole)
    (setsPart : ∀ whole part, outer (set whole part) = inner part) (ends : Ends value inner action) :
    Ends value outer (focused get set action) := by
  intro whole same
  rw [outcome_focused, setsPart]
  exact ends _ ((getsPart whole).trans same)

theorem compatible_keeps (value : ρ) :
    Compatible value fun {_ _} part less more => Keeps value part less ∧ Keeps value part more where
  ofPass _ kept :=
    ⟨fun state same => (kept state).trans same, fun state same => (kept state).trans same⟩
  get_bind each :=
    ⟨fun state same => (each state same).1 state same, fun state same => (each state same).2 state same⟩
  bind first behind :=
    ⟨first.1.bind fun value => (behind value).1, first.2.bind fun value => (behind value).2⟩
  focused getsPart setsPart kept :=
    ⟨keeps_focused getsPart setsPart kept.1, keeps_focused getsPart setsPart kept.2⟩

theorem compatible_ends (value : ρ) :
    Compatible value fun {_ _} part less more => Ends value part less ∧ Ends value part more where
  ofPass pass kept := ⟨ends_ofPass pass kept, ends_ofPass pass kept⟩
  get_bind each :=
    ⟨fun state same => (each state same).1 state same, fun state same => (each state same).2 state same⟩
  bind first behind :=
    ⟨first.1.bind fun value => (behind value).1, first.2.bind fun value => (behind value).2⟩
  focused getsPart setsPart ends :=
    ⟨ends_focused getsPart setsPart ends.1, ends_focused getsPart setsPart ends.2⟩

theorem compatible_extends (value : ρ) :
    Compatible value fun {_ _} part less more => Extends value part less more where
  ofPass _ kept state same := ⟨(kept state).trans same, fun _ => rfl⟩
  get_bind each state same := each state same state same
  bind first behind := first.bind behind
  focused getsPart setsPart extended whole same := by
    obtain ⟨kept, ended⟩ := extended _ ((getsPart whole).trans same)
    rw [outcome_focused, outcome_focused, setsPart]
    exact ⟨kept, fun notUnfinished => by rw [ended notUnfinished]⟩

/-- A computation that gives a result from some state with the value. -/
def Gives (value : ρ) (part : σ → ρ) (action : Rendering σ α) : Prop :=
  ∃ state result after, part state = value ∧ outcome action state = (.ok result, after)

theorem Gives.of_get_bind {next : σ → Rendering σ α} (gives : Gives value part (get >>= next)) :
    ∃ state, part state = value ∧ Gives value part (next state) := by
  obtain ⟨state, result, after, same, done⟩ := gives
  exact ⟨state, same, state, result, after, same, done⟩

theorem Gives.of_bind {action : Rendering σ α} {next : α → Rendering σ β}
    (gives : Gives value part (action >>= next)) (kept : Keeps value part action) :
    Gives value part action ∧ ∃ result, Gives value part (next result) := by
  obtain ⟨state, result, after, same, done⟩ := gives
  obtain ⟨found, between, first, behind⟩ := exists_of_outcome_bind_eq_ok done
  have keptBetween := kept state same
  rw [first] at keptBetween
  exact ⟨⟨state, found, between, same, first⟩, found, between, result, after, keptBetween, behind⟩

theorem Gives.of_focused {inner : Rendering σ α} {get : τ → σ} {set : τ → σ → τ} {outer : τ → ρ}
    (gives : Gives value outer (focused get set inner)) (getsPart : ∀ whole, part (get whole) = outer whole) :
    Gives value part inner := by
  obtain ⟨whole, result, after, same, done⟩ := gives
  rw [outcome_focused, Prod.mk.injEq] at done
  exact ⟨get whole, result, _, (getsPart whole).trans same, Prod.ext done.1 rfl⟩

end Related

end Rendering

open Rendering DataValue

/-- Nothing that the host renders shares anything. -/
def Host.KeepsShared {κ π ε : Type} (host : Host κ π ε) : Prop :=
  ∀ name around, (outcome (host.rendition name).render around).2.shared = around.shared

variable {κ π ε : Type} {host : Host κ π ε} {shared : Heap (Data κ)}
  {related : ∀ {σ α : Type}, (σ → Heap (Data κ)) → Rendering σ α → Rendering σ α → Prop}
  {renderView less more : View κ → Rendering (Surroundings κ ε) Text}

namespace DataValue

mutual

theorem related_resolve (compatible : Compatible shared @related) (quiet : host.KeepsShared) (value : DataValue κ)
    (nested : ∀ inner ∈ views value, related Surroundings.shared (less inner) (more inner)) :
    related Surroundings.shared (resolve host less value) (resolve host more value) := by
  match value with
  | .scalar value => exact compatible.related_pure value
  | .nested entries =>
      rw [resolve, resolve]
      exact compatible.bind (related_resolveEntries compatible quiet entries nested) fun _ =>
        compatible.related_pure _
  | .renderable name =>
      rw [resolve, resolve]
      exact compatible.bind (compatible.ofPass _ (quiet name)) fun _ => compatible.related_pure _
  | .view inner =>
      rw [resolve, resolve]
      exact compatible.bind (nested inner (List.mem_singleton.mpr rfl)) fun _ =>
        compatible.related_pure _

theorem related_resolveEntries (compatible : Compatible shared @related) (quiet : host.KeepsShared)
    (entries : List (String × DataValue κ))
    (nested : ∀ inner ∈ viewsOfEntries entries, related Surroundings.shared (less inner) (more inner)) :
    related Surroundings.shared (resolveEntries host less entries) (resolveEntries host more entries) := by
  match entries with
  | [] => exact compatible.related_pure []
  | (key, value) :: rest =>
      rw [viewsOfEntries, List.forall_mem_append] at nested
      rw [resolveEntries, resolveEntries]
      exact compatible.bind (related_resolve compatible quiet value nested.1) fun _ =>
        compatible.bind (related_resolveEntries compatible quiet rest nested.2) fun _ =>
          compatible.related_pure _

end

mutual

/-- Plain data stands for itself. -/
theorem resolve_ofValue (value : Value) : resolve host renderView (ofValue value) = pure value := by
  match value with
  | .object entries =>
      rw [ofValue, resolve, resolveEntries_ofEntries entries]
      rfl
  | .null | .bool _ | .number _ | .text _ | .list _ => rfl

theorem resolveEntries_ofEntries (entries : List (String × Value)) :
    resolveEntries host renderView (ofEntries entries) = pure entries := by
  match entries with
  | [] => rfl
  | (key, value) :: rest =>
      rw [ofEntries, resolveEntries, resolve_ofValue value, resolveEntries_ofEntries rest]
      rfl

end

section Gives

variable (quiet : host.KeepsShared) (kept : ∀ inner, Keeps shared Surroundings.shared (renderView inner))

include quiet kept

theorem keeps_resolve (value : DataValue κ) :
    Keeps shared Surroundings.shared (resolve host renderView value) :=
  (related_resolve (compatible_keeps shared) quiet value fun inner _ => ⟨kept inner, kept inner⟩).1

theorem keeps_resolveEntries (entries : List (String × DataValue κ)) :
    Keeps shared Surroundings.shared (resolveEntries host renderView entries) :=
  (related_resolveEntries (compatible_keeps shared) quiet entries fun inner _ => ⟨kept inner, kept inner⟩).1

mutual

theorem gives_of_resolve (value : DataValue κ)
    (gives : Gives shared Surroundings.shared (resolve host renderView value)) :
    ∀ inner ∈ views value, Gives shared Surroundings.shared (renderView inner) := by
  match value with
  | .scalar _ => exact fun _ member => by cases member
  | .nested entries =>
      rw [resolve] at gives
      exact gives_of_resolveEntries entries (gives.of_bind (keeps_resolveEntries quiet kept entries)).1
  | .renderable _ => exact fun _ member => by cases member
  | .view inner =>
      rw [resolve] at gives
      intro other same
      rw [List.mem_singleton.mp same]
      exact (gives.of_bind (kept inner)).1

theorem gives_of_resolveEntries (entries : List (String × DataValue κ))
    (gives : Gives shared Surroundings.shared (resolveEntries host renderView entries)) :
    ∀ inner ∈ viewsOfEntries entries, Gives shared Surroundings.shared (renderView inner) := by
  match entries with
  | [] => exact fun _ member => by cases member
  | (key, value) :: rest =>
      rw [resolveEntries] at gives
      obtain ⟨first, _, behind⟩ := gives.of_bind (keeps_resolve quiet kept value)
      have others := (behind.of_bind (keeps_resolveEntries quiet kept rest)).1
      rw [viewsOfEntries, List.forall_mem_append]
      exact ⟨gives_of_resolve value first, gives_of_resolveEntries rest others⟩

end

end Gives

end DataValue

namespace View

/-- The shared data around a renderer. -/
def sharedAround (renderer : Renderer κ π ε) : Heap (Data κ) :=
  renderer.shared

theorem createParser_eq_ofPass (kind : TagParser π ε) :
    (createParser kind : Rendering (Surroundings κ ε) π) =
      ofPass (ExceptT.lift (modifyGet fun around =>
        ((kind.create.run around.outside).1, { around with outside := (kind.create.run around.outside).2 }))) :=
  rfl

theorem related_resolvedData (compatible : Compatible shared @related) (quiet : host.KeepsShared) (view : View κ)
    (nested : ∀ inner ∈ viewsOfEntries (view.mergedData shared),
      related Surroundings.shared (less inner) (more inner)) :
    related Surroundings.shared (view.resolvedData host less) (view.resolvedData host more) := by
  refine compatible.get_bind fun around same => ?_
  rw [same]
  exact related_resolveEntries compatible quiet _ nested

theorem related_renderPartials (compatible : Compatible shared @related) (quiet : host.KeepsShared)
    (kind : TagParser π ε) (content : Nat) (data : Scope) (partials : List (String × Page κ (DataValue κ)))
    (nested : ∀ inner ∈ partials.flatMap (fun entry => viewsOfEntries entry.2.data),
      related Surroundings.shared (less inner) (more inner)) (rendered : Scope) :
    related sharedAround (renderPartials host less kind content data partials rendered)
      (renderPartials host more kind content data partials rendered) := by
  induction partials generalizing rendered with
  | nil => exact compatible.related_pure rendered
  | cons entry rest ih =>
      rw [List.flatMap_cons, List.forall_mem_append] at nested
      unfold renderPartials
      refine compatible.bind (compatible.focused ?_ ?_
        (related_resolveEntries compatible quiet entry.2.data nested.1)) fun _ => ?_
      · exact fun _ => rfl
      · exact fun _ _ => rfl
      · exact compatible.bind (compatible.ofPass _ (shared_renderFile kind content _ _)) fun _ => ih nested.2 _

theorem related_renderParts (compatible : Compatible shared @related) (quiet : host.KeepsShared)
    (view : View κ) (data : Scope)
    (nested : ∀ inner ∈ view.partials.flatMap (fun entry => viewsOfEntries entry.2.data),
      related Surroundings.shared (less inner) (more inner)) :
    related sharedAround (renderParts host less view data) (renderParts host more view data) := by
  unfold renderParts
  refine compatible.bind (related_renderPartials compatible quiet _ _ _ _ nested _) fun _ => ?_
  refine compatible.bind (compatible.ofPass _ fun _ => rfl) fun _ => ?_
  refine compatible.bind (compatible.ofPass _ fun _ => rfl) fun _ => ?_
  refine compatible.get_bind fun _ _ => ?_
  refine compatible.bind (compatible.ofPass _ fun _ => rfl) fun _ => ?_
  exact compatible.ofPass _ (shared_renderFile _ _ _ _)

theorem related_renderNesting (compatible : Compatible shared @related) (quiet : host.KeepsShared)
    (view : View κ)
    (nested : ∀ inner, NestedIn shared inner view → related Surroundings.shared (less inner) (more inner)) :
    related Surroundings.shared (renderNesting host less view) (renderNesting host more view) := by
  have inParts := List.forall_mem_append.mp nested
  unfold renderNesting
  refine compatible.bind (related_resolvedData compatible quiet view inParts.1) fun data => ?_
  refine compatible.bind ?_ fun _ => ?_
  · rw [createParser_eq_ofPass]
    exact compatible.ofPass _ fun _ => rfl
  · refine compatible.focused ?_ ?_ (related_renderParts compatible quiet view data inParts.2)
    · exact fun _ => rfl
    · exact fun _ _ => rfl

section Gives

variable (quiet : host.KeepsShared) (kept : ∀ inner, Keeps shared Surroundings.shared (renderView inner))

include quiet kept

theorem keeps_resolvedData (view : View κ) :
    Keeps shared Surroundings.shared (view.resolvedData host renderView) :=
  (related_resolvedData (compatible_keeps shared) quiet view fun inner _ => ⟨kept inner, kept inner⟩).1

theorem keeps_renderPartials (kind : TagParser π ε) (content : Nat) (data : Scope)
    (partials : List (String × Page κ (DataValue κ))) (rendered : Scope) :
    Keeps shared sharedAround (renderPartials host renderView kind content data partials rendered) :=
  (related_renderPartials (compatible_keeps shared) quiet kind content data partials
    (fun inner _ => ⟨kept inner, kept inner⟩) rendered).1

theorem keeps_renderNesting (view : View κ) :
    Keeps shared Surroundings.shared (renderNesting host renderView view) :=
  (related_renderNesting (compatible_keeps shared) quiet view fun inner _ => ⟨kept inner, kept inner⟩).1

theorem gives_of_renderPartials (kind : TagParser π ε) (content : Nat) (data : Scope)
    (partials : List (String × Page κ (DataValue κ))) (rendered : Scope)
    (gives : Gives shared sharedAround (renderPartials host renderView kind content data partials rendered)) :
    ∀ inner ∈ partials.flatMap (fun entry => viewsOfEntries entry.2.data),
      Gives shared Surroundings.shared (renderView inner) := by
  induction partials generalizing rendered with
  | nil => exact fun _ member => by cases member
  | cons entry rest ih =>
      have keepsOwn := keeps_resolveEntries quiet kept entry.2.data
      have keepsWithin : Keeps shared sharedAround
          (inSurroundings (π := π) (resolveEntries host renderView entry.2.data)) :=
        keeps_focused (fun _ => rfl) (fun _ _ => rfl) keepsOwn
      obtain ⟨own, _, behind⟩ := gives.of_bind keepsWithin
      obtain ⟨-, others⟩ := behind.of_bind fun state same =>
        (shared_renderFile kind content _ _ state).trans same
      rw [List.flatMap_cons, List.forall_mem_append]
      exact ⟨gives_of_resolveEntries quiet kept entry.2.data (own.of_focused fun _ => rfl),
        ih _ others.choose_spec⟩

/-- A rendering that gives a text has rendered all nested views. -/
theorem gives_of_renderNesting {view : View κ}
    (gives : Gives shared Surroundings.shared (renderNesting host renderView view)) :
    ∀ inner, NestedIn shared inner view → Gives shared Surroundings.shared (renderView inner) := by
  obtain ⟨resolved, _, behind⟩ := gives.of_bind (keeps_resolvedData quiet kept view)
  obtain ⟨-, _, inParts⟩ := behind.of_bind fun state same => same
  obtain ⟨around, same, inData⟩ := resolved.of_get_bind
  rw [same] at inData
  refine List.forall_mem_append.mpr ⟨gives_of_resolveEntries quiet kept _ inData, ?_⟩
  have within : Gives shared sharedAround (renderParts host renderView view _) :=
    inParts.of_focused fun _ => rfl
  have partials := (within.of_bind (keeps_renderPartials quiet kept _ _ _ _ _)).1
  exact gives_of_renderPartials quiet kept _ _ _ _ _ partials

end Gives

section Limits

variable (quiet : host.KeepsShared) {view : View κ}

include quiet

theorem keeps_renderWithin (levels : Nat) (view : View κ) :
    Keeps shared Surroundings.shared (renderWithin host levels view) := by
  induction levels generalizing view with
  | zero => exact fun _ same => same
  | succ levels ih => exact keeps_renderNesting quiet ih view

/-- Within a larger limit nothing changes for a rendering that ends. -/
theorem extends_renderWithin {fewer levels : Nat} (atMost : fewer ≤ levels) (view : View κ) :
    Extends shared Surroundings.shared (renderWithin host fewer view) (renderWithin host levels view) := by
  induction fewer generalizing levels view with
  | zero => exact fun _ same => ⟨same, fun ended => absurd rfl ended⟩
  | succ fewer ih =>
      obtain ⟨levels, rfl⟩ : ∃ smaller, levels = smaller + 1 := ⟨levels - 1, by omega⟩
      exact related_renderNesting (compatible_extends shared) quiet view fun inner _ =>
        ih (Nat.le_of_succ_le_succ atMost) inner

theorem exists_forall_mem_ends (views : List (View κ))
    (each : ∀ inner ∈ views, ∃ levels, Ends shared Surroundings.shared (renderWithin host levels inner)) :
    ∃ levels, ∀ inner ∈ views, Ends shared Surroundings.shared (renderWithin host levels inner) := by
  induction views with
  | nil => exact ⟨0, fun _ member => by cases member⟩
  | cons first rest ih =>
      rw [List.forall_mem_cons] at each
      obtain ⟨⟨levels, firstEnds⟩, restEach⟩ := each
      obtain ⟨others, restEnd⟩ := ih restEach
      refine ⟨max levels others, List.forall_mem_cons.mpr ⟨?_, fun inner member => ?_⟩⟩
      · exact firstEnds.of_extends (extends_renderWithin quiet (Nat.le_max_left _ _) first)
      · exact (restEnd inner member).of_extends (extends_renderWithin quiet (Nat.le_max_right _ _) inner)

/-- Where the nesting is well-founded, one limit is enough for all surroundings with
the shared data. -/
theorem exists_ends_of_acc (accessible : Acc (NestedIn shared) view) :
    ∃ levels, Ends shared Surroundings.shared (renderWithin host levels view) := by
  induction accessible with
  | intro view _ ih =>
      obtain ⟨levels, ends⟩ := exists_forall_mem_ends quiet (view.nestedViews shared) ih
      have both := related_renderNesting (compatible_ends shared) quiet view fun inner nested =>
        ⟨ends inner nested, ends inner nested⟩
      exact ⟨levels + 1, both.1⟩

/-- A text is given only where the nesting is well-founded. -/
theorem acc_of_gives {levels : Nat} (gives : Gives shared Surroundings.shared (renderWithin host levels view)) :
    Acc (NestedIn shared) view := by
  induction levels generalizing view with
  | zero =>
      obtain ⟨_, _, _, _, done⟩ := gives
      cases done
  | succ levels ih =>
      exact ⟨view, fun inner nested =>
        ih (gives_of_renderNesting quiet (keeps_renderWithin quiet levels) gives inner nested)⟩

end Limits

/-- A rendering that ends within some limit. -/
def Completes (host : Host κ π ε) (view : View κ) (around : Surroundings κ ε) : Prop :=
  ∃ levels, (outcome (renderWithin host levels view) around).1 ≠ .error .unfinished

/-- Every view completes if no shared data holds views. -/
theorem completes_of_sharedViews_eq_nil (quiet : host.KeepsShared) {around : Surroundings κ ε}
    (unshared : sharedViews around.shared = []) (view : View κ) : Completes host view around := by
  obtain ⟨levels, ends⟩ := exists_ends_of_acc quiet (acc_of_sharedViews_eq_nil unshared view)
  exact ⟨levels, (ends around rfl).1⟩

/-- A rendering comes to an end exactly if no view in it is nested in itself, or
if it fails before it would render such a view again. -/
theorem completes_iff (host : Host κ π ε) (quiet : host.KeepsShared) (view : View κ) (around : Surroundings κ ε) :
    Completes host view around ↔
      ¬ Circular around.shared view ∨
        ∃ levels failure after,
          outcome (renderWithin host levels view) around = (.error (.failed failure), after) := by
  rw [← acc_iff_not_circular]
  constructor
  · rintro ⟨levels, ended⟩
    cases result : outcome (renderWithin host levels view) around with
    | mk found after =>
        rcases found with (failure | _) | text
        · exact .inr ⟨levels, failure, after, result⟩
        · exact absurd (congrArg Prod.fst result) ended
        · exact .inl (acc_of_gives quiet ⟨around, text, after, rfl, result⟩)
  · rintro (accessible | ⟨levels, failure, after, result⟩)
    · obtain ⟨levels, ends⟩ := exists_ends_of_acc quiet accessible
      exact ⟨levels, (ends around rfl).1⟩
    · refine ⟨levels, ?_⟩
      rw [result]
      simp

section Circles

variable {view : View κ} {key : String}

/-- A view among plain data that is left unfinished leaves all of it so. -/
theorem outcome_resolveEntries_of_unfinished {state : Surroundings κ ε}
    (unfinished : outcome (renderView view) state = (.error .unfinished, state)) {entries : List (String × DataValue κ)}
    (each : ∀ entry ∈ entries, (∃ value, entry.2 = ofValue value) ∨ entry.2 = .view view)
    (member : (key, .view view) ∈ entries) :
    outcome (resolveEntries host renderView entries) state = (.error .unfinished, state) := by
  induction entries with
  | nil => cases member
  | cons entry rest ih =>
      obtain ⟨other, value⟩ := entry
      rw [List.forall_mem_cons] at each
      have stopped (isView : value = .view view) :
          outcome (resolveEntries host renderView ((other, value) :: rest)) state =
            (.error .unfinished, state) := by
        rw [isView, resolveEntries, resolve]
        exact outcome_bind_of_error (outcome_bind_of_error unfinished _) _
      rcases List.mem_cons.mp member with same | later
      · exact stopped (congrArg Prod.snd same).symm
      · rcases each.1 with ⟨plain, isPlain⟩ | isView
        · have resolved : outcome (resolve host renderView value) state = (.ok plain, state) := by
            rw [show value = ofValue plain from isPlain, resolve_ofValue, outcome_pure]
          rw [resolveEntries, outcome_bind_of_ok resolved]
          exact outcome_bind_of_error (ih each.2 later) _
        · exact stopped isView

theorem not_completes_of_shared (host : Host κ π ε) (around : Surroundings κ ε)
    (plain : ∀ entry ∈ view.data, ∃ value, entry.2 = ofValue value)
    (others : ∀ entry ∈ around.shared.find view.handle.shared,
      (∃ value, entry.2 = ofValue value) ∨ entry.2 = .view view)
    (shares : (key, .view view) ∈ around.shared.find view.handle.shared) (unbound : key ∉ Table.keys view.data) :
    ¬ Completes host view around := by
  have each : ∀ entry ∈ view.mergedData around.shared,
      (∃ value, entry.2 = ofValue value) ∨ entry.2 = .view view := by
    intro entry member
    rcases Table.mem_or_mem_of_mem_overlay member with below | above
    · exact others entry below
    · exact .inl (plain entry above)
  have unfinished (levels : Nat) :
      outcome (renderWithin host levels view) around = (.error .unfinished, around) := by
    induction levels with
    | zero => rfl
    | succ levels ih =>
        have stuck : outcome (view.resolvedData host (renderWithin host levels)) around =
            (.error .unfinished, around) :=
          outcome_resolveEntries_of_unfinished ih each (Table.mem_overlay_of_not_mem_keys shares unbound)
        exact outcome_bind_of_error stuck _
  rintro ⟨levels, ended⟩
  exact ended (congrArg Prod.fst (unfinished levels))

end Circles

/-- Renders all texts with the standard parser, and has nothing to render itself. -/
def plainHost : Host Unit Protection Unit where
  parser _ := .standard (pure fun _ => List.replicate 32 '0')
  messages _ _ := none
  rendition _ := .ofOutside (pure [])

theorem keepsShared_plainHost : plainHost.KeepsShared :=
  fun _ _ => rfl

def pageFiles : FileTree :=
  FileTree.empty.write ⟨"t/main/views/page.html"⟩ "page".toUTF8

def pageHandle : Handle Unit :=
  { config := Config.withLocation "t"
    location := ⟨"t"⟩
    content := 0
    shared := 0
    parser := ()
    errors := none }

def page : View Unit :=
  { name := "page"
    theme := "main"
    layout := "layout"
    path := ⟨"t/main/views/page.html"⟩
    data := [(errorsKey, ofValue MessageBag.empty.toValue)]
    handle := pageHandle
    partials := [] }

/-- A handle is opened, a view is made, and then it is shared. -/
def sharedPage : Workspace Unit Unit :=
  Workspace.run plainHost 1
    [.openHandle "main" () (Config.withLocation "t"), .makeView "main" "page" "page" [],
      .share "main" "self" (.view page)]
    (.start [] pageFiles ())

theorem not_completes_sharedPage :
    sharedPage.views.lookup "page" = some page ∧ ¬ Completes plainHost page sharedPage.toSurroundings := by
  have shared : sharedPage.shared.find pageHandle.shared = [("self", .view page)] := rfl
  have unbound : "self" ∉ Table.keys page.data := by decide
  refine ⟨rfl, not_completes_of_shared plainHost _ ?_ ?_ ?_ unbound⟩
  · exact List.forall_mem_singleton.mpr ⟨MessageBag.empty.toValue, rfl⟩
  · rw [show page.handle.shared = pageHandle.shared from rfl, shared]
    exact List.forall_mem_singleton.mpr (.inr rfl)
  · rw [show page.handle.shared = pageHandle.shared from rfl, shared]
    exact List.mem_cons_self

/-- A page that has something of its own under the key completes. -/
def boundPage : View Unit :=
  page.bind "self" (.scalar .null)

theorem completes_boundPage :
    plainHost.KeepsShared ∧ Completes plainHost boundPage sharedPage.toSurroundings := by
  have alone : boundPage.nestedViews sharedPage.shared = [] := rfl
  have accessible : Acc (NestedIn sharedPage.shared) boundPage := by
    refine ⟨_, fun inner nested => ?_⟩
    rw [NestedIn, alone] at nested
    cases nested
  refine ⟨keepsShared_plainHost, ?_⟩
  exact (completes_iff plainHost keepsShared_plainHost _ _).mpr (.inl (acc_iff_not_circular.mp accessible))

end View

end ThemedViews
