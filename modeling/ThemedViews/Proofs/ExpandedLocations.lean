import ThemedViews.Proofs.HandleOrigins

/-!
# Locations of handles

A handle has its location twice: as it is written in its configuration, and as the
path that this stands for.  Only one action writes either of them, the path before the
configuration, and it writes both or neither.  Since every handle is opened or comes from
one that was there before, the two say the same about all handles of a history.
-/

namespace ThemedViews

variable {κ π ε : Type}

namespace Handle

/-- The location is what the configuration says. -/
def InStep (environment : Environment) (handle : Handle κ) : Prop :=
  handle.config.expandedLocation environment = .ok handle.location

variable {environment : Environment} {handle : Handle κ} {location : String}

theorem inStep_of_ofConfig {parser : κ} {stores : Nat} {config : Config}
    (made : ofConfig environment parser stores config = .ok handle) : handle.InStep environment := by
  obtain ⟨path, located, made⟩ := exists_of_bind_eq_ok made
  cases made
  exact mapError_eq_ok_iff.mp located

theorem Made.inStep {stores : Nat} (made : handle.Made environment stores) : handle.InStep environment := by
  cases made with
  | configured parser config made => exact inStep_of_ofConfig made
  | loaded files parser path made =>
      obtain ⟨config, -, made⟩ := exists_of_bind_eq_ok made
      exact inStep_of_ofConfig (mapError_eq_ok_iff.mp made)

section SetLocation

variable (handle)

theorem outcome_setLocation_of_ok {path : Path} (expands : expandPath environment location = .ok path) :
    outcome (setLocation environment location) handle =
      (.ok (), { handle with config := { handle.config with location }, location := path }) := by
  have located : locate environment { handle.config with location } = .ok path :=
    mapError_eq_ok_iff.mpr expands
  rw [outcome_setLocation, located]

theorem outcome_setLocation_of_error {cause : ContextError}
    (fails : expandPath environment location = .error cause) :
    outcome (setLocation environment location) handle = (.error (.invalidConfig (joined cause)), handle) := by
  have unlocated : locate environment { handle.config with location } =
      .error (.invalidConfig (joined cause)) := by
    rw [locate, Config.expandedLocation, fails]
    rfl
  rw [outcome_setLocation, unlocated]

end SetLocation

/-- Whatever is set of a handle, and be it that setting fails, its location stays in step with its
configuration. -/
theorem InStep.setting {action : Action κ} {target : String}
    {change : Environment → ExceptT ViewError (StateM (Handle κ)) Unit}
    (inStep : handle.InStep environment) (sets : action.setting? = some (target, change)) :
    (outcome (change environment) handle).2.InStep environment := by
  cases action with
  | setParser | setErrors | setTheme | setLayout | registerAlias =>
      cases sets
      exact inStep
  | setLocation name location =>
      cases sets
      cases expands : expandPath environment location with
      | ok path =>
          rw [outcome_setLocation_of_ok handle expands]
          exact expands
      | error cause =>
          rw [outcome_setLocation_of_error handle expands]
          exact inStep
  | _ => cases sets

end Handle

namespace Workspace

variable {host : Host κ π ε} {levels : Nat}

/-- Handles are kept in the order of their names. -/
theorem sorted_handles_run (actions : List (Action κ)) {here : Workspace κ ε} (sorted : Table.Sorted here.handles) :
    Table.Sorted (run host levels actions here).handles := by
  induction actions generalizing here with
  | nil => exact sorted
  | cons action rest ih =>
      rw [run_cons]
      refine ih ?_
      have change := change_perform host levels here action
      generalize (outcome (perform host levels action) here).2 = after at change ⊢
      cases change with
      | opens | copies | sets => exact sorted.insert _ _
      | _ => exact sorted

/-- To put a handle where it is changes nothing. -/
theorem putHandle_eq_self {here : Workspace κ ε} {name : String} {handle : Handle κ}
    (sorted : Table.Sorted here.handles) (found : here.handles.lookup name = some handle) :
    here.putHandle name handle = here := by
  rw [putHandle, sorted.insert_eq_self found]

/-- All handles of a history are in step with their configurations, and the next location is taken as a
whole or not at all: then nothing changes, neither the handle nor any store. -/
theorem inStep_along_run (host : Host κ π ε) (levels : Nat) (environment : Environment) (files : FileTree)
    (outside : ε) (actions : List (Action κ)) :
    let here := run host levels actions (start environment files outside)
    (∀ held, here.Holds held → held.InStep environment) ∧
    ∀ target held location, here.handles.lookup target = some held →
      (∀ path, expandPath environment location = .ok path →
        outcome (perform host levels (.setLocation target location)) here =
          (.ok .nothing, here.putHandle target
            { held with config := { held.config with location }, location := path })) ∧
      ∀ cause, expandPath environment location = .error cause →
        outcome (perform host levels (.setLocation target location)) here =
          (.error (.failed (.invalidConfig (Handle.joined cause))), here) := by
  intro here
  have environmentEq : here.environment = environment := environment_run actions _
  have sorted : Table.Sorted here.handles := sorted_handles_run actions Table.sorted_nil
  refine ⟨?_, ?_⟩
  · refine forall_holds_run (fun _ _ made => made.inStep) (fun _ _ _ _ sets inStep => inStep.setting sets)
      actions rfl fun held holds => ?_
    cases holds with
    | named found | inView found | inPartial found => cases found
  · intro target held location isHeld
    have sets : (Action.setLocation target location : Action κ).setting? = some (target, _) := rfl
    have performed := outcome_perform_of_setting? host levels sets isHeld
    rw [environmentEq] at performed
    refine ⟨fun path expands => ?_, fun cause fails => ?_⟩
    · rw [performed, held.outcome_setLocation_of_ok expands]
      rfl
    · rw [performed, held.outcome_setLocation_of_error fails]
      exact Prod.ext rfl (putHandle_eq_self sorted isHeld)

/-- A copy goes to another location, and the handle itself stays because the variable is not set. -/
def nightHistory : List (Action Unit) :=
  [.openHandle "main" () (Config.withLocation "$ROOT/themes"), .copyHandle "main" "night",
    .setTheme "night" "dark", .setLocation "night" "$ROOT/night", .setLocation "main" "$NOWHERE"]

theorem inStep_along_run_night :
    let here := run View.listingHost 1 nightHistory (start [("ROOT", "srv")] View.postFiles ())
    here.handles.map (fun entry => (entry.1, entry.2.config.location, entry.2.location)) =
        [("main", "$ROOT/themes", ⟨"srv/themes"⟩), ("night", "$ROOT/night", ⟨"srv/night"⟩)] ∧
      (∀ held, here.Holds held → held.InStep [("ROOT", "srv")]) ∧
      outcome (perform View.listingHost 1 (.setLocation "night" "$NOWHERE")) here =
        (.error (.failed (.invalidConfig (Handle.joined (Expansion.unset "$NOWHERE" "NOWHERE")))), here) := by
  intro here
  obtain ⟨inStep, moves⟩ := inStep_along_run View.listingHost 1 [("ROOT", "srv")] View.postFiles () nightHistory
  have isHeld : here.handles.lookup "night" = some _ := rfl
  exact ⟨rfl, inStep, (moves "night" _ "$NOWHERE" isHeld).2 _ rfl⟩

end Workspace

end ThemedViews
