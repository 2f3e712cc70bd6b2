import ThemedViews.Proofs.ViewPaths

/-!
# Looking views up

There are several ways to ask for the view of a name: to look for its file, to ask
whether there is one, to demand the file, and to make the view.  They all lead to one path and
one look at the files, and say the same about the name.  Either the file is there, or it is
missing, or the name is an alias that is not registered, in which case there is no path.
-/

namespace ThemedViews

variable {κ π ε : Type}

namespace Resolver

variable (resolver : Resolver) (files : FileTree) (reference : String)

/-- What is found out about a name, in one of three cases. -/
inductive Lookup : Prop where
  | found (path : Path)
      (leads : resolver.candidate reference = .ok path)
      (isFile : files.isFile path = true)
      (resolved : resolver.resolve files reference = .ok (some path))
      (isThere : resolver.exists? files reference = .ok true)
      (demanded : resolver.path files reference = .ok path)
  | missing (path : Path)
      (leads : resolver.candidate reference = .ok path)
      (isNoFile : files.isFile path = false)
      (resolved : resolver.resolve files reference = .ok none)
      (isThere : resolver.exists? files reference = .ok false)
      (demanded : resolver.path files reference = .error (.viewNotFound reference path))
  | unknown (key : String)
      (refers : reference = "name: " ++ key)
      (unregistered : resolver.aliases.lookup key = none)
      (leads : resolver.candidate reference = .error (.unknownAlias key))
      (resolved : resolver.resolve files reference = .error (.unknownAlias key))
      (isThere : resolver.exists? files reference = .error (.unknownAlias key))
      (demanded : resolver.path files reference = .error (.unknownAlias key))

/-- A name that leads to a path is never refused for the path, so that there is no fourth case. -/
theorem lookup : resolver.Lookup files reference := by
  have candidateEq := resolver.candidate_eq reference
  cases named : resolver.viewName reference with
  | error error =>
      obtain ⟨key, refers, unregistered, rfl⟩ := resolver.viewName_eq_error_iff.mp named
      rw [named, Except.map] at candidateEq
      refine .unknown key refers unregistered candidateEq ?_ ?_ ?_
      · simp only [resolve, candidateEq, bind, Except.bind]
      · simp only [exists?, resolve, candidateEq, bind, Except.bind]
      · simp only [path, candidateEq, bind, Except.bind]
  | ok name =>
      rw [named, Except.map] at candidateEq
      generalize resolver.fileOf name = place at candidateEq
      cases looked : files.isFile place with
      | true =>
          refine .found place candidateEq looked ?_ ?_ ?_
          · simp [resolve, candidateEq, bind, Except.bind, pure, Except.pure, looked]
          · simp [exists?, resolve, candidateEq, bind, Except.bind, pure, Except.pure, looked]
          · simp [path, candidateEq, bind, Except.bind, pure, Except.pure, looked]
      | false =>
          refine .missing place candidateEq looked ?_ ?_ ?_
          · simp [resolve, candidateEq, bind, Except.bind, pure, Except.pure, looked]
          · simp [exists?, resolve, candidateEq, bind, Except.bind, pure, Except.pure, looked]
          · simp [path, candidateEq, bind, Except.bind, looked, throw, throwThe, MonadExceptOf.throw]

/-- Only an alias is refused before the files are looked at. -/
theorem resolve_eq_error_iff (error : ViewError) :
    resolver.resolve files reference = .error error ↔
      ∃ key, reference = "name: " ++ key ∧ resolver.aliases.lookup key = none ∧
        error = .unknownAlias key := by
  rw [← viewName_eq_error_iff, resolve, candidate_eq]
  cases resolver.viewName reference with
  | error other => simp [Except.map, bind, Except.bind]
  | ok name => simp [Except.map, bind, Except.bind, pure, Except.pure]

end Resolver

/-- Making a view comes to what demanding its file comes to. -/
theorem View.exists_make_eq (host : Host κ π ε) (around : Surroundings κ ε) (handle : Handle κ)
    (reference : String) (data : Data κ) :
    ∃ view : Path → View κ, (∀ path, (view path).path = path) ∧
      View.make host around handle reference data = (handle.resolver.path around.files reference).map view := by
  let bound := if Table.contains errorsKey data then data
    else Table.insert errorsKey (DataValue.ofValue (handle.errorBag host around).toValue) data
  refine ⟨fun path => .ofPage ⟨reference, handle.config.theme, handle.config.layout, path, bound, handle⟩,
    fun _ => rfl, ?_⟩
  have sameResolver : handle.resolverFor handle.config.theme = handle.resolver := rfl
  rw [View.make, Page.make, sameResolver]
  cases handle.resolver.path around.files reference <;> rfl

/-- All ways to ask a handle for a view say the same about a name. -/
structure Handle.Agrees (host : Host κ π ε) (around : Surroundings κ ε) (handle : Handle κ)
    (reference : String) : Prop where
  isThere_iff : handle.resolver.exists? around.files reference = .ok true ↔
    ∃ path, handle.resolver.resolve around.files reference = .ok (some path)
  resolved_iff : ∀ path, handle.resolver.resolve around.files reference = .ok (some path) ↔
    handle.resolver.path around.files reference = .ok path
  demanded_iff : ∀ path, handle.resolver.path around.files reference = .ok path ↔
    handle.resolver.candidate reference = .ok path ∧ around.files.isFile path = true
  made_iff : ∀ path data,
    (∃ view, View.make host around handle reference data = .ok view ∧ view.path = path) ↔
      handle.resolver.path around.files reference = .ok path
  isNotThere_iff : handle.resolver.exists? around.files reference = .ok false ↔
    handle.resolver.resolve around.files reference = .ok none
  missing_iff : handle.resolver.resolve around.files reference = .ok none ↔
    ∃ path, handle.resolver.candidate reference = .ok path ∧
      handle.resolver.path around.files reference = .error (.viewNotFound reference path)
  missing_make_iff : ∀ data, handle.resolver.resolve around.files reference = .ok none ↔
    ∃ path, handle.resolver.candidate reference = .ok path ∧
      View.make host around handle reference data = .error (.viewNotFound reference path)
  /-- A file that is missing is no error here, so that only an alias can be refused. -/
  refused_iff : ∀ error, handle.resolver.resolve around.files reference = .error error ↔
    ∃ key, reference = "name: " ++ key ∧ handle.config.names.lookup key = none ∧ error = .unknownAlias key
  refused_exists_iff : ∀ error, handle.resolver.exists? around.files reference = .error error ↔
    handle.resolver.resolve around.files reference = .error error
  refused_path_iff : ∀ error, handle.resolver.path around.files reference = .error error ↔
    handle.resolver.resolve around.files reference = .error error ∨
      ∃ path, handle.resolver.candidate reference = .ok path ∧ around.files.isFile path = false ∧
        error = .viewNotFound reference path
  refused_make_iff : ∀ error data, View.make host around handle reference data = .error error ↔
    handle.resolver.path around.files reference = .error error

/-- A handle agrees about every name, whichever files there are. -/
theorem Handle.agrees (host : Host κ π ε) (around : Surroundings κ ε) (handle : Handle κ) (reference : String) :
    handle.Agrees host around reference := by
  have refusedIff (error : ViewError) := handle.resolver.resolve_eq_error_iff around.files reference error
  choose viewOf pathOf madeEq using View.exists_make_eq host around handle reference
  cases handle.resolver.lookup around.files reference with
  | found place leads isFile resolved isThere demanded =>
      have made (data : Data κ) : View.make host around handle reference data = .ok (viewOf data place) := by
        rw [madeEq, demanded, Except.map]
      constructor
      case refused_iff => exact refusedIff
      all_goals simp [leads, resolved, isThere, demanded, made, pathOf, isFile]
  | missing place leads isNoFile resolved isThere demanded =>
      have made (data : Data κ) :
          View.make host around handle reference data = .error (.viewNotFound reference place) := by
        rw [madeEq, demanded, Except.map]
      constructor
      case refused_iff => exact refusedIff
      case refused_path_iff => simpa [leads, resolved, demanded, isNoFile] using fun error => eq_comm
      all_goals simp [leads, resolved, isThere, demanded, made, isNoFile]
  | unknown key refers unregistered leads resolved isThere demanded =>
      have made (data : Data κ) : View.make host around handle reference data = .error (.unknownAlias key) := by
        rw [madeEq, demanded, Except.map]
      constructor
      case refused_iff => exact refusedIff
      all_goals simp [leads, resolved, isThere, demanded, made]

end ThemedViews
