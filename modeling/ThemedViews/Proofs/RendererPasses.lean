import ThemedViews.Proofs.Outcomes
import ThemedViews.Renderer

/-!
# Passes of a renderer

A pass over a file loads the text of the file and parses it: the parser is told to
collect what it protects, it reads the text with a scope, and it puts back what it
has protected.  Besides the parser and the outside nothing but the cache changes.
-/

namespace ThemedViews

variable {κ π ε : Type}

/-- A parser reads a text with a scope, in cumulative mode, and puts back what it
has protected.  The states are those of the parser and of the outside. -/
def Parses (kind : TagParser π ε) (text : Text) (scope : Scope) (before : π × ε) (output : Text)
    (after : π × ε) : Prop :=
  ∃ ready parsed between, (kind.setCumulative true).run before = ((), ready) ∧
    outcome (kind.parse text scope) ready = (.ok parsed, between) ∧
    (kind.inject parsed).run between = (output, after)

/-- A file is loaded, and its text is parsed with a scope. -/
def ParsesFile (kind : TagParser π ε) (content : Nat) (path : Path) (scope : Scope)
    (before : Renderer κ π ε) (output : Text) (after : Renderer κ π ε) : Prop :=
  ∃ text around, before.toSurroundings.load content path = (.ok text, around) ∧
    Parses kind text.toList scope (before.parser, before.outside) output (after.parser, after.outside) ∧
    after.toSurroundings = { around with outside := after.outside }

variable {kind : TagParser π ε} {content : Nat} {path : Path} {label : String} {text output : Text}
  {scope : Scope} {before after : Renderer κ π ε}

theorem outcome_renderText (kind : TagParser π ε) (text : Text) (scope : Scope) (state : π × ε) :
    outcome (kind.renderText text scope) state =
      match outcome (kind.parse text scope) ((kind.setCumulative true).run state).2 with
      | (.ok parsed, between) =>
          (.ok ((kind.inject parsed).run between).1, ((kind.inject parsed).run between).2)
      | (.error error, between) => (.error error, ((kind.inject []).run between).2) := by
  rw [outcome, TagParser.renderText, ExceptT.run_mk, run_bind, run_bind, ← outcome]
  obtain ⟨_ | parsed, between⟩ :=
    outcome (kind.parse text scope) ((kind.setCumulative true).run state).2
  · rfl
  · rfl

theorem outcome_renderNamed (kind : TagParser π ε) (label : String) (text : Text) (scope : Scope)
    (renderer : Renderer κ π ε) :
    outcome (Renderer.renderNamed kind label text scope) renderer =
      let pass := outcome (kind.renderText text scope) (renderer.parser, renderer.outside)
      (pass.1.mapError (.parseFailure label), { renderer with parser := pass.2.1, outside := pass.2.2 }) :=
  rfl

theorem outcome_load (content : Nat) (path : Path) (renderer : Renderer κ π ε) :
    outcome (Renderer.load content path) renderer =
      ((renderer.toSurroundings.load content path).1.map String.toList,
        { renderer with toSurroundings := (renderer.toSurroundings.load content path).2 }) :=
  rfl

/-- To render a file fails without a pass, or is a pass over the text that the cache
gives. -/
theorem outcome_renderFile (kind : TagParser π ε) (scope : Scope) {result : Except ViewError String}
    {later : Surroundings κ ε} (loaded : before.toSurroundings.load content path = (result, later)) :
    outcome (Renderer.renderFile kind content path scope) before =
      match result with
      | .ok text =>
          outcome (Renderer.renderNamed kind path.text text.toList scope) { before with toSurroundings := later }
      | .error error => (.error error, { before with toSurroundings := later }) := by
  have load := outcome_load content path before
  rw [loaded] at load
  rw [Renderer.renderFile]
  cases result with
  | ok text => exact outcome_bind_of_ok load fun text => Renderer.renderNamed kind path.text text scope
  | error error => exact outcome_bind_of_error load _

/-- A pass over a file shares nothing. -/
theorem shared_renderFile (kind : TagParser π ε) (content : Nat) (path : Path) (scope : Scope)
    (renderer : Renderer κ π ε) :
    (outcome (Renderer.renderFile kind content path scope) renderer).2.shared = renderer.shared := by
  have kept : (renderer.toSurroundings.load content path).2.shared = renderer.shared := rfl
  cases loaded : renderer.toSurroundings.load content path with
  | mk result later =>
      rw [loaded] at kept
      rw [outcome_renderFile kind scope loaded, ← kept]
      cases result <;> rfl

theorem parses_of_renderNamed
    (done : outcome (Renderer.renderNamed kind label text scope) before = (.ok output, after)) :
    Parses kind text scope (before.parser, before.outside) output (after.parser, after.outside) ∧
      after.toSurroundings = { before.toSurroundings with outside := after.outside } := by
  rw [outcome_renderNamed, outcome_renderText] at done
  cases ran : outcome (kind.parse text scope)
      ((kind.setCumulative true).run (before.parser, before.outside)).2 with
  | mk found between =>
      rw [ran] at done
      cases found with
      | error error => cases done
      | ok parsed =>
          cases done
          exact ⟨⟨_, parsed, between, rfl, ran, rfl⟩, rfl⟩

theorem load_of_outcome_load {loaded : Text}
    (done : outcome (Renderer.load content path) before = (.ok loaded, after)) :
    ∃ text : String, before.toSurroundings.load content path = (.ok text, after.toSurroundings) ∧
      loaded = text.toList ∧ after.parser = before.parser ∧ after.outside = before.outside := by
  have kept : (before.toSurroundings.load content path).2.outside = before.outside := rfl
  rw [outcome_load] at done
  cases result : before.toSurroundings.load content path with
  | mk found around =>
      rw [result] at done kept
      cases found with
      | error error => cases done
      | ok text =>
          cases done
          exact ⟨text, rfl, rfl, rfl, kept⟩

/-- A file that is rendered successfully has been loaded and parsed. -/
theorem parsesFile_of_load_renderNamed {loaded : Text} {between : Renderer κ π ε}
    (load : outcome (Renderer.load content path) before = (.ok loaded, between))
    (named : outcome (Renderer.renderNamed kind label loaded scope) between = (.ok output, after)) :
    ParsesFile kind content path scope before output after := by
  obtain ⟨text, found, rfl, parserEq, outsideEq⟩ := load_of_outcome_load load
  obtain ⟨parses, aroundEq⟩ := parses_of_renderNamed named
  rw [parserEq, outsideEq] at parses
  exact ⟨text, between.toSurroundings, found, parses, aroundEq⟩

theorem parsesFile_of_renderFile
    (done : outcome (Renderer.renderFile kind content path scope) before = (.ok output, after)) :
    ParsesFile kind content path scope before output after := by
  obtain ⟨loaded, between, load, named⟩ := exists_of_outcome_bind_eq_ok done
  exact parsesFile_of_load_renderNamed load named

end ThemedViews
