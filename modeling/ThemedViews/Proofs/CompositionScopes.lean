import ThemedViews.Proofs.CompletedRenderings

/-!
# What the parts of a view are rendered with

A view is put together from its partials, its own file, and its layout.  Each of
them has a scope that is made from the data of the view and from the outputs of
those rendered before; the data of a partial belongs to its own scope only.
-/

namespace ThemedViews

open Rendering DataValue

variable {κ π ε : Type}

theorem outcome_of_outcome_ofPass {σ α : Type} {pass : ExceptT ViewError (StateM σ) α}
    {state later : σ} {value : α} (done : outcome (ofPass pass) state = (.ok value, later)) :
    outcome pass state = (.ok value, later) := by
  rw [outcome_ofPass] at done
  cases ran : outcome pass state with
  | mk found after =>
      rw [ran] at done
      cases found with
      | error error => cases done
      | ok value => cases done; rfl

namespace View

/-- The object that is bound under `partials`, or an empty one. -/
def partialsIn (merged : Scope) : Scope :=
  match merged.lookup "partials" with
  | some (.object entries) => entries
  | _ => []

/-- The bound partials, with outputs under their keys. -/
def withOutputs (bound : Scope) (outputs : List (String × Text)) : Scope :=
  outputs.foldl (fun rendered (key, output) => Table.insert key (.text (String.ofList output)) rendered)
    bound

/-- The data of a view, where the outputs of partials are under `partials`. -/
def bodyScope (merged : Scope) (outputs : List (String × Text)) : Scope :=
  Table.insert "partials" (.object (withOutputs (partialsIn merged) outputs)) merged

/-- The scope of the body with the body in it. -/
def layoutScope (merged : Scope) (outputs : List (String × Text)) (body : Text) : Scope :=
  Table.insert "body" (.text (String.ofList body)) (bodyScope merged outputs)

theorem boundPartials_eq_partialsIn (merged : Scope) : boundPartials merged = partialsIn merged := by
  unfold boundPartials partialsIn partialsKey
  cases merged.lookup "partials" with
  | none => rfl
  | some value => cases value <;> rfl

/-- The data of a partial is resolved and put over a scope, and its file is
parsed with that. -/
def RendersPartial (host : Host κ π ε) (renderView : View κ → Rendering (Surroundings κ ε) Text)
    (kind : TagParser π ε) (content : Nat) (page : Page κ (DataValue κ)) (scope : Scope)
    (before : Renderer κ π ε) (output : Text) (after : Renderer κ π ε) : Prop :=
  ∃ own around,
    outcome (resolveEntries host renderView page.data) before.toSurroundings = (.ok own, around) ∧
    ParsesFile kind content page.path (Table.overlay scope own) { before with toSurroundings := around }
      output after

theorem exists_of_outcome_inSurroundings {α : Type} {inner : Rendering (Surroundings κ ε) α}
    {before after : Renderer κ π ε} {value : α}
    (done : outcome (inSurroundings inner) before = (.ok value, after)) :
    ∃ around, outcome inner before.toSurroundings = (.ok value, around) ∧
      after = { before with toSurroundings := around } := by
  rw [inSurroundings, outcome_focused] at done
  obtain ⟨result, state⟩ := Prod.mk.inj done
  exact ⟨_, Prod.ext result rfl, state.symm⟩

theorem outcome_createParser (kind : TagParser π ε) (around : Surroundings κ ε) :
    outcome (createParser kind) around =
      (.ok (kind.create.run around.outside).1, { around with outside := (kind.create.run around.outside).2 }) :=
  rfl

section Nesting

variable {host : Host κ π ε} {renderView : View κ → Rendering (Surroundings κ ε) Text} {view : View κ}

/-- When the data of a view is resolved and its parser is made, its parts are rendered. -/
theorem outcome_renderNesting_of_created {around between : Surroundings κ ε} {data : Scope} {parser : π}
    {later : ε} (resolved : outcome (view.resolvedData host renderView) around = (.ok data, between))
    (created : (host.parser view.handle.parser).create.run between.outside = (parser, later)) :
    outcome (renderNesting host renderView view) around =
      let run := outcome (renderParts host renderView view data) ⟨{ between with outside := later }, parser⟩
      (run.1, run.2.toSurroundings) := by
  have creates : outcome (createParser (host.parser view.handle.parser)) between =
      (.ok parser, { between with outside := later }) := by
    rw [outcome_createParser, created]
  rw [renderNesting, outcome_bind_of_ok resolved, outcome_bind_of_ok creates, withParser, outcome_focused]

section Partials

variable {kind : TagParser π ε} {content : Nat} {data rendered all : Scope}
  {partials : List (String × Page κ (DataValue κ))} {before after : Renderer κ π ε}

/-- Each partial is rendered with the outputs of those before it. -/
theorem exists_outputs_of_renderPartials
    (done : outcome (renderPartials host renderView kind content data partials rendered) before =
      (.ok all, after)) :
    ∃ (outputs : List (String × Text)) (states : Nat → Renderer κ π ε),
      outputs.map Prod.fst = partials.map Prod.fst ∧ all = withOutputs rendered outputs ∧
      states 0 = before ∧ states partials.length = after ∧
      ∀ (index : Nat) (key : String) (page : Page κ (DataValue κ)),
        partials[index]? = some (key, page) → ∃ output, outputs[index]? = some (key, output) ∧
          RendersPartial host renderView kind content page
            (Table.insert partialsKey (.object (withOutputs rendered (outputs.take index))) data)
            (states index) output (states (index + 1)) := by
  induction partials generalizing rendered before with
  | nil =>
      cases done
      exact ⟨[], fun _ => after, rfl, rfl, rfl, rfl, fun index key page found => by cases found⟩
  | cons entry rest ih =>
      obtain ⟨key, page⟩ := entry
      unfold renderPartials at done
      obtain ⟨own, resolvedIn, resolved, behind⟩ := exists_of_outcome_bind_eq_ok done
      obtain ⟨output, between, passed, others⟩ := exists_of_outcome_bind_eq_ok behind
      obtain ⟨around, ownResolved, rfl⟩ := exists_of_outcome_inSurroundings resolved
      have parses := parsesFile_of_renderFile (outcome_of_outcome_ofPass passed)
      obtain ⟨outputs, states, keysEq, allEq, first, last, each⟩ := ih others
      refine ⟨(key, output) :: outputs, fun index => index.casesOn before states,
        congrArg (key :: ·) keysEq, allEq, rfl, last, ?_⟩
      intro index otherKey other found
      cases index with
      | zero =>
          cases found
          refine ⟨output, rfl, own, around, ownResolved, ?_⟩
          rw [← first] at parses
          exact parses
      | succ index => exact each index otherKey other found

end Partials

end Nesting

/-- How a text came about that a view was rendered to: what the parts of the view
were rendered with, one after another, and what they gave. -/
structure Composition (host : Host κ π ε) (renderView : View κ → Rendering (Surroundings κ ε) Text)
    (view : View κ) (around : Surroundings κ ε) (result : Text) (later : Surroundings κ ε) where
  merged : Scope
  outputs : List (String × Text)
  body : Text
  layout : Path
  resolvedIn : Surroundings κ ε
  states : Nat → Renderer κ π ε
  behindBody : Renderer κ π ε
  behindLayout : Renderer κ π ε
  resolves : outcome (view.resolvedData host renderView) around = (.ok merged, resolvedIn)
  creates : (host.parser view.handle.parser).create.run resolvedIn.outside =
    ((states 0).parser, (states 0).outside)
  keepsRest : (states 0).toSurroundings = { resolvedIn with outside := (states 0).outside }
  keys_eq : outputs.map Prod.fst = view.partials.map Prod.fst
  rendersPartial : ∀ (index : Nat) (key : String) (page : Page κ (DataValue κ)),
    view.partials[index]? = some (key, page) → ∃ output, outputs[index]? = some (key, output) ∧
      RendersPartial host renderView (host.parser view.handle.parser) view.handle.content page
        (bodyScope merged (outputs.take index)) (states index) output (states (index + 1))
  parsesBody : ParsesFile (host.parser view.handle.parser) view.handle.content view.path
    (bodyScope merged outputs) (states view.partials.length) body behindBody
  findsLayout : (view.handle.resolverFor view.theme).path behindBody.files (layoutName view.layout) =
    .ok layout
  parsesLayout : ParsesFile (host.parser view.handle.parser) view.handle.content layout
    (layoutScope merged outputs body) behindBody result behindLayout
  ends : later = behindLayout.toSurroundings

/-- A text that a view is rendered to is put together from its parts, each with
its own scope. -/
theorem exists_composition_of_renderWithin {host : Host κ π ε} {levels : Nat} {view : View κ}
    {around later : Surroundings κ ε} {result : Text}
    (done : outcome (renderWithin host levels view) around = (.ok result, later)) :
    ∃ fewer, levels = fewer + 1 ∧
      Nonempty (Composition host (renderWithin host fewer) view around result later) := by
  cases levels with
  | zero => cases done
  | succ fewer =>
      rw [renderWithin, renderNesting] at done
      obtain ⟨merged, resolvedIn, resolves, behind⟩ := exists_of_outcome_bind_eq_ok done
      obtain ⟨parser, between, created, inParts⟩ := exists_of_outcome_bind_eq_ok behind
      rw [outcome_createParser] at created
      cases created
      rw [withParser, outcome_focused] at inParts
      cases ran : outcome (renderParts host (renderWithin host fewer) view merged) ⟨_, _⟩ with
      | mk found behindLayout =>
          rw [ran] at inParts
          cases inParts
          rw [renderParts, boundPartials_eq_partialsIn] at ran
          obtain ⟨all, behindPartials, partialsDone, rest⟩ := exists_of_outcome_bind_eq_ok ran
          obtain ⟨outputs, states, keys_eq, rfl, first, rfl, each⟩ :=
            exists_outputs_of_renderPartials partialsDone
          obtain ⟨text, loadedIn, loaded, rest⟩ := exists_of_outcome_bind_eq_ok rest
          obtain ⟨body, behindBody, bodyDone, rest⟩ := exists_of_outcome_bind_eq_ok rest
          rw [outcome_get_bind] at rest
          obtain ⟨layout, sameRenderer, found, layoutDone⟩ := exists_of_outcome_bind_eq_ok rest
          obtain ⟨findsLayout, rfl⟩ : (view.handle.resolverFor view.theme).path behindBody.files
              (layoutName view.layout) = .ok layout ∧ behindBody = sameRenderer :=
            Prod.mk.inj (outcome_of_outcome_ofPass found)
          exact ⟨fewer, rfl, ⟨{
            merged, outputs, body, layout, resolvedIn, states, behindBody, behindLayout
            resolves
            creates := by rw [first]; rfl
            keepsRest := by rw [first]
            keys_eq
            rendersPartial := each
            parsesBody := parsesFile_of_load_renderNamed (outcome_of_outcome_ofPass loaded)
              (outcome_of_outcome_ofPass bodyDone)
            findsLayout
            parsesLayout := parsesFile_of_renderFile (outcome_of_outcome_ofPass layoutDone)
            ends := rfl }⟩⟩

/-- Writes the names of a scope behind a text, and the texts under `partials`. -/
def listing (text : Text) (scope : Scope) : Text :=
  let names := (Table.keys scope).flatMap fun key => ' ' :: key.toList
  let parts := (partialsIn scope).flatMap fun
    | (key, .text part) => ' ' :: key.toList ++ '=' :: part.toList
    | _ => []
  text ++ '(' :: names ++ ';' :: parts ++ [')']

def listingHost : Host Unit Unit Unit where
  parser _ :=
    { create := pure ()
      setCumulative := fun _ => pure ()
      parse := fun text scope => pure (listing text scope)
      inject := pure }
  messages _ _ := none
  rendition _ := .ofOutside (pure [])

def postFiles : FileTree :=
  ((FileTree.empty.write ⟨"t/main/views/post.html"⟩ "post".toUTF8).write
    ⟨"t/main/views/note.html"⟩ "note".toUTF8).write ⟨"t/main/views/layouts/layout.html"⟩ "layout".toUTF8

def notePage : Page Unit (DataValue Unit) :=
  { name := "note"
    theme := "main"
    layout := "layout"
    path := ⟨"t/main/views/note.html"⟩
    data := [("color", .scalar (.text "red"))]
    handle := pageHandle }

/-- A view that binds texts under `partials`, one of them with the key of its partial. -/
def post : View Unit :=
  { name := "post"
    theme := "main"
    layout := "layout"
    path := ⟨"t/main/views/post.html"⟩
    data := [("partials", .nested [("aside", .scalar (.text "kept")), ("note", .scalar (.text "bound"))]),
      ("title", .scalar (.text "Title"))]
    handle := pageHandle
    partials := [("note", notePage)] }

def postText : Text :=
  "layout( body partials title; aside=kept note=note( color partials title; aside=kept note=bound))".toList

/-- What is bound under `partials` is there for all parts, until the output of the
partial takes its place; the color of the note is there for the note only. -/
theorem exists_composition_post :
    let run := outcome (renderWithin listingHost 1 post) (.start postFiles ())
    run.1 = .ok postText ∧
      ∃ fewer, 1 = fewer + 1 ∧
        Nonempty (Composition listingHost (renderWithin listingHost fewer) post (.start postFiles ()) postText
          run.2) := by
  intro run
  have rendered : run.1 = .ok postText := rfl
  exact ⟨rendered, exists_composition_of_renderWithin (Prod.ext rendered rfl)⟩

end View

end ThemedViews
