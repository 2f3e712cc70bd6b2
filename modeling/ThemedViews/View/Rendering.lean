import ThemedViews.Renderer
import ThemedViews.View.Basic

/-!
# Rendering of views

The data of a view is put over the shared data and resolved: in the order of the names and depth first, what can be
rendered is rendered, so that a template sees plain values only. A parser is made; the partials are rendered one after
another, each with its own data over that of the view, then the file of the view itself, and at last the layout, which
finds the partials and the rendered view in its data. Any failure ends the rendering.

Views in data are rendered on the way, and they see the shared data again. So a view in the shared data may be
rendered inside of itself without end: the number of views that are rendered inside each other is limited, and a
rendering that reaches the limit is left unfinished.
-/

namespace ThemedViews

/-- A computation that may be left unfinished. -/
abbrev Rendering (σ : Type) := ExceptT (Halt ViewError) (StateM σ)

namespace Rendering

variable {σ τ α : Type}

/-- A computation that always ends. -/
def ofPass (pass : ExceptT ViewError (StateM σ) α) : Rendering σ α :=
  ExceptT.mk do return (← pass.run).mapError .failed

/-- A result, or an error. -/
def ofResult (result : Except ViewError α) : Rendering σ α :=
  ofPass (ExceptT.mk (pure result))

/-- A computation with a part of the state. -/
def focused (get : τ → σ) (set : τ → σ → τ) (inner : Rendering σ α) : Rendering τ α :=
  ExceptT.mk <| modifyGet fun whole =>
    let (result, part) := inner.run.run (get whole)
    (result, set whole part)

end Rendering

/-- The name of the rendered partials in data. -/
def partialsKey : String :=
  "partials"

/-- The name of the rendered view in the data of a layout. -/
def bodyKey : String :=
  "body"

variable {κ π ε : Type}

namespace DataValue

mutual

/-- The plain value that stands for data, where views are rendered by `renderView`. -/
def resolve (host : Host κ π ε) (renderView : View κ → Rendering (Surroundings κ ε) Text) :
    DataValue κ → Rendering (Surroundings κ ε) Value
  | .scalar value => pure value
  | .nested entries => do return .object (← resolveEntries host renderView entries)
  | .renderable name => do return .text (String.ofList (← Rendering.ofPass (host.rendition name).render))
  | .view inner => do return .text (String.ofList (← renderView inner))

/-- The plain values that stand for data, in order. -/
def resolveEntries (host : Host κ π ε) (renderView : View κ → Rendering (Surroundings κ ε) Text) :
    List (String × DataValue κ) → Rendering (Surroundings κ ε) Scope
  | [] => pure []
  | (key, value) :: rest => do
      let resolved ← resolve host renderView value
      return (key, resolved) :: (← resolveEntries host renderView rest)

end

end DataValue

namespace View

/-- The shared data, and over it that of the view. -/
def mergedData (shared : Heap (Data κ)) (view : View κ) : Data κ :=
  Table.overlay (shared.find view.handle.shared) view.data

/-- The data that a view sees, as plain values. -/
def resolvedData (host : Host κ π ε) (renderView : View κ → Rendering (Surroundings κ ε) Text) (view : View κ) :
    Rendering (Surroundings κ ε) Scope := do
  let around ← get
  DataValue.resolveEntries host renderView (view.mergedData around.shared)

def withParser {α : Type} (parser : π) (inner : Rendering (Renderer κ π ε) α) : Rendering (Surroundings κ ε) α :=
  Rendering.focused (fun around => { around with parser }) (fun _ renderer => renderer.toSurroundings) inner

def inSurroundings {α : Type} (inner : Rendering (Surroundings κ ε) α) : Rendering (Renderer κ π ε) α :=
  Rendering.focused Renderer.toSurroundings (fun renderer around => { renderer with toSurroundings := around }) inner

/-- A new parser. -/
def createParser (kind : TagParser π ε) : Rendering (Surroundings κ ε) π :=
  Rendering.focused Surroundings.outside (fun around outside => { around with outside }) (ExceptT.lift kind.create)

/-- The data that a partial is rendered with: that of the view with the partials so far, and over it its own. -/
def partialScope (data rendered own : Scope) : Scope :=
  Table.overlay (Table.insert partialsKey (.object rendered) data) own

/-- Renders partials one after another with a parser and a cache, and adds each of them to those rendered before. -/
def renderPartials (host : Host κ π ε) (renderView : View κ → Rendering (Surroundings κ ε) Text)
    (kind : TagParser π ε) (content : Nat) (data : Scope) :
    List (String × Page κ (DataValue κ)) → (rendered : Scope) → Rendering (Renderer κ π ε) Scope
  | [], rendered => pure rendered
  | (key, page) :: rest, rendered => do
      let own ← inSurroundings (DataValue.resolveEntries host renderView page.data)
      let output ← Rendering.ofPass (Renderer.renderFile kind content page.path (partialScope data rendered own))
      renderPartials host renderView kind content data rest (Table.insert key (.text (String.ofList output)) rendered)

/-- What is bound under the name of the rendered partials; only objects count. -/
def boundPartials (data : Scope) : Scope :=
  ((data.lookup partialsKey).map Value.entries).getD []

def layoutName (layout : String) : String :=
  s!"layouts.{layout}"

/-- Renders the partials, the view and its layout, one after another. -/
def renderParts (host : Host κ π ε) (renderView : View κ → Rendering (Surroundings κ ε) Text) (view : View κ)
    (data : Scope) : Rendering (Renderer κ π ε) Text := do
  let kind := host.parser view.handle.parser
  let content := view.handle.content
  let rendered ← renderPartials host renderView kind content data view.partials (boundPartials data)
  let data := Table.insert partialsKey (.object rendered) data
  let text ← Rendering.ofPass (Renderer.load content view.path)
  let body ← Rendering.ofPass (Renderer.renderNamed kind view.name text data)
  let data := Table.insert bodyKey (.text (String.ofList body)) data
  let renderer ← get
  let layout ← Rendering.ofResult ((view.handle.resolverFor view.theme).path renderer.files (layoutName view.layout))
  Rendering.ofPass (Renderer.renderFile kind content layout data)

/-- Renders a view, and the views nested in it by `renderView`. -/
def renderNesting (host : Host κ π ε) (renderView : View κ → Rendering (Surroundings κ ε) Text) (view : View κ) :
    Rendering (Surroundings κ ε) Text := do
  let data ← view.resolvedData host renderView
  let parser ← createParser (host.parser view.handle.parser)
  withParser parser (renderParts host renderView view data)

/-- Renders a view in which at most `levels` views are rendered inside each other. -/
def renderWithin (host : Host κ π ε) : (levels : Nat) → View κ → Rendering (Surroundings κ ε) Text
  | 0, _ => throw .unfinished
  | levels + 1, view => renderNesting host (renderWithin host levels) view

end View

end ThemedViews
