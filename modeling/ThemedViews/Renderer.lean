import ThemedViews.Halt
import ThemedViews.Surroundings
import ThemedViews.TagParser

/-!
# Renderers

A renderer has one parser for all its passes and takes the texts of files from a cache. A template that fails is
reported under a label: the name of a view, the path of a file, or a word for a text that has neither.
-/

namespace ThemedViews

/-- A parser at work in its surroundings. -/
structure Renderer (κ π ε : Type) extends Surroundings κ ε where
  parser : π

namespace Renderer

variable {κ π ε : Type}

/-- A computation with a renderer. -/
abbrev Pass (κ π ε : Type) := ExceptT ViewError (StateM (Renderer κ π ε))

/-- The label of a text that is neither a view nor a file. -/
def inlineLabel : String :=
  "inline"

def withParser {α : Type} (action : StateM (π × ε) α) : StateM (Renderer κ π ε) α :=
  modifyGet fun renderer =>
    let (result, (parser, outside)) := action.run (renderer.parser, renderer.outside)
    (result, { renderer with parser, outside })

/-- The text of a file. -/
def load (content : Nat) (path : Path) : Pass κ π ε Text :=
  ExceptT.mk <| modifyGet fun renderer =>
    let (result, around) := renderer.toSurroundings.load content path
    (result.map String.toList, { renderer with toSurroundings := around })

/-- Renders a text that is reported under a label. -/
def renderNamed (kind : TagParser π ε) (label : String) (text : Text) (data : Scope) : Pass κ π ε Text :=
  ExceptT.mk do
    let result ← withParser (kind.renderText text data).run
    return result.mapError (.parseFailure label)

/-- Renders a text. -/
def renderString (kind : TagParser π ε) (text : Text) (data : Scope) : Pass κ π ε Text :=
  renderNamed kind inlineLabel text data

def renderFile (kind : TagParser π ε) (content : Nat) (path : Path) (data : Scope) : Pass κ π ε Text := do
  let text ← load content path
  renderNamed kind path.text text data

end Renderer

end ThemedViews
