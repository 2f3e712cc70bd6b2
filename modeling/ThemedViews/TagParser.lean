import ThemedViews.Tags.Parser

/-!
# Tag parsers

How texts with tags are rendered can be chosen. A tag parser is made anew for each rendering of a view, keeps what it
has to remember, and protects texts until they are put back. The standard one reads plugin tags, protects noparse
blocks and renders the rest as a template.
-/

namespace ThemedViews

/-- A way to render texts with tags. `π` is what a parser remembers, `ε` is the outside. -/
structure TagParser (π ε : Type) where
  create : StateM ε π
  setCumulative : Bool → StateM (π × ε) Unit
  parse : Text → Scope → ExceptT TemplateError (StateM (π × ε)) Text
  inject : Text → StateM (π × ε) Text

namespace TagParser

variable {π ε : Type}

/-- The standard parser, which draws the nonces of its passes from the outside. -/
def standard (draw : StateM ε (Nat → Text)) : TagParser Protection ε where
  create := do return .fresh (← draw)
  setCumulative enabled := modify fun (protection, outside) => ({ protection with cumulative := enabled }, outside)
  parse content data := Parsing.parse (some Parsing.outermostBridge) content data
  inject content := modifyGet fun (protection, outside) =>
    let (text, protection) := protection.inject content
    (text, (protection, outside))

/-- One pass over a text: everything that is protected while it is parsed is put back at its end, and dropped if it
fails. -/
def renderText (parser : TagParser π ε) (text : Text) (data : Scope) :
    ExceptT TemplateError (StateM (π × ε)) Text :=
  ExceptT.mk do
    parser.setCumulative true
    match ← (parser.parse text data).run with
    | .ok parsed => return .ok (← parser.inject parsed)
    | .error error => do
        let _ ← parser.inject []
        return .error error

end TagParser

end ThemedViews
