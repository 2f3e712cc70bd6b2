import ThemedViews.Tags.Protection
import ThemedViews.Template.Diagnosis

/-!
# Parsing with plugin tags

Parsing protects noparse blocks, replaces plugin tags by what a handler gives for them, and renders what is left as a
template. In cumulative mode the outputs of plugins are protected too and nothing is put back; otherwise all
protected texts are put back at the end. A handler may use the parser again: it changes the same protected texts, and
whatever else it keeps account of.
-/

namespace ThemedViews

/-- A computation with the protected texts and an account `ε` of the outside. -/
abbrev Parsing (ε : Type) := ExceptT TemplateError (StateM (Protection × ε))

/-- Gives the text that stands for a plugin tag. -/
abbrev Handler (ε : Type) := PluginCall → Parsing ε Text

namespace Parsing

variable {ε : Type}

/-- Does something to the protected texts. -/
def withProtection {α : Type} (change : Protection → α × Protection) : Parsing ε α :=
  modifyGet fun (protection, account) =>
    let (result, changed) := change protection
    (result, (changed, account))

/-- Whether protected texts stay aside. -/
def isCumulative : Parsing ε Bool := do
  return (← get).1.cumulative

/-- Turns cumulative mode on or off. -/
def setCumulative (enabled : Bool) : Parsing ε Unit :=
  withProtection fun protection => ((), { protection with cumulative := enabled })

/-- Puts all protected texts back. -/
def inject (content : Text) : Parsing ε Text :=
  withProtection (Protection.inject content)

/-- What a handler gives for a tag; without a handler tags give nothing. -/
def call (handler : Option (Handler ε)) (tag : PluginCall) : Parsing ε Text :=
  match handler with
  | some handler => handler tag
  | none => pure []

/-- Replaces plugin tags by what the handler gives, from left to right. -/
def expandPieces (handler : Option (Handler ε)) : List (Text × PluginCall) → Parsing ε Text
  | [] => pure []
  | (before, tag) :: rest => do
      let output ← call handler tag
      let shown ← if ← isCumulative then withProtection (Protection.protect output) else pure output
      return before ++ shown ++ (← expandPieces handler rest)

/-- Replaces all plugin tags of a text. -/
def expand (handler : Option (Handler ε)) (content : Text) : Parsing ε Text := do
  let pieces := Text.cut Tags.plugin content
  return (← expandPieces handler pieces.pieces) ++ pieces.rest

def parse (handler : Option (Handler ε)) (content : Text) (data : Scope) : Parsing ε Text := do
  let marked ← withProtection (Protection.protectBlocks content)
  let expanded ← expand handler marked
  let rendered ← ExceptT.mk (pure (Template.renderTags expanded data))
  if ← isCumulative then return rendered else inject rendered

/-- How many plugin tags may stand inside of each other. -/
def maxDepth : Nat :=
  10

/-- The handler that parses the body of a tag with no data, where `levels` more levels of tags may be opened. -/
def bridge : (levels : Nat) → Handler ε
  | 0 => fun tag => throw (.depthExceeded tag.name maxDepth)
  | levels + 1 => fun tag => parse (some (bridge levels)) tag.content []

/-- The handler that a rendering pass begins with. -/
def outermostBridge : Handler ε :=
  bridge maxDepth

/-- The handler that parses the body of a tag with the same data and itself, where `observe` takes note of each
tag. Each level parses a text with fewer openings of tags, so `levels` may be one more than the number of braces. -/
def reentry (observe : PluginCall → Parsing ε Unit) (data : Scope) : (levels : Nat) → Handler ε
  | 0 => fun tag => throw (.depthExceeded tag.name 0)
  | levels + 1 => fun tag => do
      observe tag
      parse (some (reentry observe data levels)) tag.content data

end Parsing

end ThemedViews
