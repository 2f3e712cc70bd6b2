import ThemedViews.Template.Expr
import ThemedViews.Text.Property

/-!
# Templates as trees of nodes

A template is a list of nodes: text, printed expressions and statements, some with bodies of their own. A dash at
the end of a tag trims the blanks of the text on that side; `trimmed` takes these blanks away once, so that
rendering need not look at the dashes.
-/

namespace ThemedViews.Template

structure Trim where
  before : Bool
  after : Bool
  deriving Repr, DecidableEq

inductive Node where
  | text (text : Text)
  | print (trim : Trim) (value : Expr)
  | comment (trim : Trim)
  | extending (trim : Trim) (file : String)
  | importing (trim : Trim) (file space : String)
  | including (trim : Trim) (files : List String) (mayMiss : Bool)
  | assignment (trim : Trim) (name : String) (value : Expr) (everywhere : Bool)
  | raw (opening : Trim) (text : Text) (closing : Trim)
  | macroDefinition (opening : Trim) (name : String) (parameters : List (String × Option Expr))
      (body : List Node) (closing : Trim)
  | filtered (opening : Trim) (filter : Call) (body : List Node) (closing : Trim)
  | block (opening : Trim) (name : String) (body : List Node) (closing : Trim)
  | loop (opening : Trim) (key : Option String) (name : String) (container : Expr) (body : List Node)
      (otherwise : Option (List Node)) (closing : Trim)
  | branch (conditions : List (Trim × Expr × List Node)) (otherwise : Option (Trim × List Node)) (closing : Trim)
  | leave (trim : Trim)
  | next (trim : Trim)
  | super

namespace Node

/-- Nodes without the blanks at the end of a last text; a text that becomes empty is dropped. -/
def trimmedEnd (nodes : List Node) : List Node :=
  match nodes.getLast? with
  | some (.text last) =>
      let kept := last.trimEndOf Text.isBlank
      nodes.dropLast ++ if kept.isEmpty then [] else [.text kept]
  | _ => nodes

/-- Trims the end of nodes under a condition. -/
def trimmedEndIf (condition : Bool) (nodes : List Node) : List Node :=
  if condition then trimmedEnd nodes else nodes

/-- The text of a raw section without the blanks that its tags trim. -/
def rawText (opening closing : Trim) (text : Text) : Text :=
  let started := if opening.after then text.trimStartOf Text.isBlank else text
  if closing.before then started.trimEndOf Text.isBlank else started

/-- The nodes collected so far, whether the last one read was a text, and whether blanks at the start of the next
text are trimmed. -/
structure Trimming where
  nodes : List Node
  afterText : Bool
  trimNext : Bool

namespace Trimming

/-- Before the first node of a body, where `trimNext` says whether the tag before the body trims it. -/
def initial (trimNext : Bool) : Trimming :=
  ⟨[], false, trimNext⟩

/-- One more text. -/
def pushText (state : Trimming) (text : Text) : Trimming :=
  let kept := if state.trimNext then text.trimStartOf Text.isBlank else text
  let dropped := state.trimNext && kept.isEmpty
  ⟨if dropped then state.nodes else state.nodes ++ [.text kept], true, false⟩

/-- One more node, with the trimming of its first and its last tag. -/
def push (state : Trimming) (before after : Bool) (node : Node) : Trimming :=
  ⟨trimmedEndIf (state.afterText && before) state.nodes ++ [node], false, after⟩

end Trimming

/-- Trims the end of each body where the tag behind it says so; `ends` says it for the last one. -/
def trimmedBetween (ends : Bool) : List (Trim × Expr × List Node) → List (Trim × Expr × List Node)
  | [] => []
  | [(trim, expr, body)] => [(trim, expr, trimmedEndIf ends body)]
  | (trim, expr, body) :: (following, rest) :: others =>
      (trim, expr, trimmedEndIf following.before body) :: trimmedBetween ends ((following, rest) :: others)

mutual

/-- One more node of any kind; bodies are trimmed by the tags around them. -/
def trimmedOnto (state : Trimming) : Node → Trimming
  | .text content => state.pushText content
  | .print trim value => state.push trim.before trim.after (.print trim value)
  | .comment trim => state.push trim.before trim.after (.comment trim)
  | .extending trim file => state.push trim.before trim.after (.extending trim file)
  | .importing trim file space => state.push trim.before trim.after (.importing trim file space)
  | .including trim files mayMiss => state.push trim.before trim.after (.including trim files mayMiss)
  | .assignment trim name value everywhere =>
      state.push trim.before trim.after (.assignment trim name value everywhere)
  | .raw opening content closing =>
      state.push opening.before closing.after (.raw opening (rawText opening closing content) closing)
  | .macroDefinition opening name parameters body closing =>
      state.push opening.before closing.after
        (.macroDefinition opening name parameters (trimmedBody opening.after closing.before body) closing)
  | .filtered opening filter body closing =>
      state.push opening.before closing.after
        (.filtered opening filter (trimmedBody opening.after closing.before body) closing)
  | .block opening name body closing =>
      state.push opening.before closing.after
        (.block opening name (trimmedBody opening.after closing.before body) closing)
  | .loop opening key name container body otherwise closing =>
      state.push opening.before closing.after
        (.loop opening key name container (trimmedBody opening.after closing.before body) otherwise closing)
  | .branch conditions otherwise closing =>
      let first := (conditions.head?.map (·.1.before)).getD false
      let bodies := trimmedConditions conditions
      match otherwise with
      | some (trim, body) =>
          state.push first closing.after
            (.branch (trimmedBetween trim.before bodies)
              (some (trim, trimmedBody trim.after closing.before body)) closing)
      | none => state.push first closing.after (.branch (trimmedBetween closing.before bodies) none closing)
  | .leave trim => state.push trim.before trim.after (.leave trim)
  | .next trim => state.push trim.before trim.after (.next trim)
  | .super => ⟨state.nodes ++ [.super], false, state.trimNext⟩

/-- All nodes of a list. -/
def trimmedAll (state : Trimming) : List Node → Trimming
  | [] => state
  | node :: rest => trimmedAll (trimmedOnto state node) rest

/-- The bodies of conditions, trimmed at the start by their own tags. -/
def trimmedConditions : List (Trim × Expr × List Node) → List (Trim × Expr × List Node)
  | [] => []
  | (trim, expr, body) :: rest =>
      (trim, expr, (trimmedAll (.initial trim.after) body).nodes) :: trimmedConditions rest

/-- A body between two tags. -/
def trimmedBody (starts ends : Bool) (body : List Node) : List Node :=
  trimmedEndIf ends (trimmedAll (.initial starts) body).nodes

end

def trimmed (nodes : List Node) : List Node :=
  (trimmedAll (.initial false) nodes).nodes

end Node

end ThemedViews.Template
