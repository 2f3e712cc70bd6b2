import ThemedViews.Table
import ThemedViews.Text.Basic

/-!
# Errors of templates

What a caller learns when a template fails: a name that is not in scope, with the names that are and those that look
alike; any other failure with its message; or plugin tags that are nested too deeply. The first two say where they
happened, as far as that is known.
-/

namespace ThemedViews

/-- The line of an error, and the lines around it with their numbers. -/
structure ErrorLocation where
  line : Option Nat
  context : Option (List (Nat × String))
  deriving Repr, DecidableEq

/-- No known place. -/
def ErrorLocation.unknown : ErrorLocation :=
  ⟨none, none⟩

/-- Why a template has no text. -/
inductive TemplateError where
  | variableNotFound (name : String) (available suggestions : List String) (location : ErrorLocation)
  | invalid (message : String) (location : ErrorLocation)
  | depthExceeded (plugin : String) (depth : Nat)
  deriving Repr, DecidableEq

namespace TemplateError

/-- The error in one line. -/
def message : TemplateError → String
  | variableNotFound name _ _ _ => s!"Template variable not found: '{name}'"
  | invalid message _ => s!"Template syntax error: {message}"
  | depthExceeded plugin depth => s!"Plugin '{plugin}' exceeded the maximum nesting depth of {depth}"

/-- One text for all. -/
def joinLines (lines : List String) : String :=
  String.join (lines.map fun line => line ++ "\n")

def lineReport (location : ErrorLocation) : List String :=
  location.line.toList.map fun line => s!"Line: {line}"

/-- The part of a name before its first dot. -/
def groupOf (name : String) : String :=
  String.ofList (name.toList.takeWhile (· ≠ '.'))

def grouped (names : List String) : Table (List String) :=
  names.foldl
    (fun groups name =>
      Table.insert (groupOf name) ((groups.lookup (groupOf name)).getD [] ++ [name]) groups)
    []

/-- The names that are in scope: at most five groups, and no names of a group of more than three. -/
def availableReport (names : List String) : List String :=
  if names.isEmpty then []
  else
    let groups := grouped names
    let shown := (groups.take 5).flatMap fun (group, members) =>
      if members.length ≤ 3 then members.map fun name => s!"  {name}"
      else [s!"  {group}.*  ({members.length} variables)"]
    let more := if 5 < groups.length then [s!"  ... and {groups.length - 5} more"] else []
    ["Available variables in this context:"] ++ shown ++ more ++ [""]

/-- The names that look alike. -/
def suggestionReport (names : List String) : List String :=
  if names.isEmpty then []
  else ["Did you mean one of these?"] ++ names.map (fun name => s!"  - {name}") ++ [""]

/-- A number at the end of four places. -/
def numberColumn (number : Nat) : String :=
  let digits := toString number
  String.ofList (List.replicate (4 - digits.length) ' ') ++ digits

/-- The lines around an error, with a mark at its own. -/
def contextReport (location : ErrorLocation) : List String :=
  match location.context with
  | none => []
  | some lines =>
      "" :: lines.map fun (number, text) =>
        let mark := if some number = location.line then ">" else " "
        s!"{mark} {numberColumn number} | {text}"

/-- The error with everything that may help. -/
def report : TemplateError → String
  | variableNotFound name available suggestions location =>
      joinLines
        (["ERROR: Template Variable Not Found", "", s!"Variable: {name}"] ++ lineReport location ++ [""]
          ++ suggestionReport suggestions ++ availableReport available)
  | invalid message location =>
      joinLines
        (["ERROR: Template Syntax Error", "", s!"Error: {message}"] ++ lineReport location
          ++ contextReport location
          ++ ["", "SUGGESTION: Check template syntax for unclosed tags or invalid expressions.", "Common issues:",
            "  - Unclosed \x7b\x7b \x7d\x7d or \x7b% %\x7d delimiters",
            "  - A plugin tag whose closing \x7b\x7b /name \x7d\x7d is misspelled",
            "  - Invalid filter names", ""])
  | depthExceeded plugin depth =>
      joinLines
        ["ERROR: Plugin Nesting Too Deep", "", s!"Plugin: {plugin}", s!"Limit: {depth}", "",
          "SUGGESTION: Plugin bodies are parsed again on entry; check for plugin tags "
            ++ "that expand into themselves."]

end TemplateError

end ThemedViews
