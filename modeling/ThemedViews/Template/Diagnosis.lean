import ThemedViews.Template.Evaluate
import ThemedViews.TemplateError
import ThemedViews.Text.Distance

/-!
# From failures to errors of templates

A failure is turned into what a caller learns of it. Its line is the first number before a colon and another number
in the spelled failure, so texts of that form in messages count too. A message about an undefined variable makes it
an error about that variable, with the closest names in scope.
-/

namespace ThemedViews.Template

/-- The items between two positions, which have to be in order and within the list. -/
def slice? {α : Type} (start stop : Nat) (items : List α) : Option (List α) :=
  if start ≤ stop ∧ stop ≤ items.length then some ((items.take stop).drop start) else none

/-- The lines within `around` lines of a line, with their numbers; none if the text has no such line. The positions
are words, and where one of them is not there is no result. -/
def contextLines (text : Text) (line around : Nat) : Option (List (Nat × Text)) :=
  let lines := Text.lines text
  if line = 0 || lines.length < line then some []
  else do
    let start := line - (← Word.sum? around 1)
    let stop := min (← Word.sum? line around) lines.length
    let window ← slice? start stop lines
    return (window.zipIdx (start + 1)).map Prod.swap

/-- The names in scope: those of the data, each followed by those of the entries of an object. -/
def availableNames (data : Scope) : List String :=
  data.flatMap fun (name, value) => name :: value.entries.map fun (inner, _) => s!"{name}.{inner}"

/-- How far a name may be from a target to be suggested for it: half of the number of its bytes. -/
def suggestionLimit (target : String) : Nat :=
  target.utf8ByteSize * 50 / 100

/-- The closest names: at most three, none farther than the limit, equally close ones in the order of the list. -/
def similarNames (target : String) (available : List String) : List String :=
  let scored := available.map fun name => (name, Text.distance target.toList name.toList)
  let sorted := scored.mergeSort fun left right => left.2 ≤ right.2
  ((sorted.filter fun entry => entry.2 ≤ suggestionLimit target).take 3).map Prod.fst

/-- Recognises a note about an undefined variable, and gives its name. -/
def undefinedNote (text : Text) : Option (Text × Nat) := do
  let behind ← "Variable `".toList.isPrefixOf? text
  let (name, rest) := Text.run (· ≠ '\x60') behind
  if !name.isEmpty && "` not found".toList.isPrefixOf rest then some (name, 1) else none

/-- Recognises two numbers with a colon between them, and gives the digits of the first. -/
def numberedPlace (text : Text) : Option (Text × Nat) :=
  let (digits, rest) := Text.run Text.isDecimal text
  match digits, rest with
  | _ :: _, ':' :: next :: _ => if Text.isDecimal next then some (digits, 1) else none
  | _, _ => none

/-- The line of a failure: that at which the grammar does not match, or the first one found in its spelled form. -/
def Failure.line? (failure : Failure) : Option Nat :=
  let rejected := failure.reasons.findSome? fun reason =>
    match reason with
    | .rejected line _ => some line
    | _ => none
  match rejected with
  | some line => some line
  | none => (Text.find? numberedPlace failure.spelled.toList).bind Text.toWord?

def Failure.variable? (failure : Failure) : Option String :=
  (failure.reasons.findSome? fun reason => Text.find? undefinedNote reason.evidence).map String.ofList

/-- A message without the name of a template that has no file. -/
def cleaned (message : Text) : Text :=
  let replaced :=
    [(s!"while rendering '{oneOffName}'", ""),
      (s!"Failed to render '{oneOffName}'", "Template rendering failed"),
      (s!"Failed to parse '{oneOffName}'", "Template syntax error"),
      (s!"'{oneOffName}'", "template")].foldl
      (fun (text : Text) (needle, image) => Text.replace needle.toList image.toList text) message
  (replaced.trimStartOf Text.isBlank).trimEndOf Text.isBlank

/-- One message for a chain of them: those that say more than that something failed, joined by arrows. -/
def joinedMessage (messages : List String) : String :=
  let kept := (messages.map fun message => String.ofList (cleaned message.toList)).filter fun message =>
    !message.isEmpty && message ≠ "Template rendering failed" && message ≠ "Template syntax error"
  if kept.isEmpty then "Template syntax error (see details above)" else "\n  → ".intercalate kept

/-- What a caller learns of a failure of `text` with `data`. -/
def diagnose (text : Text) (data : Scope) (failure : Failure) : TemplateError :=
  let line := failure.line?
  let context := (line.bind fun line => contextLines text line 3).filter fun lines => !lines.isEmpty
  let location : ErrorLocation :=
    ⟨line, context.map fun lines => lines.map fun (number, content) => (number, String.ofList content)⟩
  match failure.variable? with
  | some name =>
      let available := availableNames data
      .variableNotFound name available (similarNames name available) location
  | none => .invalid (joinedMessage failure.messages) location

/-- Whether a text has the beginning of a tag anywhere. -/
def hasTags (text : Text) : Bool :=
  Text.contains "\x7b\x7b".toList text || Text.contains "\x7b%".toList text || Text.contains "\x7b#".toList text

/-- The text of a template with data, or what a caller learns of its failure. A text without tags is its own. -/
def renderTags (text : Text) (data : Scope) : Except TemplateError Text :=
  if hasTags text then (renderText text data).mapError (diagnose text data) else .ok text

end ThemedViews.Template
