import ThemedViews.FileTree
import ThemedViews.TemplateError

/-!
# Errors of views

What can go wrong when views are resolved, loaded, rendered or configured. An error has one message; a report adds
details and a suggestion. Errors of a configuration file come with the context in which they arose.
-/

namespace ThemedViews

/-- Why a view has no text, or a configuration is refused. -/
inductive ViewError where
  | viewNotFound (view : String) (path : Path)
  | unknownAlias (name : String)
  | parseFailure (template : String) (cause : TemplateError)
  | ioFailure (path : Path) (cause : IoCause)
  | invalidConfig (message : String)
  | unreadableConfig (message : String)
  | serialization (message : String)
  deriving Repr, DecidableEq

namespace ViewError

def message : ViewError → String
  | viewNotFound view _ => s!"View [{view}] doesn't exist."
  | unknownAlias name => s!"View alias '{name}' is not registered"
  | parseFailure template cause => s!"Failed to parse template '{template}': {cause.message}"
  | ioFailure path _ => s!"Failed to read template file: {path.text}"
  | invalidConfig message => s!"Configuration error: {message}"
  | unreadableConfig message => s!"TOML parsing error: {message}"
  | serialization message => s!"JSON serialization error: {message}"

/-- The message of what lies behind the error. -/
def cause? : ViewError → Option String
  | parseFailure _ cause => some cause.message
  | ioFailure _ cause => some cause.message
  | unreadableConfig message => some message
  | serialization message => some message
  | _ => none

end ViewError

/-- An error with details and a suggestion for whoever runs the program. -/
structure ErrorReport where
  error : ViewError
  details : Option String
  suggestion : Option String
  deriving Repr, DecidableEq

namespace ErrorReport

/-- The error alone. -/
def plain (error : ViewError) : ErrorReport :=
  ⟨error, none, none⟩

/-- The error with everything that can be said to help. -/
def friendly (error : ViewError) : ErrorReport :=
  match error with
  | .viewNotFound view path =>
      ⟨error, some s!"'{view}' was expected at {path.text}",
        some "Check the theme location and name; dots in view names map to directories"⟩
  | .unknownAlias name =>
      ⟨error, none,
        some ("Register the alias under [names] in the template config, e.g. "
          ++ s!"{name} = \"partials.{name}\"")⟩
  | .parseFailure _ cause => ⟨error, some cause.report, none⟩
  | .ioFailure _ cause =>
      ⟨error, some cause.message, some "Check that the file is readable by the current process"⟩
  | .unreadableConfig _ | .invalidConfig _ =>
      ⟨error, none, some "Check the location, theme and layout keys in the config file"⟩
  | .serialization message => ⟨error, some message, none⟩

def text (report : ErrorReport) : String :=
  let details := (report.details.map fun details => s!"\nDetails: {details}").getD ""
  let suggestion := (report.suggestion.map fun suggestion => s!"\nSuggestion: {suggestion}").getD ""
  report.error.message ++ details ++ suggestion

def coloured (colour word : String) : String :=
  s!"\x1b[{colour}m{word}\x1b[0m"

def terminal (colours : Bool) (report : ErrorReport) : String :=
  let line (colour word content : String) : String :=
    (if colours then coloured colour word else word) ++ ": " ++ content ++ "\n"
  let details := (report.details.map (line "33" "details")).getD ""
  let suggestion := (report.suggestion.map (line "32" "suggestion")).getD ""
  line "1;31" "error" report.error.message ++ details ++ suggestion

end ErrorReport

/-- What lies behind an error with a context. -/
inductive ContextCause where
  | io (cause : IoCause)
  | view (error : ViewError)
  | messages (chain : List String)
  deriving Repr, DecidableEq

/-- An error with what was being done when it arose. -/
structure ContextError where
  message : String
  cause : ContextCause
  deriving Repr, DecidableEq

end ThemedViews
