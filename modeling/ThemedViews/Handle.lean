import ThemedViews.Config
import ThemedViews.Resolution
import ThemedViews.Value.Printer

/-!
# Handles

A handle holds what new views begin with: a configuration, the directory of the themes, the names of a kind of parser
and of a provider of messages, and references to the cached contents and to the shared data. A copy of a handle leads
to the same stores; all else is changed handle by handle.
-/

namespace ThemedViews

/-- What new views begin with. -/
structure Handle (κ : Type) where
  config : Config
  location : Path
  content : Nat
  shared : Nat
  parser : κ
  errors : Option κ
  deriving Repr, DecidableEq

namespace Handle

variable {κ : Type}

/-- An error with its context in one message. -/
def joined (error : ContextError) : String :=
  let chain := match error.cause with
    | .io cause => [cause.message]
    | .view cause => cause.message :: cause.cause?.toList
    | .messages chain => chain
  ": ".intercalate (error.message :: chain)

/-- The directory of the themes of a configuration. -/
def locate (environment : Environment) (config : Config) : Except ViewError Path :=
  (config.expandedLocation environment).mapError fun error => .invalidConfig (joined error)

/-- A handle on the stores with a number, without a session. -/
def ofConfig (environment : Environment) (parser : κ) (stores : Nat) (config : Config) :
    Except ViewError (Handle κ) := do
  let location ← locate environment config
  return { config, location, content := stores, shared := stores, parser, errors := none }

/-- A handle with the configuration in a file. -/
def ofFile (environment : Environment) (files : FileTree) (parser : κ) (stores : Nat) (path : Path) :
    Except ContextError (Handle κ) := do
  let config ← Config.load files path
  (ofConfig environment parser stores config).mapError fun error =>
    ⟨s!"Failed to initialize template engine from {path.text}", .view error⟩

/-- Takes another kind of parser. -/
def setParser (parser : κ) (handle : Handle κ) : Handle κ :=
  { handle with parser }

/-- Takes a provider of the messages of a session. -/
def setErrors (provider : κ) (handle : Handle κ) : Handle κ :=
  { handle with errors := some provider }

/-- Takes another theme. -/
def setTheme (theme : String) (handle : Handle κ) : Handle κ :=
  { handle with config := { handle.config with theme } }

/-- Takes another layout. -/
def setLayout (layout : String) (handle : Handle κ) : Handle κ :=
  { handle with config := { handle.config with layout } }

/-- Takes another directory of themes. -/
def setLocation (environment : Environment) (location : String) : ExceptT ViewError (StateM (Handle κ)) Unit := do
  let config := { (← get).config with location }
  let expanded ← ExceptT.mk (pure (locate environment config))
  modify fun handle => { handle with location := expanded }
  modify fun handle => { handle with config }

/-- Makes an alias stand for a view name. -/
def registerAlias (key name : String) (handle : Handle κ) : Handle κ :=
  { handle with config := { handle.config with names := Table.insert key name handle.config.names } }

/-- Where the views of a theme are. -/
def resolverFor (handle : Handle κ) (theme : String) : Resolver :=
  ⟨handle.location, theme, handle.config.names⟩

/-- Where the views of the current theme are. -/
def resolver (handle : Handle κ) : Resolver :=
  handle.resolverFor handle.config.theme

/-- The handle in one line, with the number of cached files and of shared values. -/
def summary (cachedFiles sharedKeys : Nat) (handle : Handle κ) : String :=
  s!"Engine \x7b location: {Value.quotedText handle.location.text}, "
    ++ s!"theme: {Value.quotedText handle.config.theme}, layout: {Value.quotedText handle.config.layout}, "
    ++ s!"aliases: {handle.config.names.length}, cached_files: {cachedFiles}, shared_keys: {sharedKeys}, .. \x7d"

end Handle

end ThemedViews
