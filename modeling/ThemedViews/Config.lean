import ThemedViews.Expansion
import ThemedViews.Text.Property
import ThemedViews.Toml.Writer

/-!
# Configurations

A configuration says where the themes are, which theme and layout are used unless something else is asked for, and
which view names aliases stand for. In a file every key may be missing; keys of other names are ignored. A
configuration that is read may not have a blank theme, a blank layout or an alias for a blank view name.
-/

namespace ThemedViews

/-- Where themes are found, and what is used by default. -/
structure Config where
  location : String
  theme : String
  layout : String
  names : Table String
  deriving Repr, DecidableEq

namespace Config

/-- The configuration without a file. -/
def default : Config :=
  ⟨"public/themes", "main", "layout", []⟩

/-- The default configuration at another location. -/
def withLocation (location : String) : Config :=
  { default with location }

/-- Whether a text has nothing but blanks. -/
def isBlank (text : String) : Bool :=
  text.toList.all Text.isBlank

/-- What is wrong with a configuration, if anything is. -/
def problem? (config : Config) : Option String :=
  if isBlank config.theme then some "theme must not be empty"
  else if isBlank config.layout then some "layout must not be empty"
  else
    (config.names.find? fun entry => isBlank entry.2).map fun entry =>
      s!"alias '{entry.1}' maps to an empty view name"

def textOr (otherwise : String) : Option Toml.Node → Option String
  | none => some otherwise
  | some (.text content) => some content
  | some _ => none

/-- The key under which a date or time stands where a table is wanted. -/
def momentKey : String :=
  "$__toml_private_datetime"

/-- The aliases in a file. -/
def namesOf : Option Toml.Node → Option (Table String)
  | none => some []
  | some (.table _ entries) => entries.mapM fun (key, value) => match value with
      | .text content => some (key, content)
      | _ => none
  | some (.moment spelling) => some [(momentKey, spelling)]
  | some _ => none

/-- The configuration in the tables of a file. -/
def ofEntries (entries : Toml.Entries) : Option Config := do
  return {
    location := ← textOr default.location (entries.lookup "location")
    theme := ← textOr default.theme (entries.lookup "theme")
    layout := ← textOr default.layout (entries.lookup "layout")
    names := ← namesOf (entries.lookup "names") }

/-- The configuration in a text. -/
def ofToml (content : String) : Except ViewError Config :=
  match (Toml.read content).bind ofEntries with
  | none => throw (.unreadableConfig "the document is not a configuration")
  | some config =>
      match config.problem? with
      | some problem => throw (.invalidConfig problem)
      | none => pure config

/-- The configuration as text. -/
def toToml (config : Config) : String :=
  let aliases := config.names.flatMap fun (key, name) => Toml.writePair key name
  String.ofList
    (Toml.writePair "location" config.location ++ Toml.writePair "theme" config.theme
      ++ Toml.writePair "layout" config.layout
      ++ if config.names.isEmpty then [] else "\n[names]\n".toList ++ aliases)

/-- The configuration in a file. -/
def load (files : FileTree) (path : Path) : Except ContextError Config :=
  match files.read path with
  | .error cause => throw ⟨s!"Failed to read template config: {path.text}", .io cause⟩
  | .ok content =>
      match ofToml content with
      | .error error => throw ⟨s!"Invalid template config: {path.text}", .view error⟩
      | .ok config => pure config

/-- The configuration in a file if there is one, and the default otherwise. -/
def loadOptional (files : FileTree) : Option Path → Except ContextError Config
  | none => pure default
  | some path => if files.exists? path then load files path else pure default

/-- The directory of the themes. -/
def expandedLocation (environment : Environment) (config : Config) : Except ContextError Path :=
  expandPath environment config.location

end Config

end ThemedViews
