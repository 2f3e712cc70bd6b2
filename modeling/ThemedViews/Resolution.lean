import ThemedViews.Table
import ThemedViews.ViewError

/-!
# Resolution of view names

A view name stands for one file under the directory of a theme: `home.index` for `views/home/index.html`. A name
that begins with `name: ` refers to the view name that is registered under the alias behind it. Whether the file
exists is looked up once; there is no second choice.
-/

namespace ThemedViews

inductive ViewReference where
  | literal (name : String)
  | byAlias (key : String)
  deriving Repr, DecidableEq

namespace ViewReference

/-- What a reference to an alias begins with. -/
def aliasMark : Text :=
  "name: ".toList

/-- The kind of a reference. -/
def ofString (reference : String) : ViewReference :=
  match aliasMark.isPrefixOf? reference.toList with
  | some rest => .byAlias (String.ofList rest)
  | none => .literal reference

end ViewReference

/-- Where the views of a theme are, and the view names that aliases stand for. -/
structure Resolver where
  location : Path
  theme : String
  aliases : Table String
  deriving Repr, DecidableEq

namespace Resolver

def viewName (resolver : Resolver) (reference : String) : Except ViewError String :=
  match ViewReference.ofString reference with
  | .literal name => pure name
  | .byAlias key =>
      match resolver.aliases.lookup key with
      | some name => pure name
      | none => throw (.unknownAlias key)

def views (resolver : Resolver) : Path :=
  (resolver.location.join resolver.theme).join "views"

/-- A character that separates directories on some system. -/
def isSeparator (character : Char) : Bool :=
  character = '/' || character = '\\'

/-- The path of a view under the directory of the views: dots separate directories, and leading separators are
dropped. -/
def relativeFile (name : String) : Text :=
  Text.trimStartOf isSeparator (Text.replace ['.'] ['/'] name.toList ++ ".html".toList)

def isPlain : Path.Component → Bool
  | .normal _ => true
  | _ => false

/-- The file that a reference stands for, whether it exists or not. -/
def candidate (resolver : Resolver) (reference : String) : Except ViewError Path := do
  let file := relativeFile (← resolver.viewName reference)
  if (Path.componentsOf file).all isPlain then
    return resolver.views.join (String.ofList file)
  else throw (.viewNotFound reference resolver.views)

/-- The file that a reference stands for, if it exists. -/
def resolve (resolver : Resolver) (files : FileTree) (reference : String) : Except ViewError (Option Path) := do
  let path ← resolver.candidate reference
  return if files.isFile path then some path else none

def exists? (resolver : Resolver) (files : FileTree) (reference : String) : Except ViewError Bool := do
  return (← resolver.resolve files reference).isSome

/-- The file that a reference stands for, which has to exist. -/
def path (resolver : Resolver) (files : FileTree) (reference : String) : Except ViewError Path := do
  let path ← resolver.candidate reference
  if files.isFile path then return path else throw (.viewNotFound reference path)

end Resolver

end ThemedViews
