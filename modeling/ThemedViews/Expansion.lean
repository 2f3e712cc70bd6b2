import ThemedViews.Path
import ThemedViews.Table
import ThemedViews.Text.Property
import ThemedViews.ViewError

/-!
# Expansion of paths

A path may refer to variables of the environment, as `$name` or in braces, where a default value can follow `:-`.
Two dollar signs stand for one, and values are not expanded again. After that a tilde at the beginning stands for the
home directory, if the path as it was written begins with one.
-/

namespace ThemedViews

abbrev Environment := Table String

namespace Expansion

/-- Something in a path that stands for another text. -/
inductive Reference where
  | dollarSign
  | named (name : String) (default : Option Text)
  deriving Repr, DecidableEq

/-- A character of a variable name outside of braces. -/
def isNameChar (character : Char) : Bool :=
  Text.isAlphanumeric character || character = '_'

/-- The variable that the text between two braces speaks about. A default value begins behind the first `:-`, but
not if nothing is before it. -/
def braced (inner : Text) : Reference :=
  match Text.splitOnce? [':', '-'] inner with
  | some (first :: name, default) => .named (String.ofList (first :: name)) (some default)
  | _ => .named (String.ofList inner) none

def reference : Text → Option (Reference × Nat)
  | '$' :: '$' :: _ => some (.dollarSign, 2)
  | '$' :: '{' :: rest => do
      let (inner, _) ← Text.splitOnce? ['}'] rest
      return (braced inner, inner.length + 3)
  | '$' :: rest =>
      let name := rest.takeWhile isNameChar
      if name.isEmpty then none else some (.named (String.ofList name) none, name.length + 1)
  | _ => none

/-- The text that a reference stands for, or the name of a variable that is not set. -/
def valueOf (environment : Environment) : Reference → Except String Text
  | .dollarSign => pure ['$']
  | .named name default =>
      match environment.lookup name, default with
      | some value, _ => pure value.toList
      | none, some default => pure default
      | none, none => throw name

/-- The texts before references together with what these stand for. -/
def expandPieces (environment : Environment) : List (Text × Reference) → Except String Text
  | [] => pure []
  | (before, found) :: rest => do
      let value ← valueOf environment found
      return before ++ value ++ (← expandPieces environment rest)

/-- The text with all references replaced. -/
def expandVariables (environment : Environment) (text : Text) : Except String Text := do
  let pieces := Text.cut reference text
  return (← expandPieces environment pieces.pieces) ++ pieces.rest

/-- The text with a tilde at the beginning replaced by the home directory. -/
def expandHome (environment : Environment) (text : Text) : Text :=
  match text with
  | '~' :: rest =>
      if rest.head?.all (· = '/') then ((environment.lookup "HOME").map (·.toList ++ rest)).getD text else text
  | _ => text

/-- The error for a variable that is not set. -/
def unset (path name : String) : ContextError :=
  ⟨s!"Failed to expand environment variables in path: {path}\n\nCommon issues:\n"
      ++ "- Undefined environment variable (e.g., $UNDEFINED_VAR)\n"
      ++ "- Invalid variable syntax (use $VAR or $\x7bVAR\x7d)",
    .messages [s!"error looking key '{name}' up: environment variable not found",
      "environment variable not found"]⟩

end Expansion

/-- The path that a written path stands for. -/
def expandPath (environment : Environment) (path : String) : Except ContextError Path :=
  match Expansion.expandVariables environment path.toList with
  | .error name => throw (Expansion.unset path name)
  | .ok expanded =>
      pure ⟨String.ofList
        (if path.toList.head? = some '~' then Expansion.expandHome environment expanded else expanded)⟩

end ThemedViews
