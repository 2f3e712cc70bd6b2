import ThemedViews.Table
import ThemedViews.Text.Basic
import ThemedViews.Text.Property

/-!
# Recognising plugin tags and noparse blocks

A plugin tag has a name with a colon in it and attributes with quoted values. It stands alone or, if a closing tag
with its name follows, together with a body; bodies may hold tags of the same name in pairs. A noparse block goes
from its opening tag to the next closing one. Each recogniser reads the beginning of a text and gives what it found
and what is left, or the number of characters that it takes.
-/

namespace ThemedViews

/-- One plugin tag: its name, its attributes by key, and its body, which is empty for a tag that stands alone. -/
structure PluginCall where
  name : String
  attributes : Table String
  content : Text
  deriving Repr, DecidableEq

namespace Tags

/-- The two characters that begin a tag. -/
def opener : Text :=
  "\x7b\x7b".toList

/-- The two characters that end a tag. -/
def closer : Text :=
  "\x7d\x7d".toList

/-- The text behind its leading blanks. -/
def afterBlanks (text : Text) : Text :=
  text.dropWhile Text.isBlank

/-- The text behind a tag that holds one word and blanks. -/
def afterTag? (word text : Text) : Option Text := do
  let inside ← opener.isPrefixOf? text
  let behind ← word.isPrefixOf? (afterBlanks inside)
  closer.isPrefixOf? (afterBlanks behind)

/-- The text behind an opening noparse tag. -/
def afterOpening? : Text → Option Text :=
  afterTag? "noparse".toList

/-- The text behind a closing noparse tag. -/
def afterClosing? : Text → Option Text :=
  afterTag? "/noparse".toList

/-- The text before the first closing noparse tag, and the text behind it. -/
def untilClosing? : Text → Option (Text × Text)
  | [] => none
  | first :: rest =>
      match afterClosing? (first :: rest) with
      | some behind => some ([], behind)
      | none => (untilClosing? rest).map fun (inner, behind) => (first :: inner, behind)

def noparseBlock (text : Text) : Option (Text × Nat) := do
  let (inner, behind) ← untilClosing? (← afterOpening? text)
  return (inner, text.length - behind.length)

/-- A character of a name or key. -/
def isNameChar (character : Char) : Bool :=
  Text.isWordChar character || character = '-'

/-- A character that may begin a name. -/
def isNameStart (character : Char) : Bool :=
  character.isAlpha || character = '_'

/-- The name of a plugin at the front of a text, and what is left: words joined by colons, at least two of them. -/
def pluginName? (text : Text) : Option (Text × Text) :=
  let (name, rest) := Text.run (fun character => isNameChar character || character = ':') text
  let words := name.splitOn ':'
  if (name.head?.any isNameStart) && 2 ≤ words.length && words.all (fun word => !word.isEmpty) then
    some (name, rest)
  else none

def quotedValue? : Text → Option (Text × Text)
  | [] => none
  | quote :: rest =>
      if quote = '"' || quote = '\x27' then
        let (value, behind) := Text.run (· ≠ quote) rest
        if behind.isEmpty then none else some (value, behind.drop 1)
      else none

/-- A key with its value at the front of a text, and what is left. -/
def keyValue? (text : Text) : Option ((Text × Text) × Text) := do
  let (key, rest) := Text.run isNameChar text
  if key.isEmpty then none
  let behind ← ['='].isPrefixOf? (afterBlanks rest)
  let (value, rest) ← quotedValue? (afterBlanks behind)
  return ((key, value), rest)

/-- What is left of a text behind its leading attributes, each of which has a blank before it. Their number is
bounded by `limit`. -/
def afterAttributes : (limit : Nat) → Text → Text
  | 0, text => text
  | limit + 1, text =>
      if text.head?.any Text.isBlank then
        match keyValue? (afterBlanks text) with
        | some (_, rest) => afterAttributes limit rest
        | none => text
      else text

/-- The opening tag of a plugin at the front of a text: its name, the text of its attributes, and what is left. -/
def opening? (text : Text) : Option (Text × Text × Text) := do
  let inside ← opener.isPrefixOf? text
  let (name, rest) ← pluginName? (afterBlanks inside)
  let behind := afterAttributes rest.length rest
  let left ← closer.isPrefixOf? (afterBlanks behind)
  return (name, rest.take (rest.length - behind.length), left)

/-- Recognises an attribute. -/
def attributePair (text : Text) : Option ((Text × Text) × Nat) := do
  let (found, rest) ← keyValue? text
  return (found, text.length - rest.length)

/-- The attributes in a text, where of several with one key the last counts. -/
def readAttributes (text : Text) : Table String :=
  Table.ofList ((Text.cut attributePair text).found.map fun (key, value) => (String.ofList key, String.ofList value))

/-- What a tag is for the search of a closing tag of a name. -/
inductive TagRole where
  | opens
  | closes
  | other
  deriving Repr, DecidableEq

def tagRole (name inner : Text) : TagRole :=
  let trimmed := (inner.trimStartOf Text.isBlank).trimEndOf Text.isBlank
  let (isClosing, tag) :=
    match trimmed with
    | '/' :: rest => (true, afterBlanks rest)
    | _ => (false, trimmed)
  if tag.takeWhile (fun character => !Text.isBlank character) = name && !tag.isEmpty then
    if isClosing then .closes else .opens
  else .other

/-- The text before the closing tag of a plugin, and the text behind it. The first `passed` characters are known
to hold no tag, and `depth` tags of the name are open inside. The search ends where a tag has no end. -/
def untilClosingTag? (name : Text) : (passed depth : Nat) → Text → Option (Text × Text)
  | _, _, [] => none
  | passed + 1, depth, first :: rest =>
      (untilClosingTag? name passed depth rest).map fun (body, behind) => (first :: body, behind)
  | 0, depth, first :: rest =>
      let further (passed depth : Nat) : Option (Text × Text) :=
        (untilClosingTag? name passed depth rest).map fun (body, behind) => (first :: body, behind)
      match opener.isPrefixOf? (first :: rest) with
      | none => further 0 depth
      | some inside =>
          match Text.splitOnce? closer inside with
          | none => none
          | some (inner, behind) =>
              match tagRole name inner, depth with
              | .other, _ => further 1 depth
              | .opens, _ => further (inner.length + 3) (depth + 1)
              | .closes, 0 => some ([], behind)
              | .closes, depth + 1 => further (inner.length + 3) depth

/-- The body of a plugin whose opening tag has been read, and the text behind its closing tag. -/
def findClosingTag (text name : Text) : Option (Text × Text) :=
  untilClosingTag? name 0 0 text

/-- Recognises a plugin tag, together with its body and closing tag if it has one. -/
def plugin (text : Text) : Option (PluginCall × Nat) := do
  let (name, attributes, after) ← opening? text
  let (content, rest) := (findClosingTag after name).getD ([], after)
  return (⟨String.ofList name, readAttributes attributes, content⟩, text.length - rest.length)

end Tags

end ThemedViews
