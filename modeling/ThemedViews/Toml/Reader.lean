import ThemedViews.Toml.Node
import ThemedViews.Toml.Scalar

/-!
# Reading configuration files

A configuration file is a TOML document: lines with pairs of keys and values, and headers that say in which table the
next pairs go. Each reader takes something from the front of a text and gives it with what is left, and nothing if
the text is not well-formed.
-/

namespace ThemedViews.Toml

/-- The text behind blanks, line endings and comments. -/
def afterGap? : (inComment : Bool) → Text → Option Text
  | _, [] => some []
  | inComment, character :: rest =>
      if character = '\n' then afterGap? false rest
      else if character = '\r' then if rest.head? = some '\n' then afterGap? inComment rest else none
      else if inComment then if isPlainChar character then afterGap? true rest else none
      else if character = '#' then afterGap? true rest
      else if isBlank character then afterGap? false rest
      else some (character :: rest)

/-- The text behind the end of the line, where only blanks and a comment may stand before it. -/
def afterLine? (text : Text) : Option Text :=
  match afterBlanks text with
  | [] => some []
  | '#' :: rest =>
      let behind := rest.dropWhile isPlainChar
      if behind.isEmpty then some [] else afterLineEnding? behind
  | rest => afterLineEnding? rest

/-- A character of a key without quotes. -/
def isBareChar (character : Char) : Bool :=
  character.isAlphanum || character = '_' || character = '-'

/-- One key at the front. -/
def readKey (text : Text) : Option (String × Text) :=
  match quotedLine? text with
  | some (key, rest) => some (String.ofList key, rest)
  | none =>
      let (key, rest) := Text.run isBareChar text
      if key.isEmpty then none else some (String.ofList key, rest)

/-- Keys with dots between them, of which the last is given apart. Their number is bounded by `limit`. -/
def readKeysUpTo : (limit : Nat) → Text → Option ((List String × String) × Text)
  | 0, _ => none
  | limit + 1, text => do
      let (key, rest) ← readKey (afterBlanks text)
      match afterBlanks rest with
      | '.' :: rest =>
          let ((path, last), rest) ← readKeysUpTo limit rest
          return ((key :: path, last), rest)
      | rest => return (([], key), rest)

/-- How many keys may stand in a row, and how many lists and inline tables inside each other. -/
def maxLevels : Nat :=
  80

/-- Keys with dots between them, of which the last is given apart. -/
def readKeys (text : Text) : Option ((List String × String) × Text) :=
  readKeysUpTo maxLevels text

/-- A value that holds no other values. -/
def readScalar (text : Text) : Option (Node × Text) :=
  if text.head? = some '"' || text.head? = some '\x27' then
    (quoted? text).map fun (content, rest) => (.text (String.ofList content), rest)
  else
    match moment? text with
    | some (spelling, rest) => some (.moment (String.ofList spelling), rest)
    | none =>
        let (word, rest) := Text.run isValueChar text
        if word = "true".toList || word = "false".toList || isNumber word then some (.other, rest) else none

/-- The items of a list and its closing bracket. A comma may follow the last item. -/
def readItems (read : Text → Option (Node × Text)) : (limit : Nat) → Text → Option (List Node × Text)
  | 0, _ => none
  | limit + 1, text => do
      match ← afterGap? false text with
      | ']' :: rest => return ([], rest)
      | text =>
          let (item, rest) ← read text
          match ← afterGap? false rest with
          | ']' :: rest => return ([item], rest)
          | ',' :: rest =>
              let (items, rest) ← readItems read limit rest
              return (item :: items, rest)
          | _ => none

/-- A pair of keys and a value. -/
def readPair (read : Text → Option (Node × Text)) (entries : Entries) (text : Text) : Option (Entries × Text) := do
  let ((path, key), rest) ← readKeys text
  let (value, rest) ← read (afterBlanks (← ['='].isPrefixOf? rest))
  return (← entries.addPair path key value, rest)

/-- The pairs of an inline table, added to those before them, and its closing brace. A comma may follow the last
pair. -/
def readPairs (read : Text → Option (Node × Text)) : (limit : Nat) → Entries → Text → Option (Entries × Text)
  | 0, _, _ => none
  | limit + 1, entries, text => do
      match ← afterGap? false text with
      | '}' :: rest => return (entries, rest)
      | text =>
          let (entries, rest) ← readPair read entries text
          match ← afterGap? false rest with
          | '}' :: rest => return (entries, rest)
          | ',' :: rest => readPairs read limit entries rest
          | _ => none

/-- A value in which at most `levels` lists and inline tables stand inside each other. -/
def readValue : (levels : Nat) → Text → Option (Node × Text)
  | 0, text => readScalar text
  | levels + 1, text =>
      match text with
      | '[' :: rest => do
          let (items, rest) ← readItems (readValue levels) text.length rest
          return (.list items, rest)
      | '{' :: rest => do
          let (entries, rest) ← readPairs (readValue levels) text.length [] rest
          return (.table .inline entries, rest)
      | _ => readScalar text

/-- A document as far as it has been read: its tables, and the path of the one that the next pairs go to. -/
structure Document where
  root : Entries
  current : List String

/-- A header or a pair, which may not be followed by another one on its line. -/
def readStatement (document : Document) (text : Text) : Option (Document × Text) :=
  match text with
  | '[' :: '[' :: rest => do
      let ((path, key), rest) ← readKeys rest
      let root ← document.root.change .byHeader (Entries.openNext key) path
      return (⟨root, path ++ [key]⟩, ← [']', ']'].isPrefixOf? rest)
  | '[' :: rest => do
      let ((path, key), rest) ← readKeys rest
      let root ← document.root.change .byHeader (Entries.openTable key) path
      return (⟨root, path ++ [key]⟩, ← [']'].isPrefixOf? rest)
  | _ => do
      let ((path, key), rest) ← readKeys text
      let (value, rest) ← readValue maxLevels (afterBlanks (← ['='].isPrefixOf? rest))
      let root ← document.root.change .byHeader (Entries.addPair path key value) document.current
      return (⟨root, document.current⟩, rest)

/-- The statements of a document, at most `limit` of them. -/
def readStatements : (limit : Nat) → Document → Text → Option Document
  | 0, _, _ => none
  | limit + 1, document, text => do
      match ← afterGap? false text with
      | [] => return document
      | text =>
          let (document, rest) ← readStatement document text
          readStatements limit document (← afterLine? rest)

/-- The tables of a document. A byte order mark may stand in front. -/
def read (text : String) : Option Entries :=
  let content : Text :=
    match text.toList with
    | '\uFEFF' :: rest => rest
    | content => content
  (readStatements (content.length + 1) ⟨[], []⟩ content).map Document.root

end ThemedViews.Toml
