import ThemedViews.Decimal.Shortest
import ThemedViews.Text.Quoted
import ThemedViews.Value.Basic

/-!
# Written forms of values

A value is written in three ways: as compact JSON, as JSON on indented lines, and with the kind of each part
spelled out. The JSON forms escape quotes, backslashes and control characters; the spelled form quotes texts as
`Text.quoted` does.
-/

namespace ThemedViews

def Number.text : Number → String
  | int value => toString value
  | float value => Decimal.Style.data.text value

namespace Value

/-- One character inside the quotes of a JSON string. -/
def escapedChar (character : Char) : List Char :=
  match character with
  | '"' => ['\\', '"']
  | '\\' => ['\\', '\\']
  | '\x08' => ['\\', 'b']
  | '\x0c' => ['\\', 'f']
  | '\n' => ['\\', 'n']
  | '\r' => ['\\', 'r']
  | '\t' => ['\\', 't']
  | _ =>
      if character.toNat < 0x20 then
        ['\\', 'u', '0', '0'] ++ [Nat.digitChar (character.toNat / 16), Nat.digitChar (character.toNat % 16)]
      else [character]

/-- A JSON string. -/
def escaped (content : String) : String :=
  "\"" ++ String.ofList (content.toList.flatMap escapedChar) ++ "\""

mutual

/-- The value as JSON without blanks. -/
def compact : Value → String
  | null => "null"
  | bool truth => if truth then "true" else "false"
  | number amount => amount.text
  | text content => escaped content
  | list items => "[" ++ compactItems "" items ++ "]"
  | object entries => "\x7b" ++ compactEntries "" entries ++ "\x7d"

/-- List items, the first behind `separator` and each other one behind a comma. -/
def compactItems (separator : String) : List Value → String
  | [] => ""
  | item :: rest => separator ++ compact item ++ compactItems "," rest

/-- Object entries, the first behind `separator` and each other one behind a comma. -/
def compactEntries (separator : String) : List (String × Value) → String
  | [] => ""
  | (key, value) :: rest =>
      separator ++ escaped key ++ ":" ++ compact value ++ compactEntries "," rest

end

def newLine (level : Nat) : String :=
  "\n" ++ String.ofList (List.replicate (2 * level) ' ')

mutual

/-- The value as JSON with one entry or item a line, where the value itself stands at `level`. -/
def indented (level : Nat) : Value → String
  | null => "null"
  | bool truth => if truth then "true" else "false"
  | number amount => amount.text
  | text content => escaped content
  | list [] => "[]"
  | list (first :: rest) => "[" ++ indentedItems (level + 1) "" (first :: rest) ++ newLine level ++ "]"
  | object [] => "\x7b\x7d"
  | object (first :: rest) =>
      "\x7b" ++ indentedEntries (level + 1) "" (first :: rest) ++ newLine level ++ "\x7d"

/-- List items at `level`. -/
def indentedItems (level : Nat) (separator : String) : List Value → String
  | [] => ""
  | item :: rest => separator ++ newLine level ++ indented level item ++ indentedItems level "," rest

/-- Object entries at `level`. -/
def indentedEntries (level : Nat) (separator : String) : List (String × Value) → String
  | [] => ""
  | (key, value) :: rest =>
      separator ++ newLine level ++ escaped key ++ ": " ++ indented level value ++ indentedEntries level "," rest

end

/-- The value as JSON on indented lines. -/
def pretty (value : Value) : String :=
  indented 0 value

def quotedText (content : String) : String :=
  String.ofList (Text.quoted content.toList)

mutual

/-- The value with the kind of each part. -/
def spelled : Value → String
  | null => "Null"
  | bool truth => if truth then "Bool(true)" else "Bool(false)"
  | number amount => "Number(" ++ amount.text ++ ")"
  | text content => "String(" ++ quotedText content ++ ")"
  | list items => "Array [" ++ spelledItems "" items ++ "]"
  | object entries => "Object \x7b" ++ spelledEntries "" entries ++ "\x7d"

/-- List items with their kinds. -/
def spelledItems (separator : String) : List Value → String
  | [] => ""
  | item :: rest => separator ++ spelled item ++ spelledItems ", " rest

/-- Object entries with their kinds. -/
def spelledEntries (separator : String) : List (String × Value) → String
  | [] => ""
  | (key, value) :: rest =>
      separator ++ quotedText key ++ ": " ++ spelled value ++ spelledEntries ", " rest

end

end Value

end ThemedViews
