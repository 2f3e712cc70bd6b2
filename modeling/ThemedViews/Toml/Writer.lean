import ThemedViews.Toml.Reader

/-!
# Writing configuration files

Texts are written in the plainest way that holds them: between double quotes, between single quotes, on several
lines, and only then with escapes. Keys have no quotes if they can do without.
-/

namespace ThemedViews.Toml

/-- The largest number of `quote`s in a row, where `current` stand right before the text. -/
def longestRun (quote : Char) : (current : Nat) → Text → Nat
  | current, [] => current
  | current, character :: rest =>
      if character = quote then longestRun quote (current + 1) rest
      else max current (longestRun quote 0 rest)

/-- A control character that has to be escaped, which the newline need not between three quotes. -/
def isControl (character : Char) : Bool :=
  !isPlainChar character && character ≠ '\n'

/-- The digits of a control character. -/
def hexFour (number : Nat) : Text :=
  let digits := (Nat.toDigits 16 number).map Char.toUpper
  List.replicate (4 - digits.length) '0' ++ digits

/-- How a character is written between double quotes, apart from double quotes themselves. -/
def escapedForm (multiline : Bool) (character : Char) : Text :=
  match character with
  | '\x08' => ['\\', 'b']
  | '\t' => ['\\', 't']
  | '\n' => if multiline then ['\n'] else ['\\', 'n']
  | '\x0c' => ['\\', 'f']
  | '\r' => ['\\', 'r']
  | '\\' => ['\\', '\\']
  | _ => if isPlainChar character then [character] else ['\\', 'u'] ++ hexFour character.toNat

/-- The text with escapes, where at most two double quotes in a row stand for themselves if it may go over several
lines, and none otherwise. `row` quotes stand right before it. -/
def escapedText (multiline : Bool) : (row : Nat) → Text → Text
  | _, [] => []
  | row, character :: rest =>
      if character = '"' then
        if row < (if multiline then 2 else 0) then '"' :: escapedText multiline (row + 1) rest
        else '\\' :: '"' :: escapedText multiline 0 rest
      else escapedForm multiline character ++ escapedText multiline 0 rest

/-- A text between quotes, behind a newline if it has several lines and may have them. -/
def between (quotes : Text) (content text : Text) : Text :=
  let opening := if quotes.length = 3 && decide ('\n' ∈ text) then ['\n'] else []
  quotes ++ opening ++ content ++ quotes

/-- Between double quotes on one line. -/
def basicText (text : Text) : Text :=
  between ['"'] (escapedText false 0 text) text

/-- Between single quotes on one line. -/
def literalText (text : Text) : Text :=
  between ['\x27'] text text

/-- Between three double quotes. -/
def longBasicText (text : Text) : Text :=
  between ['"', '"', '"'] (escapedText true 0 text) text

/-- Between three single quotes. -/
def longLiteralText (text : Text) : Text :=
  between ['\x27', '\x27', '\x27'] text text

/-- A text as a value. -/
def writeText (text : Text) : Text :=
  let controls := text.any isControl
  let newline := decide ('\n' ∈ text)
  let backslash := decide ('\\' ∈ text)
  let double := longestRun '"' 0 text
  let single := longestRun '\x27' 0 text
  if !controls && !backslash && double = 0 && !newline then basicText text
  else if !controls && single = 0 && !newline then literalText text
  else if !controls && !backslash && double ≤ 2 then longBasicText text
  else if !controls && single ≤ 2 then longLiteralText text
  else if newline then longBasicText text
  else basicText text

/-- A text as a key. -/
def writeKey (text : Text) : Text :=
  let controls := text.any fun character => !isPlainChar character
  if !text.isEmpty && text.all isBareChar then text
  else if !controls && decide ('\\' ∉ text) && decide ('"' ∉ text) then basicText text
  else if !controls && decide ('\x27' ∉ text) then literalText text
  else basicText text

/-- A line with a key and a value. -/
def writePair (key value : String) : Text :=
  writeKey key.toList ++ [' ', '=', ' '] ++ writeText value.toList ++ ['\n']

end ThemedViews.Toml
