import ThemedViews.Text.Basic

/-!
# Quoted texts in configuration files

There are four kinds of quoted texts. Between double quotes a backslash begins an escape, between single quotes
every character stands for itself. A text between three quotes may go over several lines, and a line ending right
behind the opening quotes does not belong to it. Control characters other than the tab never stand for themselves.
-/

namespace ThemedViews.Toml

/-- A blank inside of a line. -/
def isBlank (character : Char) : Bool :=
  character = ' ' || character = '\t'

/-- A character that may stand for itself inside of a line. -/
def isPlainChar (character : Char) : Bool :=
  character = '\t' || (0x20 ≤ character.toNat && character.toNat ≠ 0x7f)

/-- The text behind the blanks at its front. -/
def afterBlanks (text : Text) : Text :=
  text.dropWhile isBlank

/-- The text behind a line ending. -/
def afterLineEnding? : Text → Option Text
  | '\n' :: rest => some rest
  | '\r' :: '\n' :: rest => some rest
  | _ => none

/-- The value of a hexadecimal digit. -/
def hexValue? (digit : Char) : Option Nat :=
  if digit.isDigit then some (digit.toNat - '0'.toNat)
  else if 'a' ≤ digit && digit ≤ 'f' then some (digit.toNat - 'a'.toNat + 10)
  else if 'A' ≤ digit && digit ≤ 'F' then some (digit.toNat - 'A'.toNat + 10)
  else none

/-- The character with a hexadecimal number. -/
def ofHex? (digits : List Char) : Option Char := do
  let values ← digits.mapM hexValue?
  let number := values.foldl (fun number value => number * 16 + value) 0
  if number.isValidChar then some (Char.ofNat number) else none

/-- The character that a backslash and a letter stand for. -/
def escaped? : Char → Option Char
  | 'b' => some '\x08'
  | 't' => some '\t'
  | 'n' => some '\n'
  | 'f' => some '\x0c'
  | 'r' => some '\r'
  | 'e' => some '\x1b'
  | '"' => some '"'
  | '\\' => some '\\'
  | _ => none

/-- How many hexadecimal digits follow a letter behind a backslash. -/
def hexDigits : Char → Nat
  | 'x' => 2
  | 'u' => 4
  | 'U' => 8
  | _ => 0

/-- The character of the escape whose text behind the backslash begins here, and the length of that text. -/
def escape? : Text → Option (Char × Nat)
  | [] => none
  | letter :: rest =>
      let digits := hexDigits letter
      if digits = 0 then (escaped? letter).map fun character => (character, 1)
      else if rest.length < digits then none
      else (ofHex? (rest.take digits)).map fun character => (character, digits + 1)

/-- A character in front of a text that has been read. -/
def pushed (character : Char) (read : Option (Text × Text)) : Option (Text × Text) :=
  read.map fun (content, rest) => (character :: content, rest)

/-- What follows a quote that may close a text: nothing more on a single line, otherwise two more of them. Up to two
further ones still belong to the text; they are given with what is left. -/
def closed? (multiline : Bool) (quote : Char) (rest : Text) : Option (Text × Text) :=
  if multiline then do
    let behind ← [quote, quote].isPrefixOf? rest
    let quotes := (behind.takeWhile (· = quote)).take 2
    return (quotes, behind.drop quotes.length)
  else some ([], rest)

/-- A character that may stand for itself in a text. A carriage return has to be followed by a newline. -/
def standsFor (multiline : Bool) (character : Char) (rest : Text) : Bool :=
  isPlainChar character
    || (multiline && (character = '\n' || (character = '\r' && rest.head? = some '\n')))

/-- Whether blanks and line endings behind a backslash are left out: only blanks may follow it on its line. -/
def endsLine (rest : Text) : Bool :=
  (afterLineEnding? (afterBlanks rest)).isSome

/-- The content up to the closing double quotes, and the text behind them. The first `passed` characters belong to
what was read before. While `skipping`, blanks and line endings are left out. -/
def readBasic (multiline : Bool) : (passed : Nat) → (skipping : Bool) → Text → Option (Text × Text)
  | _, _, [] => none
  | passed + 1, skipping, _ :: rest => readBasic multiline passed skipping rest
  | 0, skipping, character :: rest =>
      if character = '"' then
        match closed? multiline '"' rest with
        | some found => some found
        | none => pushed '"' (readBasic multiline 0 false rest)
      else if character = '\\' then
        match escape? rest with
        | some (meant, length) => pushed meant (readBasic multiline length false rest)
        | none => if multiline && endsLine rest then readBasic multiline 0 true rest else none
      else if !standsFor multiline character rest then none
      else if skipping && (isBlank character || !isPlainChar character) then readBasic multiline 0 true rest
      else pushed character (readBasic multiline 0 false rest)

/-- The content up to the closing single quotes, and the text behind them. -/
def readLiteral (multiline : Bool) : Text → Option (Text × Text)
  | [] => none
  | character :: rest =>
      if character = '\x27' then
        match closed? multiline '\x27' rest with
        | some found => some found
        | none => pushed '\x27' (readLiteral multiline rest)
      else if standsFor multiline character rest then pushed character (readLiteral multiline rest)
      else none

def withoutLineEnding (text : Text) : Text :=
  (afterLineEnding? text).getD text

def quoted? : Text → Option (Text × Text)
  | '"' :: '"' :: '"' :: rest => readBasic true 0 false (withoutLineEnding rest)
  | '"' :: rest => readBasic false 0 false rest
  | '\x27' :: '\x27' :: '\x27' :: rest => readLiteral true (withoutLineEnding rest)
  | '\x27' :: rest => readLiteral false rest
  | _ => none

def quotedLine? : Text → Option (Text × Text)
  | '"' :: '"' :: '"' :: _ => none
  | '\x27' :: '\x27' :: '\x27' :: _ => none
  | text => quoted? text

end ThemedViews.Toml
