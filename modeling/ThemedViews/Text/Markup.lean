import ThemedViews.Text.Basic
import ThemedViews.Text.Case

/-!
# Texts for pages

What filters make of texts that are to stand in a page: words that begin with a capital, texts without tags, without
space between them or with a margin, and bytes behind percent signs.
-/

namespace ThemedViews.Text

/-- Recognises a word: it begins with a character of words, and apostrophes may stand within it. -/
def wordWithin : Text → Option (Text × Nat)
  | [] => none
  | first :: rest =>
      if isWordChar first then
        let word := trimEndOf (· = '\x27') (first :: rest.takeWhile fun next => isWordChar next || next = '\x27')
        some (word, word.length)
      else none

/-- The text with each of its words capitalized. -/
def titled (text : Text) : Text :=
  (cut wordWithin text).fill capitalized

/-- Recognises a comment on one line, or a tag. -/
def tagOrComment : Text → Option (Unit × Nat)
  | '<' :: rest =>
      let comment := do
        let inside ← "!--".toList.isPrefixOf? rest
        let (before, _) ← splitOnce? "-->".toList (inside.takeWhile (· ≠ '\n'))
        return ((), before.length + 7)
      comment.or <| (splitOnce? ['>'] rest).map fun (before, _) => ((), before.length + 2)
  | _ => none

def withoutTags (text : Text) : Text :=
  (cut tagOrComment text).fill fun _ => []

/-- Recognises the blanks between two tags, with the braces around them. -/
def gapOfTags : Text → Option (Unit × Nat)
  | '>' :: rest =>
      let (blanks, behind) := run isBlank rest
      if !blanks.isEmpty && behind.head? = some '<' then some ((), blanks.length + 2) else none
  | _ => none

/-- The text without blanks between tags. -/
def withoutGaps (text : Text) : Text :=
  (cut gapOfTags text).fill fun _ => ['>', '<']

/-- The lines of a text behind a margin: the first one if asked for, and blank ones if asked for. -/
def withMargin (margin : Text) (first blank : Bool) (text : Text) : Text :=
  match lines text with
  | [] => []
  | line :: rest =>
      (if first then margin else []) ++ line ++ rest.flatMap fun line =>
        '\n' :: (if blank || line.any (!isBlank ·) then margin else []) ++ line

/-- Each line ending, and each newline that is left, as a line break of a page. -/
def withBreaks (text : Text) : Text :=
  replace ['\n'] "<br>".toList (replace ['\r', '\n'] "<br>".toList text)

/-- Backslashes before backslashes and quotes. -/
def withSlashes (text : Text) : Text :=
  text.flatMap fun character =>
    if character = '\\' || character = '"' || character = '\x27' then ['\\', character] else [character]

def percentByte (byte : UInt8) : Text :=
  let digit (value : Nat) : Char := (Nat.digitChar value).toUpper
  ['%', digit (byte.toNat / 16), digit (byte.toNat % 16)]

/-- The text with the bytes of all characters but those that are kept behind percent signs. -/
def percentEncoded (kept : Char → Bool) (text : Text) : Text :=
  text.flatMap fun character =>
    if kept character then [character] else (String.utf8EncodeChar character).flatMap percentByte

/-- The text without what it begins with, as often as it does; at most `limit` times. -/
def withoutLeading (needle : Text) : (limit : Nat) → Text → Text
  | 0, text => text
  | limit + 1, text =>
      match needle.isPrefixOf? text with
      | some rest => withoutLeading needle limit rest
      | none => text

/-- The text without any `needle` in front. -/
def trimStartMatches (needle text : Text) : Text :=
  withoutLeading needle text.length text

/-- The text without any `needle` at the end. -/
def trimEndMatches (needle text : Text) : Text :=
  (trimStartMatches needle.reverse text.reverse).reverse

end ThemedViews.Text
