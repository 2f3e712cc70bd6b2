import ThemedViews.Word

/-!
# Texts

Templates, outputs and everything that is read character by character is a list of characters. Reading goes
from left to right: a recogniser says whether something begins at a place and how many characters it takes,
and `cut` divides a text at the leftmost stretches that a recogniser finds. Searching, splitting and replacing
are all instances of it.
-/

namespace ThemedViews

abbrev Text := List Char

namespace Text

/-- A text divided at some stretches: each stretch with the text before it, and the text after the last. -/
structure Cut (α : Type) where
  pieces : List (Text × α)
  rest : Text
  deriving Repr, DecidableEq

namespace Cut

variable {α : Type}

/-- One more character in front. -/
def push (first : Char) : Cut α → Cut α
  | ⟨[], rest⟩ => ⟨[], first :: rest⟩
  | ⟨(before, found) :: pieces, rest⟩ => ⟨(first :: before, found) :: pieces, rest⟩

/-- One more stretch in front. -/
def pushFound (found : α) (cut : Cut α) : Cut α :=
  ⟨([], found) :: cut.pieces, cut.rest⟩

/-- The stretches, left to right. -/
def found (cut : Cut α) : List α :=
  cut.pieces.map Prod.snd

/-- The whole text, with `image` of each stretch in its place. -/
def fill (image : α → Text) (cut : Cut α) : Text :=
  cut.pieces.flatMap (fun (before, found) => before ++ image found) ++ cut.rest

def around (cut : Cut α) : List Text :=
  cut.pieces.map Prod.fst ++ [cut.rest]

end Cut

/-- Cuts a text of which the first `passed` characters belong to a stretch already found. -/
def cutAfter {α : Type} (recognise : Text → Option (α × Nat)) : (passed : Nat) → Text → Cut α
  | _, [] => ⟨[], []⟩
  | passed + 1, _ :: rest => cutAfter recognise passed rest
  | 0, first :: rest =>
      match recognise (first :: rest) with
      | some (found, length) => (cutAfter recognise (length - 1) rest).pushFound found
      | none => (cutAfter recognise 0 rest).push first

/-- Cuts a text at the leftmost stretches that `recognise` finds, each search going on behind the last one.
The recogniser answers with what it found and the number of characters it takes, at least one. -/
def cut {α : Type} (recognise : Text → Option (α × Nat)) (text : Text) : Cut α :=
  cutAfter recognise 0 text

def find? {α : Type} (recognise : Text → Option (α × Nat)) : Text → Option α
  | [] => none
  | first :: rest =>
      match recognise (first :: rest) with
      | some (found, _) => some found
      | none => find? recognise rest

/-- Recognises one given text. -/
def occurrence (needle text : Text) : Option (Unit × Nat) :=
  if needle.isPrefixOf text then some ((), needle.length) else none

/-- Whether `needle` stands somewhere in the text. -/
def contains (needle : Text) : Text → Bool
  | [] => needle.isEmpty
  | first :: rest => needle.isPrefixOf (first :: rest) || contains needle rest

/-- The text before the first `needle` and the text behind it. -/
def splitOnce? (needle : Text) : Text → Option (Text × Text)
  | [] => none
  | first :: rest =>
      match needle.isPrefixOf? (first :: rest) with
      | some behind => some ([], behind)
      | none => (splitOnce? needle rest).map fun (before, behind) => (first :: before, behind)

/-- The texts between the occurrences of `needle`; an empty needle stands between all characters and at both
ends. -/
def splitAt (needle text : Text) : List Text :=
  if needle.isEmpty then [] :: text.map (fun character => [character]) ++ [[]]
  else (cut (occurrence needle) text).around

def replace (needle image text : Text) : Text :=
  if needle.isEmpty then image ++ text.flatMap (fun character => character :: image)
  else (cut (occurrence needle) text).fill fun _ => image

/-- The text without its leading characters of a class. -/
def trimStartOf (class_ : Char → Bool) (text : Text) : Text :=
  text.dropWhile class_

/-- The text without its trailing characters of a class. -/
def trimEndOf (class_ : Char → Bool) (text : Text) : Text :=
  (text.reverse.dropWhile class_).reverse

/-- Drops one carriage return at the end of a line. -/
def withoutReturn (line : Text) : Text :=
  if line.getLast? = some '\r' then line.dropLast else line

/-- The lines of a text. A newline ends a line, and a carriage return before it belongs to the ending; the text
behind the last newline is a line only if it is not empty. -/
def lines (text : Text) : List Text :=
  let parts := text.splitOn '\n'
  parts.dropLast.map withoutReturn ++ (parts.getLast?.toList.filter fun last => !last.isEmpty)

/-- The maximal runs of characters outside a class. -/
def wordsOf (class_ : Char → Bool) (text : Text) : List Text :=
  (text.splitOnP class_).filter fun word => !word.isEmpty

/-- The longest run of a class at the front, and the text behind it. -/
def run (class_ : Char → Bool) (text : Text) : Text × Text :=
  (text.takeWhile class_, text.dropWhile class_)

/-- The number that a run of the digits `0` to `9` denotes. -/
def toNat (digits : Text) : Nat :=
  digits.foldl (fun number digit => number * 10 + (digit.toNat - '0'.toNat)) 0

/-- The number of a text of at least one digit from `0` to `9`, if it fits a machine word. -/
def toWord? (digits : Text) : Option Nat :=
  if !digits.isEmpty && digits.all Char.isDigit && toNat digits < Word.unsignedLimit then some (toNat digits) else none

/-- The characters within the first `size` bytes of a text. -/
def takeBytes (size : Nat) : Text → Text
  | [] => []
  | character :: rest =>
      if character.utf8Size ≤ size then character :: takeBytes (size - character.utf8Size) rest else []

/-- The characters behind the first `size` bytes of a text. -/
def dropBytes (size : Nat) : Text → Text
  | [] => []
  | character :: rest => if size = 0 then character :: rest else dropBytes (size - character.utf8Size) rest

/-- The number of bytes of the text in UTF-8. -/
def byteSize (text : Text) : Nat :=
  text.foldr (fun character others => character.utf8Size + others) 0

end Text

end ThemedViews
