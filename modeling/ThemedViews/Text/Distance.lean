import ThemedViews.Text.Basic

/-!
# Edit distance

The least number of insertions, deletions and substitutions of characters that turn one text into another,
computed row by row: the row of a text holds its distances to all beginnings of the other text.
-/

namespace ThemedViews.Text

/-- The entries of the next row behind `left`, where `diagonal` stands above `left`. -/
def nextEntries (character : Char) (left diagonal : Nat) : Text → List Nat → List Nat
  | other :: others, above :: row =>
      let entry := min (min (left + 1) (above + 1)) (diagonal + if character = other then 0 else 1)
      entry :: nextEntries character entry above others row
  | _, _ => []

/-- The row of a text from the row of the text without its last character. -/
def nextRow (target : Text) (row : List Nat) (character : Char) : List Nat :=
  match row with
  | [] => []
  | corner :: above => (corner + 1) :: nextEntries character (corner + 1) corner target above

def distance (source target : Text) : Nat :=
  (source.foldl (nextRow target) (List.range (target.length + 1))).getLast?.getD 0

example : distance "kitten".toList "sitting".toList = 3 := by decide

end ThemedViews.Text
