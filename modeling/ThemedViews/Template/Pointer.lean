import ThemedViews.Text.Basic
import ThemedViews.Value.Basic

/-!
# Pointers

A pointer names a part of a value by its steps: keys of objects and positions in lists. Dots and quotes end a step, a
dot between quotes belongs to its step, and a backslash takes away the meaning of the sign behind it. In front of a
step such signs are skipped, so there are no empty steps.

How far a step goes is counted in characters but measured in bytes. A step in which characters have several bytes is
therefore cut short, and the next one begins within it.
-/

namespace ThemedViews.Template.Pointer

/-- Which quotes are open, and whether the last character was a backslash. -/
structure Reading where
  double : Bool
  single : Bool
  escaped : Bool
  deriving Repr, DecidableEq

/-- No quotes are open. -/
def Reading.initial : Reading :=
  ⟨false, false, false⟩

def Reading.ends (reading : Reading) (character : Char) : Bool :=
  !reading.escaped &&
    (character = '"' || character = '\x27' || (character = '.' && !reading.double && !reading.single))

/-- The reading behind a character. -/
def Reading.advance (reading : Reading) (character : Char) : Reading where
  double := if character = '"' && !reading.escaped then !reading.double else reading.double
  single := if character = '\x27' && !reading.escaped then !reading.single else reading.single
  escaped := character = '\\'

/-- How many signs are skipped, and the position of the character that ends the step behind them, if there is one,
with the reading there. The characters already read are counted by `position`. -/
def findEnd (reading : Reading) (skipped position : Nat) : Text → Nat × Option (Nat × Reading)
  | [] => (skipped, none)
  | character :: rest =>
      if reading.ends character then
        if position = skipped then findEnd (reading.advance character) (skipped + 1) (position + 1) rest
        else (skipped, some (position, reading.advance character))
      else findEnd (reading.advance character) skipped (position + 1) rest

/-- The first step of a pointer, and what is read behind it. -/
def next? (reading : Reading) (pointer : Text) : Option (Text × Reading × Text) :=
  match findEnd reading 0 0 pointer with
  | (skipped, some (position, behind)) =>
      some (Text.takeBytes (position - skipped) (pointer.drop skipped), behind, Text.dropBytes (position + 1) pointer)
  | (skipped, none) =>
      if (pointer.drop skipped).isEmpty then none else some (pointer.drop skipped, reading, [])

/-- The steps of a pointer, at most `limit` of them. -/
def stepsUpTo (reading : Reading) : (limit : Nat) → Text → List Text
  | 0, _ => []
  | limit + 1, pointer =>
      match next? reading pointer with
      | none => []
      | some (step, behind, rest) => step :: stepsUpTo behind limit rest

/-- The steps of a pointer. Each of them has a character of its own, so no more are needed than the pointer has
characters. -/
def steps (pointer : Text) : List Text :=
  stepsUpTo .initial pointer.length pointer

/-- The key that a step stands for: `~1` is a slash and `~0` a tilde. -/
def key (step : Text) : String :=
  String.ofList (Text.replace "~0".toList "~".toList (Text.replace "~1".toList "/".toList step))

/-- The part of a value that a pointer names. -/
def follow? (value : Value) (pointer : Text) : Option Value :=
  ((steps pointer).map key).foldlM (fun part step => part.child? step) value

end ThemedViews.Template.Pointer
