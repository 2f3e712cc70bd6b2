import ThemedViews.Table
import ThemedViews.Word

/-!
# Data values

The data of a template: null, truth values, numbers, texts, lists and objects. A whole number from `-2 ^ 63` up to
`2 ^ 64 - 1` stays whole, and a number written with a point or an exponent is a floating number; the two kinds are
never equal. Objects list their entries in the order of the keys.
-/

namespace ThemedViews

inductive Number where
  | int (value : Int)
  | float (value : Float)

namespace Number

/-- The nearest floating number. -/
def toFloat : Number → Float
  | int value => if 0 ≤ value then (UInt64.ofNat value.toNat).toFloat else (Int64.ofInt value).toFloat
  | float value => value

/-- The number as a whole number in the range of signed machine words. -/
def toSigned? : Number → Option Int
  | int value => if Word.isSigned value then some value else none
  | float _ => none

/-- The number as a whole number in the range of unsigned machine words. -/
def toUnsigned? : Number → Option Nat
  | int value => if 0 ≤ value then some value.toNat else none
  | float _ => none

/-- Equality of numbers of one kind. -/
def same : Number → Number → Bool
  | int left, int right => left == right
  | float left, float right => left == right
  | _, _ => false

end Number

inductive Value where
  | null
  | bool (truth : Bool)
  | number (number : Number)
  | text (text : String)
  | list (items : List Value)
  | object (entries : List (String × Value))
  deriving Inhabited

/-- The names that a template can use, with their values. -/
abbrev Scope := Table Value

namespace Value

/-- The whole number `value`. -/
def ofInt (value : Int) : Value :=
  number (.int value)

mutual

/-- Equality of values. -/
def same : Value → Value → Bool
  | null, null => true
  | bool left, bool right => left == right
  | number left, number right => left.same right
  | text left, text right => left == right
  | list left, list right => sameItems left right
  | object left, object right => sameEntries left right
  | _, _ => false

/-- Equality of lists, item by item. -/
def sameItems : List Value → List Value → Bool
  | [], [] => true
  | left :: lefts, right :: rights => same left right && sameItems lefts rights
  | _, _ => false

/-- Equality of objects, entry by entry. -/
def sameEntries : List (String × Value) → List (String × Value) → Bool
  | [], [] => true
  | (leftKey, left) :: lefts, (rightKey, right) :: rights =>
      leftKey == rightKey && same left right && sameEntries lefts rights
  | _, _ => false

end

/-- What counts as true in a condition: everything but zero, false, null and what is empty. -/
def isTruthy : Value → Bool
  | null => false
  | bool truth => truth
  | number (.int value) => value != 0
  | number (.float value) => !(value == 0 || value.isNaN)
  | text content => !content.isEmpty
  | list items => !items.isEmpty
  | object entries => !entries.isEmpty

def entries : Value → Scope
  | object entries => entries
  | _ => []

/-- The object or list item under one step of a path. -/
def child? (step : String) : Value → Option Value
  | object entries => entries.lookup step
  | list items => do
      let position ← index? step.toList
      items[position]?
  | _ => none
where
  /-- The position that a step of digits without a leading zero denotes. -/
  index? (digits : List Char) : Option Nat :=
    if digits.isEmpty || !digits.all Char.isDigit || (digits.head? == some '0' && digits.length != 1) then none
    else some (digits.foldl (fun number digit => number * 10 + (digit.toNat - '0'.toNat)) 0)

end Value

end ThemedViews
