/-!
# Machine words

Whole numbers of data and of templates are words of 64 bits, signed or unsigned.
-/

namespace ThemedViews.Word

/-- One more than the largest signed word. -/
def signedLimit : Nat :=
  Nat.pow 2 63

/-- One more than the largest unsigned word. -/
def unsignedLimit : Nat :=
  Nat.pow 2 64

def isSigned (value : Int) : Bool :=
  -(signedLimit : Int) ≤ value && value < signedLimit

def isUnsigned (value : Int) : Bool :=
  0 ≤ value && value < unsignedLimit

/-- The sum of two unsigned words, if it is one. -/
def sum? (left right : Nat) : Option Nat :=
  if left + right < unsignedLimit then some (left + right) else none

end ThemedViews.Word
