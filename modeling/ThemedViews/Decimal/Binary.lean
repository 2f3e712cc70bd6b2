/-!
# Floating numbers as exact fractions

A finite floating number is a sign, a whole significand and a power of two. The parts are read off its bits, so
that digits, remainders and roundings are computed on whole numbers.
-/

namespace ThemedViews.Decimal

/-- The number `± significand · 2 ^ exponent`. -/
structure Binary where
  negative : Bool
  significand : Nat
  exponent : Int
  deriving Repr, DecidableEq

namespace Binary

/-- The least significand of numbers with a full set of digits. -/
def hiddenBit : Nat := Nat.pow 2 52

/-- The exponent of the smallest numbers. -/
def leastExponent : Int := -1074

/-- The exact value of a finite floating number; of others only the sign is meant. -/
def ofFloat (value : Float) : Binary :=
  let bits := value.toBits.toNat
  let field := bits / hiddenBit % 2048
  let fraction := bits % hiddenBit
  { negative := bits / Nat.pow 2 63 = 1
    significand := if field = 0 then fraction else hiddenBit + fraction
    exponent := if field = 0 then leastExponent else leastExponent + ((field - 1 : Nat) : Int) }

/-- The floating number with this value, for a significand below `2 ^ 53`. -/
def toFloat (value : Binary) : Float :=
  let magnitude := (Float.ofNat value.significand).scaleB value.exponent
  if value.negative then -magnitude else magnitude

/-- The number times `2 ^ (-least)`, for an exponent that is not below `least`. -/
def scaled (value : Binary) (least : Int) : Nat :=
  value.significand * Nat.pow 2 (value.exponent - least).toNat

/-- The remainder of the division of two magnitudes, with the sign of the first. -/
def remainder (left right : Binary) : Binary :=
  let least := min left.exponent right.exponent
  { negative := left.negative, significand := left.scaled least % right.scaled least, exponent := least }

def fraction (value : Binary) : Nat × Nat :=
  (value.significand * Nat.pow 2 value.exponent.toNat, Nat.pow 2 (-value.exponent).toNat)

end Binary

/-- The remainder of a division with a whole quotient rounded toward zero, with the sign of the dividend. -/
def floatRemainder (left right : Float) : Float :=
  if left.isNaN || right.isNaN || left.isInf || right == 0 then 0.0 / 0.0
  else if right.isInf then left
  else ((Binary.ofFloat left).remainder (Binary.ofFloat right)).toFloat

end ThemedViews.Decimal
