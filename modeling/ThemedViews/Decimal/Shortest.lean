import ThemedViews.Decimal.Binary

/-!
# The shortest decimal that reads back

Every finite floating number stands for an interval of reals that round to it, its ends included if the
significand is even. Among the decimals in that interval the one with the fewest digits is written, and of
several with as few digits the nearest. It suffices to test, for each number of digits, the two neighbours of the
exact value on the grid of decimals with that many digits.
-/

namespace ThemedViews.Decimal

/-- The number `digits · 10 ^ exponent`. -/
structure Scaled where
  digits : Nat
  exponent : Int
  deriving Repr, DecidableEq

/-- The number of decimal digits of a whole number. -/
def digitCount (number : Nat) : Nat :=
  (Nat.toDigits 10 number).length

/-- The exponent `k` with `10 ^ (k - 1) ≤ numerator / denominator < 10 ^ k`. -/
def magnitude (numerator denominator : Nat) : Int :=
  let guess : Int := digitCount numerator - digitCount denominator
  if denominator * Nat.pow 10 guess.toNat ≤ numerator * Nat.pow 10 (-guess).toNat then guess + 1 else guess

/-- The reals that round to a number, in units of a quarter of its last binary digit: both ends, the number, and
the unit as a fraction. -/
structure Rounding where
  low : Nat
  value : Nat
  high : Nat
  closed : Bool
  unit : Nat × Nat

/-- The interval of a positive number. -/
def Rounding.ofBinary (number : Binary) : Rounding :=
  let narrow := number.significand = Binary.hiddenBit && number.exponent ≠ Binary.leastExponent
  { low := 4 * number.significand - (if narrow then 1 else 2)
    value := 4 * number.significand
    high := 4 * number.significand + 2
    closed := number.significand % 2 = 0
    unit := Binary.fraction ⟨false, 1, number.exponent - 2⟩ }

/-- Whether the decimal lies in the interval. -/
def Rounding.holds (rounding : Rounding) (decimal : Scaled) : Bool :=
  let point := decimal.digits * Nat.pow 10 decimal.exponent.toNat * rounding.unit.2
  let scale := Nat.pow 10 (-decimal.exponent).toNat * rounding.unit.1
  if rounding.closed then rounding.low * scale ≤ point && point ≤ rounding.high * scale
  else rounding.low * scale < point && point < rounding.high * scale

/-- Which of two decimals that are equally near is taken. -/
inductive Tie where
  | upper
  | even
  deriving Repr, DecidableEq

/-- The decimal with a given exponent that is nearest to the number among its neighbours in the interval. -/
def Rounding.nearest? (rounding : Rounding) (tie : Tie) (exponent : Int) : Option Scaled :=
  let numerator := rounding.value * rounding.unit.1 * Nat.pow 10 (-exponent).toNat
  let denominator := rounding.unit.2 * Nat.pow 10 exponent.toNat
  let below : Scaled := ⟨numerator / denominator, exponent⟩
  let above : Scaled := ⟨numerator / denominator + 1, exponent⟩
  let twice := 2 * (numerator % denominator)
  let nearBelow := twice < denominator || (twice = denominator && tie = .even && below.digits % 2 = 0)
  match rounding.holds below, rounding.holds above with
  | true, true => some (if nearBelow then below else above)
  | true, false => some below
  | false, true => some above
  | false, false => none

def Scaled.withoutZero (decimal : Scaled) : Scaled :=
  if decimal.digits % 10 = 0 then ⟨decimal.digits / 10, decimal.exponent + 1⟩ else decimal

/-- The shortest decimal that reads back as a positive number: the first grid with a hit among those of one to
seventeen digits. Only ten as the upper neighbour of nine ends with a zero. -/
def shortest (tie : Tie) (number : Binary) : Scaled :=
  let rounding := Rounding.ofBinary number
  let whole := magnitude (rounding.value * rounding.unit.1) rounding.unit.2
  let hits := (List.range 17).findSome? fun count => rounding.nearest? tie (whole - ((count + 1 : Nat) : Int))
  (hits.getD ⟨0, 0⟩).withoutZero

/-- How decimals are written: which of two equally near ones is taken, whether positional writing is kept for a
number of places before the point, what follows the digits of whole numbers, and the sign of an exponent that is not
negative. -/
structure Style where
  tie : Tie
  positional : Int → Bool
  wholeEnding : String
  exponentSign : String

/-- Positional writing for all numbers; whole numbers have no point. -/
def Style.plain : Style :=
  ⟨.upper, fun _ => true, "", ""⟩

/-- Positional writing from `1e-5` up to sixteen places before the point, which whole numbers keep; scientific
writing beyond, with a sign on every exponent. -/
def Style.data : Style :=
  ⟨.even, fun whole => -5 < whole && whole ≤ 16, ".0", "+"⟩

/-- Positional writing from `1e-4` up to sixteen places before the point, which whole numbers keep; scientific
writing beyond. -/
def Style.code : Style :=
  ⟨.upper, fun whole => -4 < whole && whole ≤ 16, ".0", ""⟩

def zeros (count : Nat) : String :=
  String.ofList (List.replicate count '0')

/-- The text of `digits · 10 ^ exponent`, without a sign. -/
def Style.write (style : Style) (decimal : Scaled) : String :=
  let digits := Nat.toDigits 10 decimal.digits
  let whole : Int := decimal.exponent + digits.length
  if style.positional whole then
    if 0 ≤ decimal.exponent then String.ofList digits ++ zeros decimal.exponent.toNat ++ style.wholeEnding
    else if 0 < whole then
      String.ofList (digits.take whole.toNat) ++ "." ++ String.ofList (digits.drop whole.toNat)
    else "0." ++ zeros (-whole).toNat ++ String.ofList digits
  else
    let behind := if digits.length = 1 then "" else "." ++ String.ofList (digits.drop 1)
    let sign := if 1 ≤ whole then style.exponentSign else ""
    s!"{String.ofList (digits.take 1)}{behind}e{sign}{whole - 1}"

def Style.text (style : Style) (value : Float) : String :=
  if value.isNaN then "NaN"
  else
    let number := Binary.ofFloat value
    let sign := if number.negative then "-" else ""
    if value.isInf then sign ++ "inf"
    else if number.significand = 0 then sign ++ "0" ++ style.wholeEnding
    else sign ++ style.write (shortest style.tie number)

/-- The text of a number that is not negative with six digits behind the point, a half going to the even
neighbour. -/
def sixPlaces (value : Float) : String :=
  let (numerator, denominator) := (Binary.ofFloat value).fraction
  let scaled := numerator * 1000000
  let quotient := scaled / denominator
  let twice := 2 * (scaled % denominator)
  let rounded := if twice > denominator || (twice = denominator && quotient % 2 = 1) then quotient + 1 else quotient
  let places := Nat.toDigits 10 (rounded % 1000000)
  s!"{rounded / 1000000}.{zeros (6 - places.length)}{String.ofList places}"

end ThemedViews.Decimal
