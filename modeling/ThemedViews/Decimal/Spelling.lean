import ThemedViews.Text.Basic

/-!
# Numbers that are spelled

A floating number may be spelled with a sign, with a point and with an exponent, or as a word; a whole number in any
base up to that of all digits and letters.
-/

namespace ThemedViews.Decimal

/-- The sign in front of a text, and the text behind it. -/
def splitSign : Text → Bool × Text
  | '-' :: rest => (true, rest)
  | '+' :: rest => (false, rest)
  | text => (false, text)

/-- The exponent behind its letter, or none where nothing stands. -/
def exponent? : Text → Option Int
  | [] => some 0
  | letter :: rest =>
      let (negative, digits) := splitSign rest
      if (letter = 'e' || letter = 'E') && !digits.isEmpty && digits.all Char.isDigit then
        some (if negative then -(Text.toNat digits : Int) else Text.toNat digits)
      else none

/-- The number `digits · 10 ^ exponent`. Where it is far too large or too small, the digits need not be computed. -/
def scientific (digits : Nat) (exponent : Int) : Float :=
  let places := exponent + (toString digits).length
  if digits = 0 || places < -400 then 0
  else if 400 < places then 1.0 / 0.0
  else Float.ofScientific digits (exponent < 0) exponent.natAbs

/-- The magnitude of a floating number. -/
def magnitude? (text : Text) : Option Float :=
  let word := text.map Char.toLower
  if word = "inf".toList || word = "infinity".toList then some (1.0 / 0.0)
  else if word = "nan".toList then some (0.0 / 0.0)
  else
    let (whole, behind) := Text.run Char.isDigit text
    let (fraction, behind) := match behind with
      | '.' :: rest => Text.run Char.isDigit rest
      | _ => ([], behind)
    if whole.isEmpty && fraction.isEmpty then none
    else (exponent? behind).map fun exponent =>
      scientific (Text.toNat (whole ++ fraction)) (exponent - fraction.length)

/-- The floating number that a text spells. -/
def ofText? (text : Text) : Option Float :=
  let (negative, rest) := splitSign text
  (magnitude? rest).map fun magnitude => if negative then -magnitude else magnitude

/-- The value of a digit or a letter. -/
def digitValue (digit : Char) : Nat :=
  if digit.isDigit then digit.toNat - '0'.toNat else digit.toLower.toNat - 'a'.toNat + 10

/-- The whole number that a text spells in a base, if it is a signed word. -/
def wholeIn? (base : Nat) (text : Text) : Option Int :=
  let (negative, digits) := splitSign text
  let isDigit (digit : Char) : Bool := digit.isAlphanum && digitValue digit < base
  let magnitude := digits.foldl (fun number digit => number * base + digitValue digit) 0
  let value : Int := if negative then -(magnitude : Int) else magnitude
  if !digits.isEmpty && digits.all isDigit && Word.isSigned value then some value else none

end ThemedViews.Decimal
