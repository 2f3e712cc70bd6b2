import ThemedViews.Toml.Quoted

/-!
# Unquoted values in configuration files

Truth values, numbers, dates and times. Numbers may have underscores between digits and no leading zeros, and have to
be in range. A date, a time, or both with an offset is given with its usual spelling: a `T` between the two, seconds
even if they were left out, and no zeros at the end of a fraction.
-/

namespace ThemedViews.Toml

/-- Digits of a class with single underscores between them. -/
def isDigitRun (class_ : Char → Bool) (text : Text) : Bool :=
  (text.splitOn '_').all fun digits => !digits.isEmpty && digits.all class_

/-- A whole number without sign in decimal digits. -/
def isWhole (text : Text) : Bool :=
  isDigitRun Char.isDigit text && (text.length = 1 || text.head? ≠ some '0')

/-- The text behind a sign, and whether the sign is a minus. -/
def unsigned : Text → Bool × Text
  | '-' :: rest => (true, rest)
  | '+' :: rest => (false, rest)
  | text => (false, text)

def numberIn (base : Nat) (digits : Text) : Nat :=
  (digits.filterMap hexValue?).foldl (fun number value => number * base + value) 0

def isInRange (negative : Bool) (magnitude : Nat) : Bool :=
  if negative then magnitude ≤ Nat.pow 2 127 else magnitude < Nat.pow 2 128

/-- A whole number with digits of a class, in a base. -/
def isBased (base : Nat) (digits : Text) : Bool :=
  isDigitRun (fun digit => (hexValue? digit).any (· < base)) digits && isInRange false (numberIn base digits)

/-- Whether `digits * 10 ^ exponent` is too large for a floating number. -/
def overflows (digits : Nat) (exponent : Int) : Bool :=
  let bound := Nat.pow 2 1024 - Nat.pow 2 970
  let places : Int := (Nat.toDigits 10 digits).length + exponent
  if digits = 0 || places < 300 then false
  else if 320 < places then true
  else if 0 ≤ exponent then bound ≤ digits * Nat.pow 10 exponent.toNat
  else bound * Nat.pow 10 exponent.natAbs ≤ digits

/-- A floating number without sign: digits with a fraction or an exponent. -/
def isFloating (text : Text) : Bool :=
  let (mantissa, power) := Text.run (fun character => character ≠ 'e' && character ≠ 'E') text
  let (whole, fraction) := Text.run (· ≠ '.') mantissa
  let (powerNegative, powerDigits) := unsigned (power.drop 1)
  let exponent : Int := numberIn 10 powerDigits
  isWhole whole
    && (fraction.isEmpty || isDigitRun Char.isDigit (fraction.drop 1))
    && (power.isEmpty || isDigitRun Char.isDigit powerDigits)
    && !(fraction.isEmpty && power.isEmpty)
    && !overflows (numberIn 10 (whole ++ fraction))
      ((if powerNegative then -exponent else exponent) - (fraction.filter Char.isDigit).length)

/-- A number. -/
def isNumber (text : Text) : Bool :=
  let (negative, magnitude) := unsigned text
  (isWhole magnitude && isInRange negative (numberIn 10 magnitude))
    || isFloating magnitude
    || magnitude = "inf".toList || magnitude = "nan".toList
    || (match text with
        | '0' :: 'x' :: digits => isBased 16 digits
        | '0' :: 'o' :: digits => isBased 8 digits
        | '0' :: 'b' :: digits => isBased 2 digits
        | _ => false)

/-- A number of a fixed count of digits at the front, in its spelling, if it is in a range. -/
def field? (count least most : Nat) (text : Text) : Option (Text × Text) :=
  let digits := text.take count
  if digits.length = count && digits.all Char.isDigit && least ≤ Text.toNat digits && Text.toNat digits ≤ most then
    some (digits, text.drop count)
  else none

/-- The number of days of a month. -/
def daysIn (year month : Nat) : Nat :=
  if month = 2 then
    if year % 4 = 0 && (year % 100 ≠ 0 || year % 400 = 0) then 29 else 28
  else if month = 4 || month = 6 || month = 9 || month = 11 then 30
  else 31

def date? (text : Text) : Option (Text × Text) := do
  let (year, rest) ← field? 4 0 9999 text
  let (month, rest) ← field? 2 1 12 (← ['-'].isPrefixOf? rest)
  let (day, rest) ← field? 2 1 (daysIn (Text.toNat year) (Text.toNat month)) (← ['-'].isPrefixOf? rest)
  return (year ++ ['-'] ++ month ++ ['-'] ++ day, rest)

/-- The fraction of a second at the front, which may be missing: at most nine digits without zeros at the end. -/
def fraction? : Text → Option (Text × Text)
  | '.' :: rest =>
      let (digits, behind) := Text.run Char.isDigit rest
      let shown := Text.trimEndOf (· = '0') (digits.take 9)
      if digits.isEmpty then none else some (if shown.isEmpty then [] else '.' :: shown, behind)
  | rest => some ([], rest)

def seconds? : Text → Option (Text × Text)
  | ':' :: rest => do
      let (second, rest) ← field? 2 0 60 rest
      let (fraction, rest) ← fraction? rest
      return (second ++ fraction, rest)
  | rest => some (['0', '0'], rest)

def time? (text : Text) : Option (Text × Text) := do
  let (hour, rest) ← field? 2 0 23 text
  let (minute, rest) ← field? 2 0 59 (← [':'].isPrefixOf? rest)
  let (second, rest) ← seconds? rest
  return (hour ++ [':'] ++ minute ++ [':'] ++ second, rest)

def offset? : Text → Option (Text × Text)
  | [] => some ([], [])
  | sign :: rest =>
      if sign = 'Z' || sign = 'z' then some (['Z'], rest)
      else if sign = '+' || sign = '-' then do
        let (hour, rest) ← field? 2 0 23 rest
        let (minute, rest) ← field? 2 0 59 (← [':'].isPrefixOf? rest)
        let isZero := Text.toNat hour = 0 && Text.toNat minute = 0
        return ((if isZero then '+' else sign) :: hour ++ [':'] ++ minute, rest)
      else some ([], sign :: rest)

/-- The text behind what separates a date from a time. -/
def afterSeparator? : Text → Option Text
  | 'T' :: rest => some rest
  | 't' :: rest => some rest
  | ' ' :: digit :: rest => if digit.isDigit then some (digit :: rest) else none
  | _ => none

/-- A date, a time, or both at the front, in their usual spelling, and what is left. -/
def moment? (text : Text) : Option (Text × Text) :=
  match date? text with
  | none => time? text
  | some (date, rest) =>
      match afterSeparator? rest with
      | none => some (date, rest)
      | some behind => do
          let (time, rest) ← time? behind
          let (offset, rest) ← offset? rest
          return (date ++ ['T'] ++ time ++ offset, rest)

/-- A character of an unquoted value. -/
def isValueChar (character : Char) : Bool :=
  isPlainChar character && !isBlank character && !"#,]\x7d".toList.contains character

end ThemedViews.Toml
