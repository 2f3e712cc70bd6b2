import ThemedViews.Decimal.Binary
import ThemedViews.Template.Failure

/-!
# Arithmetic in templates

Two whole numbers that fit signed machine words are computed as such, two that fit unsigned ones likewise, and all
others as floating numbers. A whole result that does not fit is an error; a floating result that is no number, or
infinite, is no result. Division is always floating, but a whole quotient becomes a whole number again.
-/

namespace ThemedViews.Template

def finite? (value : Float) : Option Number :=
  if value.isFinite then some (.float value) else none

/-- The quotient of two floating numbers. A whole quotient becomes the nearest signed machine word. -/
def quotient? (left right : Float) : Option Number :=
  let value := left / right
  if value.isFinite && value.round == value then some (.int value.toInt64.toInt) else finite? value

namespace MathOperator

/-- The result on whole numbers, for all operators but division. -/
def onInts (operator : MathOperator) (left right : Int) : Int :=
  match operator with
  | plus => left + right
  | minus => left - right
  | times => left * right
  | slash => Int.tdiv left right
  | modulo => Int.tmod left right

def onFloats? (operator : MathOperator) (left right : Float) : Option Number :=
  match operator with
  | plus => finite? (left + right)
  | minus => finite? (left - right)
  | times => finite? (left * right)
  | slash => quotient? left right
  | modulo => finite? (Decimal.floatRemainder left right)

def onWords (operator : MathOperator) (left right : Int) (signed : Bool) : Except Reason (Option Number) :=
  let value := operator.onInts left right
  let fits := if signed then Word.isSigned value else Word.isUnsigned value
  if fits then pure (some (.int value)) else throw (.overflow operator left right signed)

/-- The result on two numbers. The operands are shown in the error of a remainder by zero. -/
def apply (operator : MathOperator) (left right : Number) (shown : Expr × Expr) :
    Except Reason (Option Number) :=
  let words : Option (Int × Int × Bool) :=
    match left.toSigned?, right.toSigned?, left.toUnsigned?, right.toUnsigned? with
    | some left, some right, _, _ => some (left, right, true)
    | _, _, some left, some right => some (left, right, false)
    | _, _, _, _ => none
  match words with
  | some (leftWord, rightWord, signed) =>
      if operator = .slash then pure (quotient? left.toFloat right.toFloat)
      else if operator = .modulo && rightWord = 0 then
        throw (.zeroModulo shown.1.spelled shown.2.spelled)
      else operator.onWords leftWord rightWord signed
  | none => pure (operator.onFloats? left.toFloat right.toFloat)

end MathOperator

end ThemedViews.Template
