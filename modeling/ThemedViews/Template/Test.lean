import ThemedViews.Template.Failure

/-!
# Tests

A test asks something of the value of a path, which may be undefined, with arguments in order. Only `matching`, which
takes a regular expression, is left out: it fails as unknown names do.
-/

namespace ThemedViews.Template

abbrev Test := Option Value → List Value → Except Reason Bool

namespace Test

/-- A test with at most `most` arguments. -/
def taking (name : String) (most : Nat) (test : Test) : Test := fun value arguments =>
  if arguments.length ≤ most then test value arguments
  else if most = 0 then throw (.testWithoutArguments name)
  else throw (.testArguments name arguments.length most)

def defined (name : String) (test : Value → List Value → Except Reason Bool) : Test := fun value arguments =>
  match value with
  | some value => test value arguments
  | none => throw (.testOnUndefined name)

/-- A test without arguments on defined values. -/
def asking (name : String) (question : Value → Except Reason Bool) : Test :=
  taking name 0 (defined name fun value _ => question value)

/-- A value as a number. -/
def numberOf (name what : String) : Option Value → Except Reason Float
  | some (.number amount) => pure amount.toFloat
  | _ => throw (.testOn name what "number")

/-- A value as a text. -/
def textOf (name what : String) : Option Value → Except Reason Text
  | some (.text content) => pure content.toList
  | _ => throw (.testOn name what "string")

def isOdd (value : Value) : Except Reason Bool := do
  return Decimal.floatRemainder (← numberOf "odd" "on a variable" (some value)) 2 != 0

/-- A test of a text with another one. -/
def relating (name : String) (related : (text part : Text) → Bool) : Test :=
  taking name 1 (defined name fun value arguments => do
    let text ← textOf name "on a variable" (some value)
    let part ← textOf name "with a parameter" arguments.head?
    return related text part)

def named? : String → Option Test
  | "defined" => some (taking "defined" 0 fun value _ => pure value.isSome)
  | "undefined" => some (taking "undefined" 0 fun value _ => pure value.isNone)
  | "string" => some (asking "string" fun value => match value with
      | .text _ => pure true
      | _ => pure false)
  | "number" => some (asking "number" fun value => match value with
      | .number _ => pure true
      | _ => pure false)
  | "iterable" => some (asking "iterable" fun value => match value with
      | .list _ | .object _ => pure true
      | _ => pure false)
  | "object" => some (asking "object" fun value => match value with
      | .object _ => pure true
      | _ => pure false)
  | "odd" => some (asking "odd" isOdd)
  | "even" => some (asking "even" fun value => Bool.not <$> isOdd value)
  | "divisibleby" => some (taking "divisibleby" 1 (defined "divisibleby" fun value arguments => do
      let dividend ← numberOf "divisibleby" "on a variable" (some value)
      let divisor ← numberOf "divisibleby" "with a parameter" arguments.head?
      return Decimal.floatRemainder dividend divisor == 0))
  | "starting_with" => some (relating "starting_with" fun text part => part.isPrefixOf text)
  | "ending_with" => some (relating "ending_with" fun text part => part.isSuffixOf text)
  | "containing" => some (taking "containing" 1 (defined "containing" fun value arguments =>
      match value with
      | .text content => do
          return Text.contains (← textOf "containing" "with a parameter" arguments.head?) content.toList
      | .list items => pure (items.any fun item => arguments.head?.any item.same)
      | .object entries => do
          let key ← textOf "containing" "with a parameter" arguments.head?
          return Table.contains (String.ofList key) entries
      | _ => throw .containingOther))
  | _ => none

end Test

end ThemedViews.Template
