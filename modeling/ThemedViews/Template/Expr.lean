import ThemedViews.Value.Printer

/-!
# Expressions of templates

What stands in tags: literals, paths to data, arithmetic, comparisons, tests, calls of functions and macros. Each
expression may be negated and piped through filters. Some errors show an expression with the kinds of its parts
spelled out.
-/

namespace ThemedViews.Template

/-- The operators of arithmetic. -/
inductive MathOperator where
  | plus | minus | times | slash | modulo
  deriving Repr, DecidableEq

/-- The operators that give truth values. -/
inductive LogicOperator where
  | greater | greaterEqual | less | lessEqual | equal | unequal | and | or
  deriving Repr, DecidableEq

mutual

/-- An operand, negated or not, with the filters applied to it. -/
inductive Expr where
  | mk (operand : Operand) (negated : Bool) (filters : List Call)

/-- What an expression is made of, filters apart. -/
inductive Operand where
  | string (text : String)
  | int (value : Int)
  | float (value : Float)
  | bool (truth : Bool)
  | path (path : String)
  | math (operator : MathOperator) (left right : Expr)
  | logic (operator : LogicOperator) (left right : Expr)
  | test (path : String) (negated : Bool) (name : String) (arguments : List Expr)
  | macroCall (space name : String) (arguments : List (String × Expr))
  | call (call : Call)
  | list (items : List Expr)
  | joined (parts : List Operand)
  | membership (left right : Expr) (negated : Bool)

inductive Call where
  | mk (name : String) (arguments : List (String × Expr))

end

namespace Expr

def plain (operand : Operand) : Expr :=
  mk operand false []

def operand : Expr → Operand
  | mk operand _ _ => operand

def negated : Expr → Bool
  | mk _ negated _ => negated

def filters : Expr → List Call
  | mk _ _ filters => filters

/-- The same expression, negated or not. -/
def withNegation (negated : Bool) : Expr → Expr
  | mk operand _ filters => mk operand negated filters

end Expr

namespace Call

def name : Call → String
  | mk name _ => name

def arguments : Call → List (String × Expr)
  | mk _ arguments => arguments

end Call

def MathOperator.sign : MathOperator → String
  | plus => "+"
  | minus => "-"
  | times => "x"
  | slash => "/"
  | modulo => "%"

def MathOperator.spelled : MathOperator → String
  | plus => "Add"
  | minus => "Sub"
  | times => "Mul"
  | slash => "Div"
  | modulo => "Modulo"

def LogicOperator.spelled : LogicOperator → String
  | greater => "Gt"
  | greaterEqual => "Gte"
  | less => "Lt"
  | lessEqual => "Lte"
  | equal => "Eq"
  | unequal => "NotEq"
  | and => "And"
  | or => "Or"

def truthWord (truth : Bool) : String :=
  if truth then "true" else "false"

mutual

/-- The expression with the kinds of its parts. -/
def Expr.spelled : Expr → String
  | .mk operand negated filters =>
      "Expr \x7b val: " ++ operand.spelled ++ ", negated: " ++ truthWord negated ++ ", filters: ["
        ++ spelledCalls "" filters ++ "] \x7d"

/-- The operand with the kinds of its parts. -/
def Operand.spelled : Operand → String
  | .string text => "String(" ++ Value.quotedText text ++ ")"
  | .int value => "Int(" ++ toString value ++ ")"
  | .float value => "Float(" ++ Decimal.Style.code.text value ++ ")"
  | .bool truth => "Bool(" ++ truthWord truth ++ ")"
  | .path path => "Ident(" ++ Value.quotedText path ++ ")"
  | .math operator left right =>
      "Math(MathExpr \x7b lhs: " ++ left.spelled ++ ", rhs: " ++ right.spelled ++ ", operator: "
        ++ operator.spelled ++ " \x7d)"
  | .logic operator left right =>
      "Logic(LogicExpr \x7b lhs: " ++ left.spelled ++ ", rhs: " ++ right.spelled ++ ", operator: "
        ++ operator.spelled ++ " \x7d)"
  | .test path negated name arguments =>
      "Test(Test \x7b ident: " ++ Value.quotedText path ++ ", negated: " ++ truthWord negated ++ ", name: "
        ++ Value.quotedText name ++ ", args: [" ++ spelledExprs "" arguments ++ "] \x7d)"
  | .macroCall space name arguments =>
      "MacroCall(MacroCall \x7b namespace: " ++ Value.quotedText space ++ ", name: " ++ Value.quotedText name
        ++ ", args: \x7b" ++ spelledArguments "" arguments ++ "\x7d \x7d)"
  | .call call => "FunctionCall(" ++ call.spelled ++ ")"
  | .list items => "Array([" ++ spelledExprs "" items ++ "])"
  | .joined parts => "StringConcat(StringConcat \x7b values: [" ++ spelledOperands "" parts ++ "] \x7d)"
  | .membership left right negated =>
      "In(In \x7b lhs: " ++ left.spelled ++ ", rhs: " ++ right.spelled ++ ", negated: " ++ truthWord negated
        ++ " \x7d)"

/-- The call with the kinds of its parts. -/
def Call.spelled : Call → String
  | .mk name arguments =>
      "FunctionCall \x7b name: " ++ Value.quotedText name ++ ", args: \x7b" ++ spelledArguments "" arguments
        ++ "\x7d \x7d"

/-- Calls, the first behind `separator`. -/
def spelledCalls (separator : String) : List Call → String
  | [] => ""
  | call :: rest => separator ++ call.spelled ++ spelledCalls ", " rest

/-- Expressions, the first behind `separator`. -/
def spelledExprs (separator : String) : List Expr → String
  | [] => ""
  | expr :: rest => separator ++ expr.spelled ++ spelledExprs ", " rest

/-- Operands, the first behind `separator`. -/
def spelledOperands (separator : String) : List Operand → String
  | [] => ""
  | operand :: rest => separator ++ operand.spelled ++ spelledOperands ", " rest

/-- Named arguments, the first behind `separator`. -/
def spelledArguments (separator : String) : List (String × Expr) → String
  | [] => ""
  | (name, expr) :: rest =>
      separator ++ Value.quotedText name ++ ": " ++ expr.spelled ++ spelledArguments ", " rest

end

end ThemedViews.Template
