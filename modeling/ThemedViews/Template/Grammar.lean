import ThemedViews.Template.Peg

/-!
# The grammar of templates

A template is text with tags in it. Print tags stand between double braces, statements between a brace and a
percent sign, comments between a brace and a number sign; a dash at either end takes the blanks of the text beside
it away. The rules below are tried as `Grammar.run` says.
-/

namespace ThemedViews.Template

inductive Rule where
  | int | float | doubleQuoted | singleQuoted | backQuoted | string | boolean
  | opOr | opAnd | opNot | opLte | opGte | opLt | opGt | opEq | opIneq
  | opPlus | opMinus | opTimes | opSlash | opModulo
  | ident | dottedIdent | brackets | path
  | concatenation | basicExpr | basicExprFilter | stringExprFilter
  | comparisonVal | comparisonExpr | inContainer | inCond | logicVal | logicExpr
  | array | arrayFilter | stringArray | argument | fnCall | filter
  | parameter | macroHead | macroCall | testArgument | testCall | testNot | test
  | printStart | printEnd | tagStart | tagEnd | commentStart | commentEnd
  | commentText | ignoreMissing | includeTag | commentTag | blockTag | macroTag
  | ifTag | elifTag | elseTag | forTag | filterTag | setTag | setGlobalTag
  | endBlockTag | endMacroTag | endIfTag | endForTag | endFilterTag | breakTag | continueTag
  | printTag | superTag | text | rawTag | endRawTag | rawText | raw
  | filterSection | forLoop | macroIf | blockIf | forIf | filterIf | contentIf | block | macroDefinition
  | filterContent | macroContent | blockContent | forContent | content
  | extendsTag | importTag | finish | template
  deriving Repr, DecidableEq

namespace Rule

open Peg

/-- How each rule treats its body. -/
def kind : Rule → Kind
  | int | float | doubleQuoted | singleQuoted | backQuoted | string | opOr | opAnd | opNot | ident | dottedIdent
  | brackets | path | filterContent | macroContent | blockContent | forContent | content => .atomic
  | basicExprFilter | stringExprFilter | inCond | logicVal | logicExpr | array | arrayFilter | stringArray | fnCall
  | macroHead | testCall | elseTag | endBlockTag | endMacroTag | endIfTag | endForTag | endFilterTag | breakTag
  | continueTag | printTag | superTag | rawTag | endRawTag => .spaced
  | parameter | commentText | includeTag | commentTag | blockTag | macroTag | ifTag | elifTag | forTag | filterTag
  | setTag | setGlobalTag | text | rawText | raw | filterSection | forLoop | macroIf | blockIf | forIf | filterIf
  | contentIf | block | macroDefinition | extendsTag | importTag | template => .compound
  | _ => .normal

/-- The characters that may stand between the parts of a tag. -/
def isBlank (character : Char) : Bool :=
  character = ' ' || character = '\t' || character = '\r' || character = '\n'

def blank : Peg Rule :=
  oneOf [word " ", word "\t", word "\r", word "\n"]

/-- A letter or an underscore. -/
def nameStart : Peg Rule :=
  oneOf [between 'a' 'z', between 'A' 'Z', word "_"]

/-- A letter, an underscore or a digit. -/
def nameChar : Peg Rule :=
  oneOf [between 'a' 'z', between 'A' 'Z', word "_", between '0' '9']

/-- A whole number without a leading zero. -/
def positive : List (Peg Rule) :=
  [between '1' '9', many (between '0' '9')]

/-- A point and digits. -/
def fraction : List (Peg Rule) :=
  [word ".", some (between '0' '9')]

/-- A text between two quotes of one kind. -/
def quotedBy (quote : String) : Peg Rule :=
  all [word quote, many (all [absent (word quote), any]), word quote]

/-- What can be compared and computed with. -/
def basicVal : Peg Rule :=
  oneOf [call boolean, call testNot, call test, call macroCall, call fnCall, call path, call float, call int]

/-- A value or an expression in parentheses. -/
def operand : Peg Rule :=
  oneOf [all [word "(", call basicExpr, word ")"], basicVal]

/-- The arithmetic operators. -/
def basicOp : Peg Rule :=
  oneOf [call opPlus, call opMinus, call opTimes, call opSlash, call opModulo]

/-- The operators that compare. -/
def comparisonOp : Peg Rule :=
  oneOf [call opLte, call opGte, call opGt, call opLt, call opEq, call opIneq]

def joined : Peg Rule :=
  oneOf [call fnCall, call float, call int, call string, call path]

def compared : Peg Rule :=
  oneOf [call stringExprFilter, call comparisonVal]

def assigned : Peg Rule :=
  oneOf [call logicExpr, call arrayFilter]

def arguments : Peg Rule :=
  all [call argument, many (all [word ",", call argument]), optional (word ",")]

/-- A name with arguments in parentheses. -/
def called : List (Peg Rule) :=
  [call ident, word "(", optional arguments, word ")"]

def parameters : Peg Rule :=
  all [call parameter, many (all [word ",", call parameter])]

def blanks : Peg Rule :=
  many blank

/-- At least one blank. -/
def gap : Peg Rule :=
  some blank

/-- A statement that begins with `keyword`, with `parts` behind it. -/
def statement (keyword : String) (parts : List (Peg Rule)) : Peg Rule :=
  all ([call tagStart, blanks, word keyword] ++ parts ++ [blanks, call tagEnd])

/-- A statement of one keyword. -/
def bare (keyword : String) : Peg Rule :=
  all [call tagStart, word keyword, call tagEnd]

/-- A statement that ends a section, which may be named. -/
def bareNamed (keyword : String) : Peg Rule :=
  all [call tagStart, word keyword, optional (call ident), call tagEnd]

/-- Where a tag begins. -/
def anyStart : Peg Rule :=
  oneOf [call printStart, call tagStart, call commentStart]

def conditional (inner : Rule) : Peg Rule :=
  all [call ifTag, many (call inner), many (all [call elifTag, many (call inner)]),
    optional (all [call elseTag, many (call inner)]), call endIfTag]

/-- Names the template that this one extends, and those whose macros it uses. -/
def heading : Peg Rule :=
  oneOf [all [call extendsTag, many (call importTag)], all [some (call importTag), optional (call extendsTag)]]

def body : Rule → Peg Rule
  | int => all [optional (word "-"), oneOf [word "0", all positive]]
  | float => all [optional (word "-"), oneOf [all (word "0" :: fraction), all (positive ++ fraction)]]
  | doubleQuoted => quotedBy "\""
  | singleQuoted => quotedBy "'"
  | backQuoted => quotedBy "\x60"
  | string => oneOf [call doubleQuoted, call singleQuoted, call backQuoted]
  | boolean => oneOf [word "true", word "false", word "True", word "False"]
  | opOr => all [word "or", blank]
  | opAnd => all [word "and", blank]
  | opNot => all [word "not", blank]
  | opLte => word "<="
  | opGte => word ">="
  | opLt => word "<"
  | opGt => word ">"
  | opEq => word "=="
  | opIneq => word "!="
  | opPlus => word "+"
  | opMinus => word "-"
  | opTimes => word "*"
  | opSlash => word "/"
  | opModulo => word "%"
  | ident => all [nameStart, many nameChar]
  | dottedIdent => all [nameStart, many nameChar, many (all [word ".", some nameChar])]
  | brackets => all [word "[", oneOf [call int, call string, call path], word "]"]
  | path => all [call dottedIdent, many (oneOf [all [word ".", some nameChar], call brackets])]
  | concatenation => all [joined, some (all [word "~", joined])]
  | basicExpr => all [operand, many (all [basicOp, operand])]
  | basicExprFilter => all [call basicExpr, many (call filter)]
  | stringExprFilter => all [oneOf [call concatenation, call string], many (call filter)]
  | comparisonVal => all [call basicExprFilter, many (all [basicOp, call basicExprFilter])]
  | comparisonExpr => all [compared, optional (all [comparisonOp, compared])]
  | inContainer => oneOf [call stringExprFilter, call arrayFilter, call path]
  | inCond =>
      all [oneOf [call stringExprFilter, call basicExprFilter], optional (call opNot), word "in", call inContainer]
  | logicVal =>
      oneOf [all [optional (call opNot), oneOf [call inCond, call comparisonExpr]],
        all [word "(", call logicExpr, word ")"]]
  | logicExpr => all [call logicVal, many (all [oneOf [call opOr, call opAnd], call logicVal])]
  | array => all [word "[", many (all [call logicVal, word ","]), optional (call logicVal), word "]"]
  | arrayFilter => all [call array, many (call filter)]
  | stringArray => all [word "[", many (all [call string, word ","]), optional (call string), word "]"]
  | argument => all [call ident, word "=", assigned]
  | fnCall => all called
  | filter => all [word "|", oneOf [call fnCall, call ident]]
  | parameter =>
      oneOf [all [call ident, word "=", oneOf [call boolean, call string, call float, call int]], call ident]
  | macroHead => all [call ident, word "(", optional parameters, word ")"]
  | macroCall => all ([call ident, word "::"] ++ called)
  | testArgument => assigned
  | testCall =>
      all [call ident,
        optional (all [word "(", call testArgument, many (all [word ",", call testArgument]), word ")"])]
  | testNot => all [call path, word "is", word "not", call testCall]
  | test => all [call path, word "is", call testCall]
  | printStart => oneOf [word "\x7b\x7b-", word "\x7b\x7b"]
  | printEnd => oneOf [word "-\x7d\x7d", word "\x7d\x7d"]
  | tagStart => oneOf [word "\x7b%-", word "\x7b%"]
  | tagEnd => oneOf [word "-%\x7d", word "%\x7d"]
  | commentStart => oneOf [word "\x7b#-", word "\x7b#"]
  | commentEnd => oneOf [word "-#\x7d", word "#\x7d"]
  | commentText => some (all [absent (call commentEnd), any])
  | ignoreMissing => all [word "ignore", blanks, word "missing"]
  | includeTag =>
      statement "include" [gap, oneOf [call string, call stringArray], blanks, optional (call ignoreMissing)]
  | commentTag => all [call commentStart, call commentText, call commentEnd]
  | blockTag => statement "block" [gap, call ident]
  | macroTag => statement "macro" [gap, call macroHead]
  | ifTag => statement "if" [gap, call logicExpr]
  | elifTag => statement "elif" [gap, call logicExpr]
  | elseTag => bare "else"
  | forTag =>
      statement "for"
        [gap, call ident, optional (all [word ",", blanks, call ident]), gap, word "in", gap,
          oneOf [call basicExprFilter, call arrayFilter]]
  | filterTag => statement "filter" [gap, oneOf [call fnCall, call ident]]
  | setTag => statement "set" [gap, call ident, blanks, word "=", blanks, assigned]
  | setGlobalTag => statement "set_global" [gap, call ident, blanks, word "=", blanks, assigned]
  | endBlockTag => bareNamed "endblock"
  | endMacroTag => bareNamed "endmacro"
  | endIfTag => bare "endif"
  | endForTag => bare "endfor"
  | endFilterTag => bare "endfilter"
  | breakTag => bare "break"
  | continueTag => bare "continue"
  | printTag => all [call printStart, assigned, call printEnd]
  | superTag => all [call printStart, word "super()", call printEnd]
  | text => some (all [absent anyStart, any])
  | rawTag => bare "raw"
  | endRawTag => bare "endraw"
  | rawText => many (all [absent (call endRawTag), any])
  | raw => all [call rawTag, call rawText, call endRawTag]
  | filterSection => all [call filterTag, many (call filterContent), call endFilterTag]
  | forLoop =>
      all [call forTag, many (call forContent), many (all [call elseTag, many (call forContent)]), call endForTag]
  | macroIf => conditional macroContent
  | blockIf => conditional blockContent
  | forIf => conditional forContent
  | filterIf => conditional filterContent
  | contentIf => conditional content
  | block => all [call blockTag, many (call blockContent), call endBlockTag]
  | macroDefinition => all [call macroTag, many (call macroContent), call endMacroTag]
  | filterContent =>
      oneOf [call includeTag, call printTag, call commentTag, call setTag, call setGlobalTag, call block,
        call forLoop, call filterIf, call raw, call filterSection, call text]
  | macroContent =>
      oneOf [call includeTag, call printTag, call commentTag, call setTag, call setGlobalTag, call macroIf,
        call forLoop, call filterSection, call raw, call text]
  | blockContent =>
      oneOf [call includeTag, call superTag, call printTag, call commentTag, call setTag, call setGlobalTag,
        call block, call blockIf, call forLoop, call filterSection, call raw, call text]
  | forContent =>
      oneOf [call includeTag, call printTag, call commentTag, call setTag, call setGlobalTag, call forIf,
        call forLoop, call breakTag, call continueTag, call filterSection, call raw, call text]
  | content =>
      oneOf [call includeTag, call printTag, call commentTag, call setTag, call setGlobalTag, call block,
        call contentIf, call forLoop, call filterSection, call raw, call text]
  | extendsTag => all [blanks, statement "extends" [gap, call string], blanks]
  | importTag =>
      all [blanks, statement "import" [gap, call string, gap, word "as", gap, call ident], blanks]
  | finish => absent any
  | template =>
      all [many (call commentTag), optional heading, many (oneOf [call content, call macroDefinition]), call finish]

end Rule

def grammar : Grammar Rule :=
  ⟨Rule.kind, Rule.body, Rule.isBlank⟩

/-- The number of nested steps that is allowed for a text: between two characters that are passed, fewer rules
and parts of rules are entered than this gives for each character. -/
def stepsFor (text : Text) : Nat :=
  256 * (text.length + 2)

/-- Matches a whole template. Answers with the tree and the furthest notable place. -/
def matchTemplate (text : Text) : Outcome Rule × Nat :=
  grammar.run (stepsFor text) .spaced .forward (.call .template) ⟨text, 0⟩ 0

end ThemedViews.Template
