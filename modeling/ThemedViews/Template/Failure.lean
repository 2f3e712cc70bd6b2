import ThemedViews.Template.Expr
import ThemedViews.Text.Basic

/-!
# Why a template fails

A failure is a reason with the reasons behind it, outermost first: where it happened, which filter, test or
function was called, and what was wrong. Each reason has one message. A failure also has a spelled form that lists
the kinds of its reasons.
-/

namespace ThemedViews.Template

/-- The name under which a template that has no file is rendered. -/
def oneOffName : String :=
  "__tera_one_off"

/-- What was wrong. -/
inductive Reason where
  /-- The template could not be read. -/
  | reading
  /-- The template could not be rendered, perhaps within the macro of a namespace. -/
  | rendering (within : Option (String × String))
  | filterCall (name : String)
  | testCall (name : String)
  | functionCall (name : String)
  /-- The grammar does not match, and the furthest place stands on a line with the given source. -/
  | rejected (line : Nat) (excerpt : Text)
  | integerOutOfBounds (digits : String)
  | duplicateBlock (name : String)
  | duplicateMacro (name : String)
  | missingParent (file : String)
  | ownParent
  | missingMacroFile (file : String)
  /-- Only the message of another reason is kept. -/
  | restated (message : String)
  | undefined (path : String)
  | undefinedAt (path evaluated : String)
  | unresolvedIndex (path because : String)
  | unusableIndex (index path : String)
  | missingDefault
  | loopOver (container : String)
  | loopWithKey (container : String)
  | loopWithoutKey (container : String)
  | loopUnsupported (container : String)
  | joinedPath (path : String)
  | joinedCall (name : String)
  | mathPath (path : String)
  | mathCall (name : String)
  | mathString (text : String)
  | mathBool (truth : Bool)
  | mathJoined (parts : String)
  | mathTest (name : String)
  | mathFiltered
  | mathUnsupported (operand : String)
  | overflow (operator : MathOperator) (left right : Int) (signed : Bool)
  | zeroModulo (left right : String)
  | comparedToNaN
  | conditionCall (name : String)
  | conditionUnsupported (expr : String)
  | memberOfText (value : Value)
  | memberOfObject (value : Value)
  | memberOfOther
  | noMacroSpace (space : String)
  | noMacro (space name : String)
  | missingArgument (name argument : String)
  | outermostSuper
  | notInLoop (word : String)
  | templateNotFound (files : List String)
  | inheritanceInside (file : String)
  | filterNotFound (name : String)
  | testNotFound (name : String)
  | functionNotFound (name : String)
  | wrongValue (filter : String) (value : Value) (expected : String)
  | wrongArgument (filter argument : String) (value : Value) (expected : String)
  | expectedArgument (filter argument : String)
  | neededArgument (filter article argument : String)
  | lengthOfOther
  | reverseOfOther (value : Value)
  | absOfOther
  | getOfOther
  | keyNotFound (key : String)
  | sortField (field : String)
  | unsortable (kind : String)
  | sortMixed (expected : String) (value : Value)
  | uniqueOfNull
  | uniqueOf (kind : String)
  | uniqueMixed
  | roundingMethod (method : String)
  | unexpectedType (filter : String)
  | testWithoutArguments (test : String)
  | testArguments (test : String) (given most : Nat)
  | testOnUndefined (test : String)
  | testOn (test what kind : String)
  | containingOther
  | rangeArgument (argument name : String) (value : Value)
  | rangeWithoutEnd
  | rangeBackwards
  | thrown (message : String)
  | throwMessage (value : Value)
  | throwWithoutMessage
  /-- The template needs more nested steps than are allowed. -/
  | stepsUsedUp

namespace Reason

/-- The message of a reason. The source excerpt of a rejected template is not part of it. -/
def message : Reason → String
  | reading => s!"Failed to parse '{oneOffName}'"
  | rendering none => s!"Failed to render '{oneOffName}'"
  | rendering (some (space, name)) =>
      s!"Failed to render '{oneOffName}': error while rendering macro `{space}::{name}`"
  | filterCall name => s!"Filter call '{name}' failed"
  | testCall name => s!"Test call '{name}' failed"
  | functionCall name => s!"Function call '{name}' failed"
  | rejected _ _ => "--> <syntax>"
  | integerOutOfBounds digits => s!"Integer out of bounds: `{digits}`"
  | duplicateBlock name => s!"Block `{name}` is duplicated"
  | duplicateMacro name => s!"Macro `{name}` is duplicated"
  | missingParent file =>
      s!"Template '{oneOffName}' is inheriting from '{file}', which doesn't exist or isn't loaded."
  | ownParent => s!"Circular extend detected for template '{oneOffName}'. Inheritance chain: `[]`"
  | missingMacroFile file =>
      s!"Template `{oneOffName}` loads macros from `{file}` which isn't present in Tera"
  | restated message => message
  | undefined path => s!"Variable `{path}` not found in context while rendering '{oneOffName}'"
  | undefinedAt path evaluated =>
      s!"Variable `{path}` not found in context while rendering '{oneOffName}': " ++
        s!"the evaluated version was `{evaluated}`. Maybe the index is out of bounds?"
  | unresolvedIndex path because => s!"Variable {path} can not be evaluated because: {because}"
  | unusableIndex index path =>
      s!"Only variables evaluating to String or Number can be used as index (`{index}` of `{path}`)"
  | missingDefault => "The `default` filter requires a `value` argument."
  | loopOver container =>
      s!"Forloop containers have to be an ident or a function call (tried to iterate on '{container}')"
  | loopWithKey container =>
      s!"Tried to iterate using key value on variable `{container}`, but it isn't an object/map"
  | loopWithoutKey container =>
      s!"Tried to iterate using key value on variable `{container}`, but it is missing a key"
  | loopUnsupported container =>
      s!"Tried to iterate on a container (`{container}`) that has a unsupported type"
  | joinedPath path => s!"Tried to concat a value that is not a string or a number from ident {path}"
  | joinedCall name => s!"Tried to concat a value that is not a string or a number from function call {name}"
  | mathPath path => s!"Variable `{path}` was used in a math operation but is not a number"
  | mathCall name => s!"Function `{name}` was used in a math operation but is not returning a number"
  | mathString text => s!"Tried to do math with a string: `{text}`"
  | mathBool truth => s!"Tried to do math with a boolean: `{truthWord truth}`"
  | mathJoined parts => s!"Tried to do math with a string concatenation: {parts}"
  | mathTest name => s!"Tried to do math with a test: {name}"
  | mathFiltered => "Tried to do math with an expression not resulting in a number"
  | mathUnsupported operand => s!"unimplemented math expression for {operand}"
  | overflow operator left right signed =>
      let word := if signed then "i64" else "u64"
      s!"{left} {operator.sign} {right} results in an out of bounds {word}"
  | zeroModulo left right => s!"Tried to do a modulo by zero: {left}/{right}"
  | comparedToNaN => "Comparison to NaN"
  | conditionCall name => s!"Function `{name}` was used in a logic operation but is not returning a bool"
  | conditionUnsupported expr => s!"unimplemented logic operation for {expr}"
  | memberOfText value => s!"Tried to check if {value.spelled} is in a string, but it isn't a string"
  | memberOfObject value => s!"Tried to check if {value.spelled} is in a object, but it isn't a string"
  | memberOfOther => "The `in` operator only supports strings, arrays and objects."
  | noMacroSpace space =>
      s!"Macro namespace `{space}` was not found in template `{oneOffName}`. " ++
        "Have you maybe forgotten to import it, or misspelled it?"
  | noMacro space name => s!"Macro `{space}::{name}` not found in template `{oneOffName}`"
  | missingArgument name argument => s!"Macro `{name}` is missing the argument `{argument}`"
  | outermostSuper => "Tried to use super() in the top level block"
  | notInLoop word => s!"Attempted `{word}` while not in `for loop`"
  | templateNotFound files =>
      let names := ", ".intercalate files
      s!"Template '[{names}]' not found"
  | inheritanceInside file =>
      s!"Inheritance in included templates is currently not supported: extended `{file}`"
  | filterNotFound name => s!"Filter '{name}' not found"
  | testNotFound name => s!"Test '{name}' not found"
  | functionNotFound name => s!"Function '{name}' not found"
  | wrongValue filter value expected =>
      s!"Filter `{filter}` was called on an incorrect value: got `{value.compact}` but expected a {expected}"
  | wrongArgument filter argument value expected =>
      s!"Filter `{filter}` received an incorrect type for arg `{argument}`: " ++
        s!"got `{value.compact}` but expected a {expected}"
  | expectedArgument filter argument => s!"Filter `{filter}` expected an arg called `{argument}`"
  | neededArgument filter article argument =>
      s!"The `{filter}` filter has to have {article} `{argument}` argument"
  | lengthOfOther => "Filter `length` was used on a value that isn't an array, an object, or a string."
  | reverseOfOther value =>
      s!"Filter `reverse` received an incorrect type for arg `value`: " ++
        s!"got `{value.compact}` but expected Array|String"
  | absOfOther => "Filter `abs` was used on a value that isn't a number."
  | getOfOther => "Filter `get` was used on a value that isn't an object"
  | keyNotFound key => s!"Filter `get` tried to get key `{key}` but it wasn't found"
  | sortField field => s!"attribute '{field}' does not reference a field"
  | unsortable kind => s!"{kind} is not a sortable value"
  | sortMixed expected value => s!"expected {expected} got {value.compact}"
  | uniqueOfNull => "Null is not a unique value"
  | uniqueOf kind => s!"Unique {kind} are not implemented"
  | uniqueMixed => "unique filter can't compare multiple types"
  | roundingMethod method =>
      s!"Filter `round` received an incorrect value for arg `method`: " ++
        s!"got `{Value.quotedText method}`, only common, ceil and floor are allowed"
  | unexpectedType filter => s!"Filter `{filter}` received an unexpected type"
  | testWithoutArguments test => s!"Tester `{test}` was called with some args but this test doesn't take args"
  | testArguments test given most => s!"Tester `{test}` was called with {given} args, the max number is {most}"
  | testOnUndefined test => s!"Tester `{test}` was called on an undefined variable"
  | testOn test what kind => s!"Tester `{test}` was called {what} that isn't a {kind}"
  | containingOther => "Tester `containing` can only be used on string, array or map"
  | rangeArgument argument name value =>
      s!"Function `range` received {argument}={value.compact} but `{name}` can only be a number"
  | rangeWithoutEnd => "Function `range` was called without a `end` argument"
  | rangeBackwards => "Function `range` was called with a `start` argument greater than the `end` one"
  | thrown message => message
  | throwMessage value => s!"Function `throw` received message={value.compact} but `message` can only be a string"
  | throwWithoutMessage => "Function `throw` was called without a `message` argument"
  | stepsUsedUp => "The template needs more nested steps than are allowed"

/-- The kind of a reason with what belongs to it. -/
def spelled (reason : Reason) : String :=
  match reason with
  | filterCall name => s!"CallFilter({Value.quotedText name})"
  | testCall name => s!"CallTest({Value.quotedText name})"
  | functionCall name => s!"CallFunction({Value.quotedText name})"
  | filterNotFound name => s!"FilterNotFound({Value.quotedText name})"
  | testNotFound name => s!"TestNotFound({Value.quotedText name})"
  | functionNotFound name => s!"FunctionNotFound({Value.quotedText name})"
  | templateNotFound files =>
      let names := "[" ++ ", ".intercalate files ++ "]"
      s!"TemplateNotFound({Value.quotedText names})"
  | missingParent file =>
      "MissingParent \x7b current: " ++ Value.quotedText oneOffName ++ ", parent: " ++ Value.quotedText file
        ++ " \x7d"
  | ownParent =>
      "CircularExtend \x7b tpl: " ++ Value.quotedText oneOffName ++ ", inheritance_chain: [] \x7d"
  | _ => s!"Msg({Value.quotedText reason.message})"

/-- The text in which a note of an undefined variable is looked for: the message, and where the grammar does not
match, the source that is shown with it. -/
def evidence : Reason → Text
  | rejected _ excerpt => excerpt
  | reason => reason.message.toList

end Reason

/-- A reason and the reasons behind it, outermost first. -/
structure Failure where
  reason : Reason
  causes : List Reason

namespace Failure

/-- A failure without deeper reasons. -/
def of (reason : Reason) : Failure :=
  ⟨reason, []⟩

/-- The failure seen from further out. -/
def within (outer : Reason) (failure : Failure) : Failure :=
  ⟨outer, failure.reason :: failure.causes⟩

def reasons (failure : Failure) : List Reason :=
  failure.reason :: failure.causes

def messages (failure : Failure) : List String :=
  failure.reasons.map Reason.message

/-- The failure with the kinds of its reasons. -/
def spelled (failure : Failure) : String :=
  failure.reasons.foldr
    (fun reason inner =>
      let source := if inner.isEmpty then "None" else s!"Some({inner})"
      "Error \x7b kind: " ++ reason.spelled ++ ", source: " ++ source ++ " \x7d")
    ""

end Failure

end ThemedViews.Template
