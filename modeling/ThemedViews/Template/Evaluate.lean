import ThemedViews.Template.Arithmetic
import ThemedViews.Template.Filter
import ThemedViews.Template.Function
import ThemedViews.Template.Run
import ThemedViews.Template.Test
import ThemedViews.Text.Cluster

/-!
# Evaluating expressions and rendering nodes

Expressions are evaluated to values, to truth values in conditions, and to numbers in arithmetic and comparisons;
the three treat undefined names, filters and negations differently. Nodes are rendered to text. Macros may call
themselves, so every function here takes an allowance of nested steps.
-/

namespace ThemedViews.Template

/-- What a template is rendered with. -/
structure Setting where
  source : Source
  data : Scope

namespace Setting

/-- The value of a path in the frames at hand. -/
def look (setting : Setting) (path : String) : Run (Except Reason Value) := do
  return findValue setting.data (← get) path

def macro? (setting : Setting) (space name : String) :
    Except Reason (List (String × Option Expr) × List Node) :=
  if setting.source.spaces.contains space then
    match setting.source.macros.lookup name with
    | some found => pure found
    | none => throw (.noMacro space name)
  else throw (.noMacroSpace space)

end Setting

/-- Whether the first filter gives a default. -/
def Expr.hasDefault (expr : Expr) : Bool :=
  (expr.filters.head?.map Call.name) = some "default"

def Expr.default? (expr : Expr) : Option Expr :=
  expr.filters.head?.bind fun filter => filter.arguments.lookup "value"

def joinedText (parts : List Operand) : String :=
  " ~ ".intercalate (parts.map fun part => match part with
    | .string text => s!"'{text}'"
    | .path path => path
    | _ => "unknown")

/-- What a loop runs over, and the name of the container in errors. -/
def Operand.containerName (operand : Operand) : Except Reason String :=
  match operand with
  | .path name => pure name
  | .call function => pure function.name
  | .list _ => pure "an array literal"
  | _ => throw (.loopOver operand.spelled)

/-- The items of a container, with the keys of an object. -/
def loopItems (container : String) (hasKey : Bool) (value : Value) : Except Reason (List (String × Value)) :=
  match value, hasKey with
  | .list items, false => pure (items.map fun item => ("", item))
  | .text content, false =>
      pure ((Text.clusters content.toList).map fun cluster => ("", .text (String.ofList cluster)))
  | .list _, true | .text _, true => throw (.loopWithKey container)
  | .object entries, true => pure entries
  | .object _, false => throw (.loopWithoutKey container)
  | _, _ => throw (.loopUnsupported container)

/-- How often the body of a loop over a value is rendered at most: once for each character of a text, and once for
each item of another container. -/
def loopRounds (value : Value) (items : List (String × Value)) : Nat :=
  match value with
  | .text content => content.length
  | _ => items.length

/-- A value joined to a text: a text as it is, a number as in data. -/
def joinedValue? : Value → Option Text
  | .text content => some content.toList
  | .number amount => some amount.text.toList
  | _ => none

/-- Whether a value is an element of a list, a part of a text or a key of an object. -/
def isMember (value container : Value) : Except Reason Bool :=
  match container, value with
  | .list items, _ => pure (items.any fun item => item.same value)
  | .text content, .text part => pure (Text.contains part.toList content.toList)
  | .text _, _ => throw (.memberOfText value)
  | .object entries, .text key => pure (Table.contains key entries)
  | .object _, _ => throw (.memberOfObject value)
  | _, _ => throw .memberOfOther

/-- Whether two values are equal in a comparison; two numbers are compared as floating numbers, and a number
does not compare with anything else: a condition that does so never holds, negated or not. -/
def compare? (left right : Value) : Option Bool :=
  match left, right with
  | .number left, .number right => some (left.toFloat == right.toFloat)
  | .number _, _ => none
  | _, .number _ => none
  | _, _ => some (left.same right)

/-- The comparison of two numbers by size. -/
def LogicOperator.onFloats (operator : LogicOperator) (left right : Float) : Bool :=
  match operator with
  | .greater => right < left
  | .greaterEqual => right ≤ left
  | .less => left < right
  | _ => left ≤ right

mutual

/-- The value of an expression. An undefined path has a value only if a default is given or if it is negated. -/
def evaluate (setting : Setting) : (fuel : Nat) → Expr → Run Value
  | 0, _ => throw .unfinished
  | fuel + 1, expr => do
      match expr.operand with
      | .path path =>
          match ← setting.look path, expr.hasDefault with
          | .ok .null, true | .error _, true =>
              match expr.default? with
              | some default => filterAll setting fuel expr (← evaluate setting fuel default)
              | none => Run.fail .missingDefault
          | .ok value, _ => filterAll setting fuel expr value
          | .error reason, false => if expr.negated then return .bool true else Run.fail reason
      | .logic _ _ _ => filterAll setting fuel expr (.bool (← holds setting fuel expr))
      | operand => filterAll setting fuel expr (← evaluateOperand setting fuel operand)

/-- A value after the filters of an expression and its negation. -/
def filterAll (setting : Setting) : (fuel : Nat) → Expr → Value → Run Value
  | 0, _, _ => throw .unfinished
  | fuel + 1, expr, value => do
      let active := expr.filters.filter fun filter => filter.name ≠ "safe" && filter.name ≠ "default"
      let filtered ← active.foldlM (fun value filter => applyFilter setting fuel filter value) value
      if expr.negated then return .bool !filtered.isTruthy else return filtered

/-- The value of an operand that is neither a path nor a condition. -/
def evaluateOperand (setting : Setting) : (fuel : Nat) → Operand → Run Value
  | 0, _ => throw .unfinished
  | fuel + 1, operand => do
      match operand with
      | .list items => return .list (← items.mapM (evaluate setting fuel))
      | .membership left right negated =>
          return .bool (← memberHolds setting fuel left right negated)
      | .string text => return .text text
      | .joined parts =>
          let texts ← parts.mapM fun part => do
            match part with
            | .string text => return text.toList
            | .int value => return (toString value).toList
            | .float value => return (Decimal.Style.plain.text value).toList
            | .path path =>
                match joinedValue? (← Run.lift (← setting.look path)) with
                | some text => return text
                | none => Run.fail (.joinedPath path)
            | .call call =>
                match joinedValue? (← callFunction setting fuel call) with
                | some text => return text
                | none => Run.fail (.joinedCall call.name)
            | _ => return []
          return .text (String.ofList texts.flatten)
      | .int value => return .ofInt value
      | .float value => return .number (.float value)
      | .bool truth => return .bool truth
      | .call call => callFunction setting fuel call
      | .macroCall space name arguments =>
          return .text (String.ofList (← callMacro setting fuel space name arguments))
      | .test path negated name arguments => return .bool (← testHolds setting fuel path negated name arguments)
      | .math _ _ _ =>
          match ← Run.restated (operandNumber setting fuel operand) with
          | some amount => return .number amount
          | none => return .text "NaN"
      | .path path => Run.lift (← setting.look path)
      | .logic _ _ _ => return .bool (← holds setting fuel (.plain operand))

/-- Whether an expression holds as a condition. A path that has no value does not hold. -/
def holds (setting : Setting) : (fuel : Nat) → Expr → Run Bool
  | 0, _ => throw .unfinished
  | fuel + 1, expr => do
      let truth ← match expr.operand with
        | .logic .or left right => do
            if ← holds setting fuel left then pure true else holds setting fuel right
        | .logic .and left right => do
            if ← holds setting fuel left then holds setting fuel right else pure false
        | .logic .equal left right => do
            let same := compare? (← evaluate setting fuel left) (← evaluate setting fuel right)
            pure (same.getD expr.negated)
        | .logic .unequal left right => do
            let same := compare? (← evaluate setting fuel left) (← evaluate setting fuel right)
            pure ((same.map Bool.not).getD expr.negated)
        | .logic operator left right => do
            let first ← exprNumber setting fuel left
            let second ← exprNumber setting fuel right
            match first, second with
            | some first, some second => pure (operator.onFloats first.toFloat second.toFloat)
            | _, _ => Run.fail .comparedToNaN
        | .path _ => do
            let value ← Run.orElse (.bool false) (evaluate setting fuel expr)
            pure (value.isTruthy != expr.negated)
        | .math _ _ _ | .int _ | .float _ => do
            let amount ← operandNumber setting fuel expr.operand
            pure (amount.any fun amount => amount.toFloat != 0)
        | .membership left right negated => memberHolds setting fuel left right negated
        | .test path negated name arguments => testHolds setting fuel path negated name arguments
        | .bool truth => pure truth
        | .string text => pure !text.isEmpty
        | .call call => do
            match ← callFunction setting fuel call with
            | .bool truth => pure truth
            | _ => Run.fail (.conditionCall call.name)
        | .joined _ => do
            match ← evaluate setting fuel expr with
            | .text text => pure !text.isEmpty
            | _ => Run.fail (.conditionUnsupported expr.spelled)
        | .macroCall space name arguments => do
            pure !(← callMacro setting fuel space name arguments).isEmpty
        | .list _ => Run.fail (.conditionUnsupported expr.spelled)
      return truth != expr.negated

def exprNumber (setting : Setting) : (fuel : Nat) → Expr → Run (Option Number)
  | 0, _ => throw .unfinished
  | fuel + 1, expr => do
      if expr.filters.isEmpty then operandNumber setting fuel expr.operand
      else
        match ← evaluate setting fuel expr with
        | .number amount => return some amount
        | _ => Run.fail .mathFiltered

def operandNumber (setting : Setting) : (fuel : Nat) → Operand → Run (Option Number)
  | 0, _ => throw .unfinished
  | fuel + 1, operand => do
      match operand with
      | .path path =>
          match ← Run.lift (← setting.look path) with
          | .number amount => return some amount
          | _ => Run.fail (.mathPath path)
      | .int value => return some (.int value)
      | .float value => return some (.float value)
      | .math operator left right =>
          match ← exprNumber setting fuel left, ← exprNumber setting fuel right with
          | some first, some second => Run.lift (operator.apply first second (left, right))
          | _, _ => return none
      | .call call =>
          match ← callFunction setting fuel call with
          | .number amount => return some amount
          | _ => Run.fail (.mathCall call.name)
      | .string text => Run.fail (.mathString text)
      | .bool truth => Run.fail (.mathBool truth)
      | .joined parts => Run.fail (.mathJoined (joinedText parts))
      | .test _ _ name _ => Run.fail (.mathTest name)
      | _ => Run.fail (.mathUnsupported operand.spelled)

/-- The values of named arguments. -/
def evaluateArguments (setting : Setting) : (fuel : Nat) → List (String × Expr) → Run Scope
  | 0, _ => throw .unfinished
  | fuel + 1, arguments => arguments.mapM fun (name, expr) => do return (name, ← evaluate setting fuel expr)

/-- The value of a function. -/
def callFunction (setting : Setting) : (fuel : Nat) → Call → Run Value
  | 0, _ => throw .unfinished
  | fuel + 1, call => do
      match Function.named? call.name with
      | none => Run.fail (.functionNotFound call.name)
      | some function =>
          Run.within (.functionCall call.name) do
            Run.lift (function (← evaluateArguments setting fuel call.arguments))

/-- A value after a filter. -/
def applyFilter (setting : Setting) : (fuel : Nat) → Call → Value → Run Value
  | 0, _, _ => throw .unfinished
  | fuel + 1, call, value => do
      match Filter.named? call.name with
      | none => Run.fail (.filterNotFound call.name)
      | some filter =>
          Run.within (.filterCall call.name) do
            Run.lift (filter value (← evaluateArguments setting fuel call.arguments))

def testHolds (setting : Setting) :
    (fuel : Nat) → (path : String) → (negated : Bool) → (name : String) → List Expr → Run Bool
  | 0, _, _, _, _ => throw .unfinished
  | fuel + 1, path, negated, name, arguments => do
      match Test.named? name with
      | none => Run.fail (.testNotFound name)
      | some test =>
          let given ← Run.within (.testCall name) (arguments.mapM (evaluate setting fuel))
          let value := (← setting.look path).toOption
          let truth ← Run.within (.testCall name) (Run.lift (test value given))
          return truth != negated

/-- Whether a value is in a container, or is not. -/
def memberHolds (setting : Setting) : (fuel : Nat) → Expr → Expr → (negated : Bool) → Run Bool
  | 0, _, _, _ => throw .unfinished
  | fuel + 1, left, right, negated => do
      let value ← evaluate setting fuel left
      let container ← evaluate setting fuel right
      return (← Run.lift (isMember value container)) != negated

/-- The text of a macro. Its body sees only its arguments and the data. -/
def callMacro (setting : Setting) :
    (fuel : Nat) → (space name : String) → List (String × Expr) → Run Text
  | 0, _, _, _ => throw .unfinished
  | fuel + 1, space, name, arguments => do
      let (parameters, body) ← Run.lift (setting.macro? space name)
      let bindings ← parameters.mapM fun (parameter, default) => do
        match (arguments.lookup parameter).or default with
        | some expr => return (parameter, ← evaluate setting fuel expr)
        | none => Run.fail (.missingArgument name parameter)
      Run.push ⟨.macroBody space name, bindings, none⟩
      let text ← Run.body (render setting fuel) body
      Run.pop
      return text

/-- The text of a node. -/
def render (setting : Setting) : (fuel : Nat) → Node → Run Text
  | 0, _ => throw .unfinished
  | fuel + 1, node => do
      match node with
      | .text content => return content
      | .raw _ content _ => return content
      | .comment _ | .importing _ _ _ | .macroDefinition _ _ _ _ _ => return []
      | .print _ value => return Filter.printed (← evaluate setting fuel value)
      | .assignment _ name value everywhere =>
          let value ← evaluate setting fuel value
          if everywhere then Run.assignEverywhere name value else Run.assign name value
          return []
      | .filtered _ filter body _ =>
          let text ← Run.body (render setting fuel) body
          if filter.name = "safe" then return text
          else return Filter.printed (← applyFilter setting fuel filter (.text (String.ofList text)))
      | .branch conditions otherwise _ =>
          renderFirst setting fuel conditions ((otherwise.map Prod.snd).getD [])
      | .loop _ key name container body otherwise _ =>
          let shown ← Run.lift container.operand.containerName
          let value ← evaluate setting fuel container
          let items ← Run.lift (loopItems shown key.isSome value)
          if items.isEmpty then Run.body (render setting fuel) (otherwise.getD [])
          else
            let rounds := loopRounds value items
            Run.push ⟨.loop, [], some ⟨key, name, items, rounds, 0, .none⟩⟩
            let text ← Run.repeated (Run.body (render setting fuel) body) rounds
            Run.pop
            return text
      | .leave _ =>
          Run.setSignal .leave
          return []
      | .next _ =>
          Run.setSignal .next
          return []
      | .block _ name body _ =>
          Run.body (render setting fuel) ((setting.source.blocks.lookup name).getD body)
      | .super => Run.fail .outermostSuper
      | .including _ files mayMiss =>
          if files.contains oneOffName then
            Run.push ⟨.included, [], none⟩
            let text ← Run.body (render setting fuel) setting.source.nodes
            Run.pop
            return text
          else if mayMiss then return []
          else Run.fail (.templateNotFound files)
      | .extending _ file => Run.fail (.inheritanceInside file)

/-- The text of the first body whose condition holds, or else of the last one. -/
def renderFirst (setting : Setting) :
    (fuel : Nat) → List (Trim × Expr × List Node) → (otherwise : List Node) → Run Text
  | 0, _, _ => throw .unfinished
  | fuel + 1, conditions, otherwise => do
      match conditions with
      | [] => Run.body (render setting fuel) otherwise
      | (_, condition, body) :: rest =>
          if ← holds setting fuel condition then Run.body (render setting fuel) body
          else renderFirst setting fuel rest otherwise

end

def allowance : Nat :=
  100000

/-- The failure as it is seen outside of the template, where `frames` are those that were open. -/
def located (frames : List Frame) (failure : Failure) : Failure :=
  let within := match frames.head?.map Frame.kind with
    | some (.macroBody space name) => some (space, name)
    | _ => none
  failure.within (.rendering within)

/-- The text of a template that has been read. -/
def Source.render (source : Source) (data : Scope) : Except Failure Text :=
  let texts : Run (List Text) := source.nodes.mapM (Template.render ⟨source, data⟩ allowance)
  match texts.run [⟨.origin, [], none⟩] with
  | (.ok texts, _) => .ok texts.flatten
  | (.error (.failed failure), frames) => .error (located frames failure)
  | (.error .unfinished, frames) => .error (located frames (.of .stepsUsedUp))

/-- The text of a template with data. -/
def renderText (text : Text) (data : Scope) : Except Failure Text := do
  (← Source.read text).render data

end ThemedViews.Template
