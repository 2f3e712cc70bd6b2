import ThemedViews.Template.Failure
import ThemedViews.Template.Grammar
import ThemedViews.Template.Node

/-!
# Reading templates

The tree of a matched template is read from the leaves upward: each rule turns its text and what was read from its
children into a fragment. The only thing that can be wrong with a matched tree is a whole number that is too large.
`Source.read` adds the checks on whole templates: blocks and macros have distinct names, and there are no other
templates to extend or to take macros from.
-/

namespace ThemedViews.Template

variable {R α : Type}

mutual

/-- Reads a tree from the leaves upward, its children from left to right. -/
def Tree.read (step : R → Text → List α → Except Reason α) : Tree R → Except Reason α
  | .node rule text children => do step rule text (← readAll step children)

/-- Reads trees from left to right. -/
def readAll (step : R → Text → List α → Except Reason α) : List (Tree R) → Except Reason (List α)
  | [] => pure []
  | tree :: rest => do
      let first ← tree.read step
      return first :: (← readAll step rest)

end

/-- What is read from a part of a template. -/
inductive Fragment where
  | nothing
  | opened (dash : Bool)
  | closed (dash : Bool)
  | name (text : String)
  | quoted (text : String)
  | operand (operand : Operand)
  | math (operator : MathOperator)
  | logic (operator : LogicOperator)
  | negation
  | mayMiss
  | call (call : Call)
  | expr (expr : Expr)
  | filter (call : Call)
  | argument (name : String) (value : Expr)
  | testCall (name : String) (arguments : List Expr)
  | parameter (name : String) (value : Option Expr)
  | macroHead (name : String) (parameters : List (String × Option Expr))
  | files (names : List String)
  | condition (trim : Trim) (expr : Expr)
  | otherwise (trim : Trim)
  | ending (trim : Trim)
  | blockHead (trim : Trim) (name : String)
  | macroOpening (trim : Trim) (name : String) (parameters : List (String × Option Expr))
  | loopHead (trim : Trim) (names : List String) (container : Expr)
  | filterHead (trim : Trim) (filter : Call)
  | rawHead (trim : Trim)
  | text (text : Text)
  | nodes (nodes : List Node)

namespace Fragment

def expr? : Fragment → Option Expr
  | expr found => some found
  | operand found => some (.plain found)
  | call found => some (.plain (.call found))
  | quoted content => some (.plain (.string content))
  | _ => none

def operand? : Fragment → Option Operand
  | operand found => some found
  | call found => some (.call found)
  | quoted content => some (.string content)
  | expr (.mk found _ _) => some found
  | _ => none

def name? : Fragment → Option String
  | name word => some word
  | _ => none

def quoted? : Fragment → Option String
  | quoted content => some content
  | _ => none

def call? : Fragment → Option Call
  | call found => some found
  | _ => none

def filter? : Fragment → Option Call
  | filter found => some found
  | _ => none

def argument? : Fragment → Option (String × Expr)
  | argument key value => some (key, value)
  | _ => none

def parameter? : Fragment → Option (String × Option Expr)
  | parameter key value => some (key, value)
  | _ => none

def testCall? : Fragment → Option (String × List Expr)
  | testCall word given => some (word, given)
  | _ => none

def nodes? : Fragment → List Node
  | nodes found => found
  | _ => []

def files? : Fragment → List String
  | quoted file => [file]
  | files found => found
  | _ => []

def isNegation : Fragment → Bool
  | negation => true
  | _ => false

def isMayMiss : Fragment → Bool
  | mayMiss => true
  | _ => false

/-- Comments in front of everything else are no nodes. -/
def isComment : Fragment → Bool
  | nodes [.comment _] => true
  | _ => false

def opensWithDash : Fragment → Bool
  | opened dash => dash
  | _ => false

def closesWithDash : Fragment → Bool
  | closed dash => dash
  | _ => false

/-- The dashes of a tag. -/
def trim (parts : List Fragment) : Trim :=
  ⟨parts.any opensWithDash, parts.any closesWithDash⟩

def firstName (parts : List Fragment) : String :=
  (parts.findSome? name?).getD ""

def firstExpr (parts : List Fragment) : Expr :=
  (parts.findSome? expr?).getD (.plain (.bool false))

/-- The named arguments among the parts; of several with one name the last counts. -/
def arguments (parts : List Fragment) : List (String × Expr) :=
  Table.ofList (parts.filterMap argument?)

def filters (parts : List Fragment) : List Call :=
  parts.filterMap filter?

def body (parts : List Fragment) : List Node :=
  parts.flatMap nodes?

end Fragment

open Fragment (expr? operand? name? quoted? call? parameter? testCall? files? isNegation isMayMiss trim firstName
  firstExpr arguments filters body)

/-- Reads operands joined by operators of two strengths, those of one strength from left to right. What has been
read is a term joined by weak operators, if there is one, and a term joined by strong ones. -/
def climb {β : Type} (strong : β → Bool) (join : β → α → α → α) :
    (weak : Option (α × β)) → (current : α) → List (β × α) → α
  | weak, current, [] =>
      match weak with
      | some (left, operator) => join operator left current
      | none => current
  | weak, current, (operator, right) :: rest =>
      if strong operator then climb strong join weak (join operator current right) rest
      else
        let left :=
          match weak with
          | some (left, earlier) => join earlier left current
          | none => current
        climb strong join (some (left, operator)) right rest

/-- The operators and the operands behind them. -/
def pairs {β : Type} (operator? : Fragment → Option β) (operand? : Fragment → Option α) :
    List Fragment → List (β × α)
  | first :: second :: rest =>
      match operator? first, operand? second with
      | some operator, some operand => (operator, operand) :: pairs operator? operand? rest
      | _, _ => pairs operator? operand? (second :: rest)
  | _ => []

def math? : Fragment → Option MathOperator
  | .math operator => some operator
  | _ => none

def logic? : Fragment → Option LogicOperator
  | .logic operator => some operator
  | _ => none

/-- Multiplication and its like bind more tightly than addition. -/
def MathOperator.isStrong : MathOperator → Bool
  | .times | .slash | .modulo => true
  | .plus | .minus => false

/-- Comparisons and `and` bind more tightly than `or`. -/
def LogicOperator.isStrong : LogicOperator → Bool
  | .or => false
  | _ => true

/-- Reads arithmetic without filters between the operands. -/
def readMath (parts : List Fragment) : Operand :=
  let first := (parts.head?.bind operand?).getD (.bool false)
  let join (operator : MathOperator) (left right : Operand) : Operand := .math operator (.plain left) (.plain right)
  climb MathOperator.isStrong join none first (pairs math? operand? (parts.drop 1))

/-- Reads arithmetic on expressions. -/
def readMathOf (parts : List Fragment) : Expr :=
  let join (operator : MathOperator) (left right : Expr) : Expr := .plain (.math operator left right)
  climb MathOperator.isStrong join none (firstExpr parts) (pairs math? expr? (parts.drop 1))

/-- Reads a comparison, or conditions joined by `and` and `or`. -/
def readLogic (parts : List Fragment) : Expr :=
  let join (operator : LogicOperator) (left right : Expr) : Expr := .plain (.logic operator left right)
  climb LogicOperator.isStrong join none (firstExpr parts) (pairs logic? expr? (parts.drop 1))

/-- A quoted text without any of the quotes it stands in. -/
def unquoted (text : Text) : String :=
  match text with
  | [] => ""
  | quote :: _ => String.ofList (text.filter (· ≠ quote))

/-- The whole number written in decimal, if it fits a signed machine word. -/
def readInt (text : Text) : Except Reason Operand :=
  let value : Int :=
    match text with
    | '-' :: digits => -(Text.toNat digits : Int)
    | digits => Text.toNat digits
  if Word.isSigned value then pure (.int value)
  else throw (.integerOutOfBounds (String.ofList text))

/-- The floating number written in decimal with a point. -/
def readFloat (text : Text) : Float :=
  let digits := text.filter Char.isDigit
  let places := ((text.dropWhile (· ≠ '.')).filter Char.isDigit).length
  let magnitude := Float.ofScientific (Text.toNat digits) true places
  if text.head? = some '-' then -magnitude else magnitude

/-- Texts that stand beside each other are one text; a single text is no joining. -/
def readJoined (parts : List Fragment) : Operand :=
  let join (operands : List Operand) (operand : Operand) : List Operand :=
    match operands.getLast?, operand with
    | some (.string before), .string text => operands.dropLast ++ [.string (before ++ text)]
    | _, .string text => if text.isEmpty then operands else operands ++ [.string text]
    | _, _ => operands ++ [operand]
  match (parts.filterMap operand?).foldl join [] with
  | [] => .string ""
  | [.string text] => .string text
  | operands => .joined operands

/-- A section that may have conditions: each tag begins a new body. -/
structure Sections where
  conditions : List (Trim × Expr × List Node)
  current : Option (Trim × Option Expr)
  body : List Node
  otherwise : Option (Trim × List Node)
  closing : Trim

namespace Sections

/-- The body that is being read is complete. -/
def finish (sections : Sections) : Sections :=
  match sections.current with
  | some (trim, some expr) =>
      { sections with conditions := sections.conditions ++ [(trim, expr, sections.body)], current := none, body := [] }
  | some (trim, none) => { sections with otherwise := some (trim, sections.body), current := none, body := [] }
  | none => sections

/-- One more part of a conditional. -/
def push (sections : Sections) : Fragment → Sections
  | .condition trim expr => { sections.finish with current := some (trim, some expr) }
  | .otherwise trim => { sections.finish with current := some (trim, none) }
  | .ending trim => { sections.finish with closing := trim }
  | part => { sections with body := sections.body ++ part.nodes? }

end Sections

/-- Reads a conditional. -/
def readBranch (parts : List Fragment) : Node :=
  let sections := parts.foldl Sections.push ⟨[], none, [], none, ⟨false, false⟩⟩
  .branch sections.conditions sections.otherwise sections.closing

/-- The trimming of the tag that ends a section. -/
def closing (parts : List Fragment) : Trim :=
  (parts.findSome? fun part => match part with
    | .ending trim => some trim
    | _ => none).getD ⟨false, false⟩

/-- The body of a loop and what stands behind each `else` of it. -/
def loopBodies (parts : List Fragment) : List Node × Option (List Node) :=
  parts.foldl
    (fun (bodies : List Node × Option (List Node)) part =>
      match part, bodies.2 with
      | .otherwise _, _ => (bodies.1, some [])
      | _, some empty => (bodies.1, some (empty ++ part.nodes?))
      | _, none => (bodies.1 ++ part.nodes?, none))
    ([], none)

def readSection (parts : List Fragment) : Fragment :=
  match parts with
  | .blockHead trim name :: rest => .nodes [.block trim name (body rest) (closing rest)]
  | .macroOpening trim name parameters :: rest =>
      .nodes [.macroDefinition trim name parameters (body rest) (closing rest)]
  | .filterHead trim filter :: rest => .nodes [.filtered trim filter (body rest) (closing rest)]
  | .rawHead trim :: .text content :: rest => .nodes [.raw trim content (closing rest)]
  | .loopHead trim names container :: rest =>
      let (inside, empty) := loopBodies rest
      let key := if names.length = 1 then none else names.head?
      .nodes [.loop trim key (names.getLast?.getD "") container inside empty (closing rest)]
  | _ => .nothing

/-- Reads one rule from its text and the fragments of its children. -/
def readRule (rule : Rule) (content : Text) (parts : List Fragment) : Except Reason Fragment :=
  match rule with
  | .int => Fragment.operand <$> readInt content
  | .float => pure (.operand (.float (readFloat content)))
  | .boolean => pure (.operand (.bool (content.map Char.toLower == "true".toList)))
  | .string => pure (.quoted (unquoted content))
  | .ident => pure (.name (String.ofList content))
  | .path => pure (.operand (.path (String.ofList content)))
  | .opOr => pure (.logic .or)
  | .opAnd => pure (.logic .and)
  | .opNot => pure .negation
  | .opLte => pure (.logic .lessEqual)
  | .opGte => pure (.logic .greaterEqual)
  | .opLt => pure (.logic .less)
  | .opGt => pure (.logic .greater)
  | .opEq => pure (.logic .equal)
  | .opIneq => pure (.logic .unequal)
  | .opPlus => pure (.math .plus)
  | .opMinus => pure (.math .minus)
  | .opTimes => pure (.math .times)
  | .opSlash => pure (.math .slash)
  | .opModulo => pure (.math .modulo)
  | .concatenation => pure (.operand (readJoined parts))
  | .basicExpr => pure (.operand (readMath parts))
  | .basicExprFilter | .stringExprFilter | .arrayFilter =>
      pure (.expr (.mk (firstExpr parts).operand false (filters parts)))
  | .comparisonVal => pure (.expr (readMathOf parts))
  | .comparisonExpr | .logicExpr => pure (.expr (readLogic parts))
  | .inContainer => pure (.expr (firstExpr parts))
  | .inCond =>
      let sides := parts.filterMap expr?
      let container := sides.getLast?.getD (.plain (.bool false))
      pure (.operand (.membership (firstExpr parts) container (parts.any isNegation)))
  | .logicVal => pure (.expr ((firstExpr parts).withNegation (parts.any isNegation)))
  | .array => pure (.operand (.list (parts.filterMap expr?)))
  | .stringArray => pure (.files (parts.filterMap quoted?))
  | .argument => pure (.argument (firstName parts) (firstExpr parts))
  | .fnCall => pure (.call (.mk (firstName parts) (arguments parts)))
  | .filter => pure (.filter ((parts.findSome? call?).getD (.mk (firstName parts) [])))
  | .parameter => pure (.parameter (firstName parts) (parts.findSome? expr?))
  | .macroHead => pure (.macroHead (firstName parts) (Table.ofList (parts.filterMap parameter?)))
  | .macroCall =>
      let names := parts.filterMap name?
      pure (.operand (.macroCall (names.head?.getD "") (names.getLast?.getD "") (arguments parts)))
  | .testArgument => pure (.expr (firstExpr parts))
  | .testCall => pure (.testCall (firstName parts) (parts.filterMap expr?))
  | .test | .testNot =>
      let path := match parts.head? with
        | some (.operand (.path path)) => path
        | _ => ""
      let (name, given) := (parts.findSome? testCall?).getD ("", [])
      pure (.operand (.test path (rule = .testNot) name given))
  | .printStart | .tagStart | .commentStart => pure (.opened (content.getLast? = some '-'))
  | .printEnd | .tagEnd | .commentEnd => pure (.closed (content.head? = some '-'))
  | .ignoreMissing => pure .mayMiss
  | .includeTag =>
      pure (.nodes [.including (trim parts) (parts.flatMap files?) (parts.any isMayMiss)])
  | .commentTag => pure (.nodes [.comment (trim parts)])
  | .blockTag => pure (.blockHead (trim parts) (firstName parts))
  | .macroTag =>
      let (name, parameters) := (parts.findSome? fun part => match part with
        | .macroHead name parameters => some (name, parameters)
        | _ => none).getD ("", [])
      pure (.macroOpening (trim parts) name parameters)
  | .ifTag | .elifTag => pure (.condition (trim parts) (firstExpr parts))
  | .elseTag => pure (.otherwise (trim parts))
  | .forTag => pure (.loopHead (trim parts) (parts.filterMap name?) (firstExpr parts))
  | .filterTag => pure (.filterHead (trim parts) ((parts.findSome? call?).getD (.mk (firstName parts) [])))
  | .setTag => pure (.nodes [.assignment (trim parts) (firstName parts) (firstExpr parts) false])
  | .setGlobalTag => pure (.nodes [.assignment (trim parts) (firstName parts) (firstExpr parts) true])
  | .endBlockTag | .endMacroTag | .endIfTag | .endForTag | .endFilterTag | .endRawTag =>
      pure (.ending (trim parts))
  | .breakTag => pure (.nodes [.leave (trim parts)])
  | .continueTag => pure (.nodes [.next (trim parts)])
  | .printTag => pure (.nodes [.print (trim parts) (firstExpr parts)])
  | .superTag => pure (.nodes [.super])
  | .text => pure (.nodes [.text content])
  | .rawTag => pure (.rawHead (trim parts))
  | .rawText => pure (.text content)
  | .raw | .filterSection | .forLoop | .block | .macroDefinition => pure (readSection parts)
  | .macroIf | .blockIf | .forIf | .filterIf | .contentIf => pure (.nodes [readBranch parts])
  | .extendsTag =>
      pure (.nodes [.extending (trim parts) ((parts.findSome? quoted?).getD "")])
  | .importTag =>
      pure (.nodes [.importing (trim parts) ((parts.findSome? quoted?).getD "") (firstName parts)])
  | .filterContent | .macroContent | .blockContent | .forContent | .content => pure (.nodes (body parts))
  | .template => pure (.nodes (body (parts.dropWhile Fragment.isComment)))
  | _ => pure .nothing

/-- A template that has been read: its nodes, the bodies of its blocks, its macros with their parameters, and the
namespaces in which these macros are found. -/
structure Source where
  nodes : List Node
  blocks : List (String × List Node)
  macros : List (String × List (String × Option Expr) × List Node)
  spaces : List String

mutual

def Node.blocks : Node → List (String × List Node)
  | .block _ name body _ => (name, body) :: blocksOf body
  | _ => []

def blocksOf : List Node → List (String × List Node)
  | [] => []
  | node :: rest => node.blocks ++ blocksOf rest

end

/-- The first name that has stood in the list before. -/
def firstRepeated (seen : List String) : List String → Option String
  | [] => none
  | name :: rest => if seen.contains name then some name else firstRepeated (name :: seen) rest

/-- The failure of a text that the grammar does not match, where `furthest` is the furthest notable place. The
source that is shown with it is the line of that place without line endings, or with the endings made visible where
the place is one. -/
def rejection (text : Text) (furthest : Nat) : Reason :=
  let before := text.take furthest
  let behind := text.drop furthest
  let start := (before.reverse.takeWhile (· ≠ '\n')).reverse
  let ending := behind.takeWhile (· ≠ '\n')
  let line := start ++ ending ++ (behind.drop ending.length).take 1
  let excerpt :=
    if behind.head? = some '\n' || behind.head? = some '\r' then
      line.map fun character => if character = '\r' then '␍' else if character = '\n' then '␊' else character
    else line.filter fun character => character ≠ '\r' && character ≠ '\n'
  .rejected (1 + before.count '\n') excerpt

/-- Reads a template with its grammar and trims the blanks that its tags trim. -/
def readNodes (text : Text) : Except Reason (List Node) :=
  match matchTemplate text with
  | (.matched trees _, _) => do
      let parts ← readAll readRule trees
      return Node.trimmed (body parts)
  | (_, furthest) => throw (rejection text furthest)

def Source.read (text : Text) : Except Failure Source := do
  let refuse (reason : Reason) : Failure := (Failure.of reason).within .reading
  let nodes ← (readNodes text).mapError refuse
  let blocks := blocksOf nodes
  if let some name := firstRepeated [] (blocks.map Prod.fst) then
    throw (refuse (.duplicateBlock name))
  let macros := nodes.filterMap fun node => match node with
    | .macroDefinition _ name parameters body _ => some (name, parameters, body)
    | _ => none
  if let some name := firstRepeated [] (macros.map Prod.fst) then
    throw (refuse (.duplicateMacro name))
  let parents := nodes.filterMap fun node => match node with
    | .extending _ file => some file
    | _ => none
  if let some parent := parents.getLast? then
    throw (Failure.of (if parent = oneOffName then .ownParent else .missingParent parent))
  let imports := nodes.filterMap fun node => match node with
    | .importing _ file space => some (file, space)
    | _ => none
  if let some (file, _) := imports.find? fun entry => entry.1 ≠ oneOffName then
    throw (Failure.of (.missingMacroFile file))
  return ⟨nodes, blocks, macros, (if macros.isEmpty then [] else ["self"]) ++ imports.map Prod.snd⟩

end ThemedViews.Template
