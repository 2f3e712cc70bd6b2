import ThemedViews.Decimal.Spelling
import ThemedViews.Template.Frame
import ThemedViews.Text.Cluster
import ThemedViews.Text.Markup

/-!
# Filters

A filter turns a value into another one, with named arguments. Arguments that a filter does not know are ignored.
The filters `date`, `filesizeformat` and `slugify` are left out: they fail as unknown names do.
-/

namespace ThemedViews.Template

abbrev Filter := Value → Scope → Except Reason Value

namespace Filter

/-- The value as a text. -/
def textOf (filter : String) : Value → Except Reason Text
  | .text content => pure content.toList
  | value => throw (.wrongValue filter value "String")

/-- The value as a list. -/
def listOf (filter : String) : Value → Except Reason (List Value)
  | .list items => pure items
  | value => throw (.wrongValue filter value "Vec<Value>")

def textArgument (filter argument : String) : Value → Except Reason Text
  | .text content => pure content.toList
  | value => throw (.wrongArgument filter argument value "String")

/-- A text argument, which may be left out. -/
def textOr (filter argument : String) (otherwise : Text) (arguments : Scope) : Except Reason Text :=
  match arguments.lookup argument with
  | some value => textArgument filter argument value
  | none => pure otherwise

/-- A truth value as an argument; it is false where it is left out. -/
def flag (filter argument : String) (arguments : Scope) : Except Reason Bool :=
  match arguments.lookup argument with
  | none => pure false
  | some (.bool truth) => pure truth
  | some value => throw (.wrongArgument filter argument value "bool")

/-- A whole number of a kind as an argument, which may be left out. -/
def wholeOr (filter argument kind : String) (least most otherwise : Int) (arguments : Scope) : Except Reason Int :=
  match arguments.lookup argument with
  | none => pure otherwise
  | some (.number (.int value)) =>
      if least ≤ value && value ≤ most then pure value
      else throw (.wrongArgument filter argument (.ofInt value) kind)
  | some value => throw (.wrongArgument filter argument value kind)

/-- The value as a floating number. -/
def floatOf (filter : String) : Value → Except Reason Float
  | .number amount => pure amount.toFloat
  | value => throw (.wrongValue filter value "f64")

/-- A floating number as data, where there are only finite ones. -/
def finite (value : Float) : Value :=
  if value.isFinite then .number (.float value) else .null

def onText (name : String) (image : Text → Text) : Filter := fun value _ => do
  return .text (String.ofList (image (← textOf name value)))

/-- A filter that takes one item of a list; where there is none, the result is the empty text. -/
def onList (name : String) (choose : List Value → Option Value) : Filter := fun value _ => do
  return (choose (← listOf name value)).getD (.text "")

/-- The distance of a whole number from zero; that of the least signed word is no signed word, and the word stays
as it is. -/
def magnitude (amount : Int) : Int :=
  if amount = -(Word.signedLimit : Int) then amount else amount.natAbs

/-- An argument of `replace` or `split`, which must be there. -/
def requiredText (filter argument : String) (arguments : Scope) : Except Reason Text :=
  match arguments.lookup argument with
  | some value => textArgument filter argument value
  | none => throw (.expectedArgument filter argument)

/-- Two written characters that stand for a newline, and two that stand for a tab, become these. -/
def withControls (text : Text) : Text :=
  Text.replace "\\t".toList ['\t'] (Text.replace "\\n".toList ['\n'] text)

/-- A character as HTML text. -/
def escapedChar : Char → Text
  | '&' => "&amp;".toList
  | '<' => "&lt;".toList
  | '>' => "&gt;".toList
  | '"' => "&quot;".toList
  | '\x27' => "&#x27;".toList
  | '/' => "&#x2F;".toList
  | character => [character]

mutual

/-- How a value is printed: null is empty, and objects do not show what they hold. -/
def printed : Value → Text
  | .text content => content.toList
  | .number (.int value) => (toString value).toList
  | .number (.float value) => (Decimal.Style.plain.text value).toList
  | .bool truth => (truthWord truth).toList
  | .null => []
  | .list items => ['['] ++ printedItems [] items ++ [']']
  | .object _ => "[object]".toList

/-- List items, the first behind `separator`. -/
def printedItems (separator : Text) : List Value → Text
  | [] => []
  | item :: rest => separator ++ printed item ++ printedItems ", ".toList rest

end

/-- The whole number that an index denotes, where negative ones count from the end. -/
def sliceIndex (length : Nat) (index : Float) : Nat :=
  (if 0 ≤ index then index else length.toFloat + index).toUInt64.toNat

def sliceBound (arguments : Scope) (argument : String) (length otherwise : Nat) : Except Reason Nat :=
  match arguments.lookup argument with
  | none => pure otherwise
  | some (.number amount) => pure (sliceIndex length amount.toFloat)
  | some value => throw (.wrongArgument "slice" argument value "f64")

/-- What a list is sorted by: numbers, truth values, texts, or the lengths of lists. -/
inductive SortKey where
  | number (value : Float)
  | bool (truth : Bool)
  | text (text : String)
  | length (length : Nat)

namespace SortKey

/-- Whether the first key may stand before the second. Of the two zeros the negative one stands first. -/
def le : SortKey → SortKey → Bool
  | number left, number right =>
      left < right ||
        (left == right && ((Decimal.Binary.ofFloat left).negative || !(Decimal.Binary.ofFloat right).negative))
  | bool left, bool right => !left || right
  | text left, text right => !(right < left)
  | length left, length right => left ≤ right
  | _, _ => true

/-- The key of a value, if it is of the same kind as the first value of the list. -/
def of : (first value : Value) → Except Reason SortKey
  | .number _, .number amount => pure (number amount.toFloat)
  | .number _, value => throw (.sortMixed "number" value)
  | .bool _, .bool truth => pure (bool truth)
  | .bool _, value => throw (.sortMixed "bool" value)
  | .text _, .text content => pure (text content)
  | .text _, value => throw (.sortMixed "string" value)
  | .list _, .list items => pure (length items.length)
  | .list _, value => throw (.sortMixed "array" value)
  | .null, _ => throw (.unsortable "Null")
  | .object _, _ => throw (.unsortable "Object")

end SortKey

/-- The part of a value that it is sorted by. -/
def sortField (field : Text) (value : Value) : Except Reason Value :=
  match Pointer.follow? value field with
  | some part => pure part
  | none => throw (.sortField (String.ofList field))

/-- A list in increasing order, equal items in the order in which they stood. -/
def sorted : Filter := fun value arguments => do
  match ← listOf "sort" value with
  | [] => return .list []
  | first :: rest =>
      let field ← match arguments.lookup "attribute" with
        | some given => textArgument "sort" "attribute" given
        | none => pure []
      let kind ← sortField field first
      let keyed ← (first :: rest).mapM fun item => do
        return ((← SortKey.of kind (← sortField field item)), item)
      return .list ((keyed.mergeSort fun left right => left.1.le right.1).map Prod.snd)

/-- The items with a field, which is named by an argument, and what stands there. -/
def withField (filter : String) (arguments : Scope) (items : List Value) : Except Reason (List (Value × Value)) := do
  match arguments.lookup "attribute" with
  | none => throw (.neededArgument filter "an" "attribute")
  | some given =>
      let field ← textArgument filter "attribute" given
      return items.filterMap fun item => (Pointer.follow? item field).map fun part => (item, part)

/-- Items under the texts of their fields. Those without one are left out. -/
def grouped : Filter := fun value arguments => do
  let items ← listOf "group_by" value
  if items.isEmpty then return .object []
  let entries := (← withField "group_by" arguments items).filterMap fun
    | (_, .null) => none
    | (item, .text key) => some (key, item)
    | (item, part) => some (part.compact, item)
  let keys := Table.keys (Table.ofList entries)
  return .object (keys.map fun key =>
    (key, .list ((entries.filter fun entry => entry.1 = key).map Prod.snd)))

/-- The items with a certain value in a field, or with any. -/
def chosen : Filter := fun value arguments => do
  let items ← listOf "filter" value
  if items.isEmpty then return .list []
  let field ← match arguments.lookup "attribute" with
    | some given => textArgument "filter" "attribute" given
    | none => throw (.neededArgument "filter" "an" "attribute")
  let sought := (arguments.lookup "value").getD .null
  return .list (items.filter fun item =>
    let part := (Pointer.follow? item field).getD .null
    if sought.same .null then !part.same .null else part.same sought)

/-- The fields of items that have one. -/
def fields : Filter := fun value arguments => do
  let items ← listOf "map" value
  if items.isEmpty then return .list []
  return .list (((← withField "map" arguments items).map Prod.snd).filter fun part => !part.same .null)

/-- The kind of a value in a list without repetitions. -/
inductive UniqueKind where
  | bool
  | whole
  | text
  deriving DecidableEq

namespace UniqueKind

def of : Value → Except Reason UniqueKind
  | .null => throw .uniqueOfNull
  | .bool _ => pure bool
  | .number (.int _) => pure whole
  | .number (.float _) => throw (.uniqueOf "floats")
  | .text _ => pure text
  | .list _ => throw (.uniqueOf "arrays")
  | .object _ => throw (.uniqueOf "objects")

/-- What a value of a kind is told apart by. -/
def key (sensitive : Bool) : UniqueKind → Value → Except Reason String
  | bool, .bool truth => pure (truthWord truth)
  | whole, .number amount =>
      match amount.toSigned? with
      | some value => pure (toString value)
      | none => throw (.sortMixed "number" (.number amount))
  | text, .text content => pure (if sensitive then content else String.ofList (Text.lower content.toList))
  | _, _ => throw .uniqueMixed

end UniqueKind

/-- The first item of each key. Items without the field are left out. -/
def distinct : Filter := fun value arguments => do
  match ← listOf "unique" value with
  | [] => return .list []
  | first :: rest =>
      let sensitive ← flag "unique" "case_sensitive" arguments
      let field ← textOr "unique" "attribute" [] arguments
      let kind ← UniqueKind.of (← sortField field first)
      let keep (kept : List (String × Value)) (item : Value) : Except Reason (List (String × Value)) :=
        match Pointer.follow? item field with
        | none => pure kept
        | some part => do
            let key ← kind.key sensitive part
            return if Table.contains key kept then kept else kept ++ [(key, item)]
      return .list ((← (first :: rest).foldlM keep []).map Prod.snd)

/-- The product of `result` and a power of `base`, by repeated squares. -/
def power (result base : Float) : (steps exponent : Nat) → Float
  | 0, _ => result
  | steps + 1, exponent =>
      let result := if exponent % 2 = 1 then result * base else result
      if exponent / 2 = 0 then result else power result (base * base) steps (exponent / 2)

def powerOfTen (exponent : Int) : Float :=
  let magnitude := power 1 10 32 exponent.natAbs
  if exponent < 0 then 1 / magnitude else magnitude

/-- A number with a given number of decimal places. -/
def rounded : Filter := fun value arguments => do
  let number ← floatOf "round" value
  let method ← textOr "round" "method" "common".toList arguments
  let places ← wholeOr "round" "precision" "i32" (-2147483648) 2147483647 0 arguments
  let scale := powerOfTen places
  match String.ofList method with
  | "common" => return finite ((scale * number).round / scale)
  | "ceil" => return finite ((scale * number).ceil / scale)
  | "floor" => return finite ((scale * number).floor / scale)
  | method => throw (.roundingMethod method)

/-- An ending for any number but one. -/
def pluralized : Filter := fun value arguments => do
  let number ← floatOf "pluralize" value
  let plural ← textOr "pluralize" "plural" ['s'] arguments
  let singular ← textOr "pluralize" "singular" [] arguments
  let epsilon := Float.ofScientific 2220446049250313 true 31
  return .text (String.ofList (if epsilon < (number.abs - 1).abs then plural else singular))

/-- The clusters of a text up to a number of them, and an ending where there are more. -/
def truncated : Filter := fun value arguments => do
  let text ← textOf "truncate" value
  let length ← wholeOr "truncate" "length" "usize" 0 (Word.unsignedLimit - 1) 255 arguments
  let ending ← textOr "truncate" "end" ['…'] arguments
  let clusters := Text.clusters text
  if clusters.length ≤ length.toNat then return value
  return .text (String.ofList ((clusters.take length.toNat).flatten ++ ending))

def indented : Filter := fun value arguments => do
  let text ← textOf "indent" value
  let margin ← textOr "indent" "prefix" "    ".toList arguments
  let first ← flag "indent" "first" arguments
  let blank ← flag "indent" "blank" arguments
  return .text (String.ofList (Text.withMargin margin first blank text))

/-- A filter that takes a text off the front or the end. -/
def trimming (name : String) (trim : (needle text : Text) → Text) : Filter := fun value arguments => do
  let text ← textOf name value
  let needle ← requiredText name "pat" arguments
  return .text (String.ofList (trim (withControls needle) text))

/-- The text without blanks at its ends. -/
def trimmed (text : Text) : Text :=
  Text.trimEndOf Text.isBlank (Text.trimStartOf Text.isBlank text)

/-- The whole number that a text spells, or that a number has before its point. -/
def whole : Filter := fun value arguments => do
  let least := -(Word.signedLimit : Int)
  let otherwise ← wholeOr "int" "default" "i64" least (Word.signedLimit - 1) 0 arguments
  let base ← wholeOr "int" "base" "u32" 0 4294967295 10 arguments
  match value with
  | .number (.int amount) =>
      -- Every number is taken for a floating one, so that large ones lose digits.
      return .ofInt (Number.int amount).toFloat.toInt64.toInt
  | .number (.float amount) => return .ofInt amount.toInt64.toInt
  | .text content =>
      let spelled := trimmed content.toList
      let digits := match base with
        | 2 => Text.trimStartMatches "0b".toList spelled
        | 8 => Text.trimStartMatches "0o".toList spelled
        | 16 => Text.trimStartMatches "0x".toList spelled
        | _ => spelled
      let read := (Decimal.wholeIn? base.toNat digits).orElse fun _ =>
        if '.' ∈ digits then (Decimal.ofText? digits).map fun amount => amount.toInt64.toInt else none
      return .ofInt (read.getD otherwise)
  | _ => throw (.unexpectedType "int")

/-- The floating number that a text spells. -/
def floating : Filter := fun value arguments => do
  let otherwise ← match arguments.lookup "default" with
    | none => pure 0
    | some (.number amount) => pure amount.toFloat
    | some given => throw (.wrongArgument "float" "default" given "f64")
  match value with
  | .number amount => return finite amount.toFloat
  | .text content =>
      return finite ((Decimal.ofText? (trimmed content.toList)).getD otherwise)
  | _ => throw (.unexpectedType "float")

/-- A character as XML text. -/
def xmlChar : Char → Text
  | '\x27' => "&apos;".toList
  | '/' => ['/']
  | character => escapedChar character

/-- Filters for texts in pages, for lists of objects, and of numbers. -/
def further? : String → Option Filter
  | "title" => some (onText "title" Text.titled)
  | "striptags" => some (onText "striptags" Text.withoutTags)
  | "spaceless" => some (onText "spaceless" Text.withoutGaps)
  | "linebreaksbr" => some (onText "linebreaksbr" Text.withBreaks)
  | "addslashes" => some (onText "addslashes" Text.withSlashes)
  | "escape_xml" => some (onText "escape_html" fun text => text.flatMap xmlChar)
  | "urlencode" => some (onText "urlencode" (Text.percentEncoded fun character =>
      character.isAlphanum || "%-./_~".toList.contains character))
  | "urlencode_strict" => some (onText "urlencode_strict" (Text.percentEncoded Char.isAlphanum))
  | "trim_start_matches" => some (trimming "trim_start_matches" Text.trimStartMatches)
  | "trim_end_matches" => some (trimming "trim_end_matches" Text.trimEndMatches)
  | "truncate" => some truncated
  | "indent" => some indented
  | "as_str" => some fun value _ => pure (.text (String.ofList (printed value)))
  | "unique" => some distinct
  | "group_by" => some grouped
  | "filter" => some chosen
  | "map" => some fields
  | "round" => some rounded
  | "pluralize" => some pluralized
  | "int" => some whole
  | "float" => some floating
  | _ => none

def named? : String → Option Filter
  | "upper" => some (onText "upper" Text.upper)
  | "lower" => some (onText "lower" Text.lower)
  | "capitalize" => some (onText "capitalize" Text.capitalized)
  | "trim" => some (onText "trim" trimmed)
  | "trim_start" => some (onText "trim_start" (Text.trimStartOf Text.isBlank))
  | "trim_end" => some (onText "trim_end" (Text.trimEndOf Text.isBlank))
  | "escape" => some (onText "escape_html" fun text => text.flatMap escapedChar)
  | "wordcount" => some fun value _ => do
      return .ofInt (Text.wordsOf Text.isBlank (← textOf "wordcount" value)).length
  | "replace" => some fun value arguments => do
      let text ← textOf "replace" value
      let needle ← requiredText "replace" "from" arguments
      let image ← requiredText "replace" "to" arguments
      return .text (String.ofList (Text.replace needle image text))
  | "split" => some fun value arguments => do
      let text ← textOf "split" value
      let needle := withControls (← requiredText "split" "pat" arguments)
      return .list ((Text.splitAt needle text).map fun part => .text (String.ofList part))
  | "first" => some (onList "first" List.head?)
  | "last" => some (onList "last" List.getLast?)
  | "nth" => some fun value arguments => do
      let items ← listOf "nth" value
      if items.isEmpty then return .text ""
      match arguments.lookup "n" with
      | some (.number (.int index)) =>
          if 0 ≤ index then return (items[index.toNat]?).getD (.text "")
          else throw (.wrongArgument "nth" "n" (.ofInt index) "usize")
      | some given => throw (.wrongArgument "nth" "n" given "usize")
      | none => throw (.neededArgument "nth" "an" "n")
  | "join" => some fun value arguments => do
      let items ← listOf "join" value
      let separator ← match arguments.lookup "sep" with
        | some given => withControls <$> textArgument "truncate" "sep" given
        | none => pure []
      return .text (String.ofList (separator.intercalate (items.map printed)))
  | "sort" => some sorted
  | "slice" => some fun value arguments => do
      let items ← listOf "slice" value
      if items.isEmpty then return .list []
      let start ← sliceBound arguments "start" items.length 0
      let stop ← sliceBound arguments "end" items.length items.length
      return .list ((items.take stop).drop start)
  | "concat" => some fun value arguments => do
      let items ← listOf "concat" value
      match arguments.lookup "with" with
      | some (.list more) => return .list (items ++ more)
      | some item => return .list (items ++ [item])
      | none => throw (.neededArgument "concat" "a" "with")
  | "length" => some fun value _ =>
      match value with
      | .list items => pure (.ofInt items.length)
      | .object entries => pure (.ofInt entries.length)
      | .text content => pure (.ofInt content.length)
      | _ => throw .lengthOfOther
  | "reverse" => some fun value _ =>
      match value with
      | .list items => pure (.list items.reverse)
      | .text content => pure (.text (String.ofList content.toList.reverse))
      | _ => throw (.reverseOfOther value)
  | "json_encode" => some fun value arguments =>
      match arguments.lookup "pretty" with
      | some (.bool true) => pure (.text value.pretty)
      | _ => pure (.text value.compact)
  | "get" => some fun value arguments => do
      let key ← match arguments.lookup "key" with
        | some given => textArgument "get" "key" given
        | none => throw (.neededArgument "get" "an" "key")
      match value with
      | .object entries =>
          match (entries.lookup (String.ofList key)).or (arguments.lookup "default") with
          | some found => return found
          | none => throw (.keyNotFound (String.ofList key))
      | _ => throw .getOfOther
  | "abs" => some fun value _ =>
      match value with
      | .number (.int amount) => pure (.ofInt (magnitude amount))
      | .number (.float amount) => pure (.number (.float amount.abs))
      | _ => throw .absOfOther
  | name => further? name

end Filter

end ThemedViews.Template
