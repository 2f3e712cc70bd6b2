import ThemedViews.Template.Failure
import ThemedViews.Template.Pointer

/-!
# Where names are looked up

Rendering keeps a stack of frames: one for the template, and one for each loop, macro or included template that is
being rendered. A path is looked up in the frames from the innermost outward, then in the data. Brackets in a path
hold a quoted key, a number, or a path of its own, whose value takes its place.
-/

namespace ThemedViews.Template

/-- Whether the rest of a loop's body is left out, and whether the loop goes on behind it. -/
inductive Signal where
  | none
  | leave
  | next
  deriving Repr, DecidableEq

/-- A loop that is being rendered: its names, what it runs over, with the keys of an object, and how often its body is
rendered at most. A loop over a text has a round for each character, but its items are the clusters of the text, so the
last rounds may have none. -/
structure Loop where
  key : Option String
  name : String
  items : List (String × Value)
  rounds : Nat
  position : Nat
  signal : Signal

/-- What a frame was opened for. -/
inductive FrameKind where
  | origin
  | macroBody (space name : String)
  | loop
  | included
  deriving Repr, DecidableEq

/-- A frame: the values that were set in it, and the loop that it belongs to. -/
structure Frame where
  kind : FrameKind
  bindings : Scope
  loop : Option Loop

/-- The path under which the whole context can be printed. -/
def contextName : String :=
  "__tera_context"

namespace Loop

/-- The entry that the loop has reached. -/
def current? (loop : Loop) : Option (String × Value) :=
  loop.items[loop.position]?

/-- What a path means in a loop: its key, its counters, or a part of its current item. -/
def find? (loop : Loop) (path : Text) : Option Value :=
  if loop.key.map String.toList = some path then loop.current?.map fun entry => .text entry.1
  else
    let (name, behind) := (Text.splitOnce? ['.'] path).getD (path, [])
    if name = "loop".toList then
      match String.ofList behind with
      | "index" => some (.ofInt (loop.position + 1))
      | "index0" => some (.ofInt loop.position)
      | "first" => some (.bool (loop.position = 0))
      | "last" => some (.bool (loop.position + 1 = loop.rounds))
      | _ => none
    else if name = loop.name.toList then loop.current?.bind fun entry => Pointer.follow? entry.2 behind
    else none

end Loop

namespace Frame

/-- What a path means in the values set in a frame. -/
def findBinding? (frame : Frame) (path : Text) : Option Value :=
  match Text.splitOnce? ['.'] path with
  | some (name, behind) => (frame.bindings.lookup (String.ofList name)).bind fun value => Pointer.follow? value behind
  | none => frame.bindings.lookup (String.ofList path)

/-- What a path means in a frame. -/
def find? (frame : Frame) (path : Text) : Option Value :=
  (frame.findBinding? path).or (frame.loop.bind fun loop => loop.find? path)

/-- Whether the frames behind this one are out of sight. -/
def isLast (frame : Frame) : Bool :=
  match frame.kind with
  | .origin | .macroBody _ _ => true
  | _ => false

end Frame

/-- What a path means in the data. -/
def findData? (data : Scope) (path : Text) : Option Value :=
  match Text.splitOnce? ['.'] path with
  | some (root, behind) => (data.lookup (Pointer.key root)).bind fun value => Pointer.follow? value behind
  | none => data.lookup (String.ofList path)

/-- What a path without brackets means, in the frames from the innermost outward and then in the data. -/
def findPath? (data : Scope) (path : Text) : List Frame → Option Value
  | [] => findData? data path
  | frame :: outer =>
      match frame.find? path with
      | some value => some value
      | none => if frame.isLast then findData? data path else findPath? data path outer

/-- Whether the content of brackets is a number, which may have a plus sign. -/
def isPosition (content : Text) : Bool :=
  (Text.toWord? ((['+'].isPrefixOf? content).getD content)).isSome

/-- The contents of the brackets of a path, those that are quoted or numbers left out. What is inside of brackets
that are open is `inside`, in reverse, with the number of open brackets. -/
def bracketed (inside : Option (Nat × Text)) : Text → List Text
  | [] => []
  | character :: rest =>
      match inside with
      | none =>
          if character = '[' then
            match rest with
            | first :: behind =>
                if first = '"' || first = '\x27' then bracketed none behind
                else bracketed (some (1, [first])) behind
            | [] => []
          else bracketed none rest
      | some (count, content) =>
          if character = ']' && count = 1 then
            let whole := content.reverse
            let others := bracketed none rest
            if isPosition whole then others else whole :: others
          else
            let depth := if character = ']' then count - 1 else if character = '[' then count + 1 else count
            bracketed (some (depth, character :: content)) rest

/-- The pointer for a path in which all inner paths have been replaced. -/
def withoutBrackets (path : Text) : Text :=
  [("/", "~1"), ("['", ".\""), ("[\"", ".\""), ("[", "."), ("']", "\""), ("\"]", "\""), ("]", "")].foldl
    (fun text (needle, image) => Text.replace needle.toList image.toList text) path

def withIndex (path index value : Text) : Text :=
  let (before, behind) := (Text.splitOnce? (['['] ++ index ++ [']']) path).getD (path, [])
  before ++ ['.'] ++ value ++ behind

/-- How a value is written into a path. -/
def indexText? : Value → Option Text
  | .text content => some (['"'] ++ content.toList ++ ['"'])
  | .number amount => some amount.text.toList
  | _ => none

/-- What a path means. Inner paths are looked up first; `depth` bounds how deep they are nested. -/
def findNested (data : Scope) (frames : List Frame) : (depth : Nat) → Text → Except Reason Value
  | 0, path => throw (.undefined (String.ofList path))
  | depth + 1, path => do
      if '[' ∉ path then
        match findPath? data path frames with
        | some value => return value
        | none => throw (.undefined (String.ofList path))
      else
        let filled ← (bracketed none path).foldlM
          (fun filled index =>
            match findNested data frames depth index with
            | .error reason => throw (.unresolvedIndex (String.ofList path) reason.message)
            | .ok value =>
                match indexText? value with
                | some text => pure (withIndex filled index text)
                | none => throw (.unusableIndex (String.ofList index) (String.ofList path)))
          path
        let pointer := withoutBrackets filled
        match findPath? data pointer frames with
        | some value => return value
        | none => throw (.undefinedAt (String.ofList path) (String.ofList pointer))

/-- The names that can be seen, with their values; of two frames the outer one counts. -/
def visibleContext (data : Scope) : List Frame → Scope
  | frames =>
      let seen := frames.takeWhile (fun frame => !frame.isLast) ++ (frames.dropWhile (fun frame => !frame.isLast)).take 1
      let context := seen.foldl
        (fun context frame =>
          let bound := Table.overlay context frame.bindings
          match frame.loop with
          | some loop =>
              match loop.current?, loop.key with
              | some (key, item), some name => Table.insert name (.text key) (Table.insert loop.name item bound)
              | some (_, item), none => Table.insert loop.name item bound
              | none, _ => bound
          | none => bound)
        []
      match seen.getLast?.map Frame.kind with
      | some (.macroBody _ _) => context
      | _ => Table.overlay data context

/-- The value of a path. -/
def findValue (data : Scope) (frames : List Frame) (path : String) : Except Reason Value :=
  if path = contextName then pure (.text (Value.object (visibleContext data frames)).pretty)
  else findNested data frames (path.length + 1) path.toList

end ThemedViews.Template
