import ThemedViews.Halt
import ThemedViews.Template.Frame
import ThemedViews.Template.Reading

/-!
# Running templates

A run has a stack of frames and ends with a result, with a failure, or unfinished when its allowance of nested
steps is used up. A failure leaves the frames as they were when it happened: they tell in which macro that was.
-/

namespace ThemedViews.Template

/-- Something that is done with the frames at hand. -/
abbrev Run := ExceptT (Halt Failure) (StateM (List Frame))

namespace Run

variable {α : Type}

def fail (reason : Reason) : Run α :=
  throw (.failed (.of reason))

/-- A result, or a failure for the reason why there is none. -/
def lift : Except Reason α → Run α
  | .ok value => pure value
  | .error reason => fail reason

def changing (change : Failure → Failure) (run : Run α) : Run α :=
  tryCatch run fun halt =>
    match halt with
    | .failed failure => throw (.failed (change failure))
    | .unfinished => throw .unfinished

/-- Puts a reason in front of failures. -/
def within (outer : Reason) (run : Run α) : Run α :=
  changing (Failure.within outer) run

/-- Keeps only the first message of failures. -/
def restated (run : Run α) : Run α :=
  changing (fun failure => .of (.restated failure.reason.message)) run

/-- Takes a value in place of failures. -/
def orElse (otherwise : α) (run : Run α) : Run α :=
  tryCatch run fun halt =>
    match halt with
    | .failed _ => pure otherwise
    | .unfinished => throw .unfinished

/-- Opens a frame. -/
def push (frame : Frame) : Run Unit :=
  modify (frame :: ·)

/-- Closes the innermost frame. -/
def pop : Run Unit :=
  modify (List.drop 1)

/-- Changes the innermost frame. -/
def changeTop (change : Frame → Frame) : Run Unit :=
  modify fun frames => match frames with
    | [] => []
    | frame :: outer => change frame :: outer

/-- Sets a name in the innermost frame. -/
def assign (name : String) (value : Value) : Run Unit :=
  changeTop fun frame => { frame with bindings := Table.insert name value frame.bindings }

/-- Sets a name in the innermost frame that is not that of a loop. -/
def assignEverywhere (name : String) (value : Value) : Run Unit :=
  modify fun frames =>
    let loops := frames.takeWhile fun frame => frame.kind = .loop
    match frames.drop loops.length with
    | [] => frames
    | frame :: outer =>
        loops ++ { frame with bindings := Table.insert name value frame.bindings } :: outer

/-- The signal of the innermost loop, if its frame is the innermost one. -/
def signal : Run Signal := do
  return ((← get).head?.bind Frame.loop).elim .none Loop.signal

/-- Gives a signal to the loop of the innermost frame. -/
def setSignal (signal : Signal) : Run Unit :=
  changeTop fun frame => { frame with loop := frame.loop.map fun loop => { loop with signal := signal } }

/-- Goes on with the next item of the innermost loop; what was set for the last one is forgotten. -/
def advance : Run Unit :=
  changeTop fun frame =>
    { frame with
      bindings := []
      loop := frame.loop.map fun loop => { loop with position := loop.position + 1, signal := .none } }

/-- Renders nodes until a signal says that the rest is left out. -/
def body {β : Type} (render : β → Run Text) : List β → Run Text
  | [] => pure []
  | node :: rest => do
      let text ← render node
      if (← signal) = .none then return text ++ (← body render rest) else return text

/-- Renders the body of a loop for a number of items. -/
def repeated (render : Run Text) : Nat → Run Text
  | 0 => pure []
  | count + 1 => do
      let text ← render
      if (← signal) = .leave then return text
      advance
      return text ++ (← repeated render count)

end Run

end ThemedViews.Template
