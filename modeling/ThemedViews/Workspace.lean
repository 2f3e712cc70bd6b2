import ThemedViews.View.Rendering

/-!
# Workspaces

A workspace has handles and views by name, and the surroundings that all of them have in common. All that can happen in
it is an action, and a history is a list of actions. A handle that is opened gets stores of its own, and every copy of
it, those in views and in their partials included, leads to them. What an action changes before it fails stays changed.
-/

namespace ThemedViews

/-- Handles and views by name, the number of handles opened so far, and what all of them have in common. -/
structure Workspace (κ ε : Type) extends Surroundings κ ε where
  environment : Environment
  opened : Nat
  handles : Table (Handle κ)
  views : Table (View κ)

/-- Something that can happen in a workspace. -/
inductive Action (κ : Type) where
  | openHandle (target : String) (parser : κ) (config : Config)
  | openFile (target : String) (parser : κ) (path : Path)
  | copyHandle (handle target : String)
  | copyWithTheme (handle target theme : String)
  | setParser (handle : String) (parser : κ)
  | setErrors (handle : String) (provider : κ)
  | setTheme (handle theme : String)
  | setLayout (handle layout : String)
  | setLocation (handle location : String)
  | registerAlias (handle key name : String)
  | share (handle key : String) (value : DataValue κ)
  | resolveShared (handle key : String)
  | makeView (handle target name : String) (data : Data κ)
  | renderNew (handle name : String) (data : Data κ)
  | copyView (view target : String)
  | copyPartial (view key target : String)
  | bind (view key : String) (value : DataValue κ)
  | bindAll (view : String) (data : Data κ)
  | addPartial (view : String) (request : View.PartialRequest κ)
  | addPartials (view : String) (requests : List (View.PartialRequest κ))
  | setViewLayout (view layout : String)
  | resolveData (view : String)
  | renderView (view : String)
  | loadFile (handle : String) (path : Path)
  | writeFile (path : Path) (bytes : ByteArray)
  | removeFile (path : Path)

/-- What an action gives. -/
inductive Reply where
  | nothing
  | value (value : Value)
  | text (content : Text)
  | refusal (error : ContextError)

namespace Workspace

variable {κ π ε : Type}

/-- A workspace without handles and views. -/
def start (environment : Environment) (files : FileTree) (outside : ε) : Workspace κ ε :=
  { toSurroundings := .start files outside, environment, opened := 0, handles := [], views := [] }

/-- A computation in a workspace. -/
abbrev Step (κ ε : Type) := Rendering (Workspace κ ε)

def inSurroundings {α : Type} (inner : Rendering (Surroundings κ ε) α) : Step κ ε α :=
  Rendering.focused toSurroundings (fun workspace around => { workspace with toSurroundings := around }) inner

/-- Puts a handle under a name. -/
def putHandle (name : String) (handle : Handle κ) (workspace : Workspace κ ε) : Workspace κ ε :=
  { workspace with handles := Table.insert name handle workspace.handles }

/-- Puts a view under a name. -/
def putView (name : String) (view : View κ) (workspace : Workspace κ ε) : Workspace κ ε :=
  { workspace with views := Table.insert name view workspace.views }

/-- Takes a handle on the newest stores, which are empty. -/
def takeIn (name : String) (handle : Handle κ) (workspace : Workspace κ ε) : Workspace κ ε :=
  putHandle name handle { workspace with
    contents := workspace.contents.put workspace.opened .empty
    shared := workspace.shared.put workspace.opened []
    opened := workspace.opened + 1 }

def withHandle (name : String) (action : Handle κ → Step κ ε Reply) : Step κ ε Reply := do
  match (← get).handles.lookup name with
  | some handle => action handle
  | none => return .nothing

def withView (name : String) (action : View κ → Step κ ε Reply) : Step κ ε Reply := do
  match (← get).views.lookup name with
  | some view => action view
  | none => return .nothing

/-- Changes a handle in its place. A change that fails may have changed something before. -/
def changeHandle (name : String) (change : Workspace κ ε → ExceptT ViewError (StateM (Handle κ)) Unit) :
    Step κ ε Reply :=
  withHandle name fun handle => do
    let (result, changed) := (change (← get)).run.run handle
    modify (putHandle name changed)
    Rendering.ofResult result
    return .nothing

/-- Changes a view in its place. A change that fails may have changed something before. -/
def changeView (name : String) (change : Workspace κ ε → ExceptT ViewError (StateM (View κ)) Unit) :
    Step κ ε Reply :=
  withView name fun view => do
    let (result, changed) := (change (← get)).run.run view
    modify (putView name changed)
    Rendering.ofResult result
    return .nothing

def render (host : Host κ π ε) (levels : Nat) (view : View κ) : Step κ ε Reply := do
  return .text (← inSurroundings (view.renderWithin host levels))

/-- Lets an action happen, where at most `levels` views are rendered inside each other. -/
def perform (host : Host κ π ε) (levels : Nat) : Action κ → Step κ ε Reply
  | .openHandle target parser config => do
      let workspace ← get
      let handle ← Rendering.ofResult (Handle.ofConfig workspace.environment parser workspace.opened config)
      modify (takeIn target handle)
      return .nothing
  | .openFile target parser path => do
      let workspace ← get
      match Handle.ofFile workspace.environment workspace.files parser workspace.opened path with
      | .ok handle =>
          modify (takeIn target handle)
          return .nothing
      | .error error => return .refusal error
  | .copyHandle handle target => withHandle handle fun found => do
      modify (putHandle target found)
      return .nothing
  | .copyWithTheme handle target theme => withHandle handle fun found => do
      modify (putHandle target (found.setTheme theme))
      return .nothing
  | .setParser handle parser => changeHandle handle fun _ => modify (Handle.setParser parser)
  | .setErrors handle provider => changeHandle handle fun _ => modify (Handle.setErrors provider)
  | .setTheme handle theme => changeHandle handle fun _ => modify (Handle.setTheme theme)
  | .setLayout handle layout => changeHandle handle fun _ => modify (Handle.setLayout layout)
  | .setLocation handle location =>
      changeHandle handle fun workspace => Handle.setLocation workspace.environment location
  | .registerAlias handle key name => changeHandle handle fun _ => modify (Handle.registerAlias key name)
  | .share handle key value => withHandle handle fun found => do
      modify fun workspace =>
        { workspace with toSurroundings := workspace.toSurroundings.share found.shared key value }
      return .nothing
  | .resolveShared handle key => withHandle handle fun found => do
      match ((← get).shared.find found.shared).lookup key with
      | some value => return .value (← inSurroundings (value.resolve host (View.renderWithin host levels)))
      | none => return .nothing
  | .makeView handle target name data => withHandle handle fun found => do
      let workspace ← get
      let view ← Rendering.ofResult (View.make host workspace.toSurroundings found name data)
      modify (putView target view)
      return .nothing
  | .renderNew handle name data => withHandle handle fun found => do
      let workspace ← get
      let view ← Rendering.ofResult (View.make host workspace.toSurroundings found name data)
      render host levels view
  | .copyView view target => withView view fun found => do
      modify (putView target found)
      return .nothing
  | .copyPartial view key target => withView view fun found => do
      match found.partials.lookup key with
      | some page =>
          modify (putView target (.ofPage page))
          return .nothing
      | none => return .nothing
  | .bind view key value => changeView view fun _ => modify (View.bind key value)
  | .bindAll view data => changeView view fun _ => modify (View.bindAll data)
  | .addPartial view request => changeView view fun workspace =>
      View.addPartial host workspace.toSurroundings request
  | .addPartials view requests => changeView view fun workspace =>
      View.addPartials host workspace.toSurroundings requests
  | .setViewLayout view layout => changeView view fun _ => modify (View.setLayout layout)
  | .resolveData view => withView view fun found => do
      return .value (.object (← inSurroundings (found.resolvedData host (View.renderWithin host levels))))
  | .renderView view => withView view (render host levels)
  | .loadFile handle path => withHandle handle fun found => do
      let workspace ← get
      let (result, around) := workspace.toSurroundings.load found.content path
      set { workspace with toSurroundings := around }
      return .text (← Rendering.ofResult result).toList
  | .writeFile path bytes => do
      modify fun workspace => { workspace with toSurroundings := workspace.toSurroundings.after (.write path bytes) }
      return .nothing
  | .removeFile path => do
      modify fun workspace => { workspace with toSurroundings := workspace.toSurroundings.after (.remove path) }
      return .nothing

/-- Lets one action after another happen; failures do not end the history. -/
def run (host : Host κ π ε) (levels : Nat) (actions : List (Action κ)) (workspace : Workspace κ ε) : Workspace κ ε :=
  actions.foldl (fun workspace action => ((perform host levels action).run.run workspace).2) workspace

end Workspace

end ThemedViews
