import ThemedViews.Host

/-!
# Views

The file of a view is found when the view is made, and never again. Pages that are rendered before the view, its
partials, are made when they are registered, from the same handle and theme. Every page has messages under `errors`,
its own or those of the session at the time when it is made.
-/

namespace ThemedViews

/-- The name of the messages in the data of a view. -/
def errorsKey : String :=
  "errors"

variable {κ π ε : Type}

/-- A page with its file. -/
def Page.make (host : Host κ π ε) (around : Surroundings κ ε) (handle : Handle κ) (theme name : String)
    (data : Data κ) : Except ViewError (Page κ (DataValue κ)) := do
  let path ← (handle.resolverFor theme).path around.files name
  let bound :=
    if Table.contains errorsKey data then data
    else Table.insert errorsKey (DataValue.ofValue (handle.errorBag host around).toValue) data
  return { name, theme, layout := handle.config.layout, path, data := bound, handle }

namespace View

/-- A view without partials. -/
def ofPage (page : Page κ (DataValue κ)) : View κ :=
  { toPage := page, partials := [] }

/-- A view in the theme of its handle. -/
def make (host : Host κ π ε) (around : Surroundings κ ε) (handle : Handle κ) (name : String) (data : Data κ) :
    Except ViewError (View κ) := do
  return ofPage (← Page.make host around handle handle.config.theme name data)

def bind (key : String) (value : DataValue κ) (view : View κ) : View κ :=
  { view with data := Table.insert key value view.data }

def bindAll (data : Data κ) (view : View κ) : View κ :=
  { view with data := Table.overlay view.data data }

/-- Takes another layout. -/
def setLayout (layout : String) (view : View κ) : View κ :=
  { view with layout }

/-- A page under a key: in the place of an older one with that key, or behind all others. -/
def placed {α : Type} (key : String) (page : α) : List (String × α) → List (String × α)
  | [] => [(key, page)]
  | (other, old) :: rest =>
      if other = key then (key, page) :: rest else (other, old) :: placed key page rest

/-- Puts a page among the partials. -/
def place (key : String) (page : Page κ (DataValue κ)) (view : View κ) : View κ :=
  { view with partials := placed key page view.partials }

/-- A partial that is to be registered. -/
structure PartialRequest (κ : Type) where
  key : String
  name : String
  data : Data κ

/-- A page in the theme of the view. -/
def makePartial (host : Host κ π ε) (around : Surroundings κ ε) (request : PartialRequest κ) (view : View κ) :
    Except ViewError (Page κ (DataValue κ)) :=
  Page.make host around view.handle view.theme request.name request.data

/-- Registers a partial. -/
def addPartial (host : Host κ π ε) (around : Surroundings κ ε) (request : PartialRequest κ) :
    ExceptT ViewError (StateM (View κ)) Unit := do
  let page ← ExceptT.mk (pure ((← get).makePartial host around request))
  modify (place request.key page)

/-- Registers several partials: all pages are made before the first of them is registered. -/
def addPartials (host : Host κ π ε) (around : Surroundings κ ε) (requests : List (PartialRequest κ)) :
    ExceptT ViewError (StateM (View κ)) Unit := do
  let view ← get
  let pages ← ExceptT.mk (pure (requests.mapM fun request => do
    return (request.key, ← view.makePartial host around request)))
  pages.forM fun (key, page) => modify (place key page)

end View

end ThemedViews
