import ThemedViews.Handle

/-!
# Data of views

A view is bound to data under names: plain values, nested tables, things that the host renders, and other views. What
the host renders is known by a name here.
-/

namespace ThemedViews

/-- A view name with its file and its own data, made from a handle, in a theme and with a layout. -/
structure Page (κ δ : Type) where
  name : String
  theme : String
  layout : String
  path : Path
  data : List (String × δ)
  handle : Handle κ

/-- A page with the pages that are rendered before it. -/
structure ViewOf (κ δ : Type) extends Page κ δ where
  partials : List (String × Page κ δ)

/-- Something that a view can be bound to. -/
inductive DataValue (κ : Type) where
  | scalar (value : Value)
  | nested (entries : List (String × DataValue κ))
  | renderable (name : κ)
  | view (view : ViewOf κ (DataValue κ))

abbrev View (κ : Type) := ViewOf κ (DataValue κ)

abbrev Data (κ : Type) := Table (DataValue κ)

namespace DataValue

variable {κ : Type}

instance : Inhabited (DataValue κ) :=
  ⟨.scalar .null⟩

mutual

/-- A plain value as data: objects are nested tables. -/
def ofValue : Value → DataValue κ
  | .object entries => .nested (ofEntries entries)
  | value => .scalar value

def ofEntries : List (String × Value) → List (String × DataValue κ)
  | [] => []
  | (key, value) :: rest => (key, ofValue value) :: ofEntries rest

end

mutual

/-- The data with the kind of each part; of what can be rendered nothing shows. -/
def spelled : DataValue κ → String
  | .scalar value => "Scalar(" ++ value.spelled ++ ")"
  | .nested entries => "Nested(\x7b" ++ spelledEntries "" entries ++ "\x7d)"
  | .renderable _ => "Renderable(..)"
  | .view _ => "Renderable(..)"

/-- Entries with their kinds, the first behind `separator` and each other one behind a comma. -/
def spelledEntries (separator : String) : List (String × DataValue κ) → String
  | [] => ""
  | (key, value) :: rest =>
      separator ++ Value.quotedText key ++ ": " ++ spelled value ++ spelledEntries ", " rest

end

end DataValue

namespace Data

variable {κ : Type}

/-- The data in a plain value; only objects have data. -/
def ofValue : Value → Data κ
  | .object entries => DataValue.ofEntries entries
  | _ => []

/-- The data with the kind of each part. -/
def spelled (data : Data κ) : String :=
  "\x7b" ++ DataValue.spelledEntries "" data ++ "\x7d"

end Data

end ThemedViews
