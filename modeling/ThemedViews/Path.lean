import ThemedViews.Text.Basic

/-!
# Paths

A path is a text with slashes between its components. Empty components and single dots between others do not
count, so several texts may name the same path; the text is kept as it was given.
-/

namespace ThemedViews

structure Path where
  text : String
  deriving Repr, DecidableEq

namespace Path

inductive Component where
  | root
  | current
  | parent
  | normal (name : Text)
  deriving Repr, DecidableEq

/-- A component that may stand anywhere; nothing for an empty one and for a single dot. -/
def component? (name : Text) : Option Component :=
  if name = [] || name = ['.'] then none
  else if name = ['.', '.'] then some .parent
  else some (.normal name)

/-- The components of a path. A single dot counts only at the very beginning. -/
def componentsOf (text : Text) : List Component :=
  let names := text.splitOn '/'
  let inner := names.filterMap component?
  if text.head? = some '/' then .root :: inner
  else if names.head? = some ['.'] then .current :: inner
  else inner

def components (path : Path) : List Component :=
  componentsOf path.text.toList

/-- Whether the path begins at the root. -/
def isAbsolute (path : Path) : Bool :=
  path.text.toList.head? = some '/'

/-- The path of `name` under `base`, where an absolute `name` stands for itself. -/
def join (base : Path) (name : String) : Path :=
  if name.toList.head? = some '/' || base.text.isEmpty then ⟨name⟩
  else if base.text.toList.getLast? = some '/' then ⟨base.text ++ name⟩
  else ⟨base.text ++ "/" ++ name⟩

end Path

end ThemedViews
