import ThemedViews.ContentCache
import ThemedViews.Heap
import ThemedViews.View.Data

/-!
# Surroundings

Everything that views have in common: the files, the texts that are cached and the data that is shared, both by the
references that handles have to them, and the outside. What can be done to the surroundings is a deed.
-/

namespace ThemedViews

/-- What rendering reads and changes. -/
structure Surroundings (κ ε : Type) where
  files : FileTree
  contents : Heap ContentCache
  shared : Heap (Data κ)
  outside : ε

/-- Something done to the surroundings. -/
inductive Deed (κ ε : Type) where
  | load (content : Nat) (path : Path)
  | share (shared : Nat) (key : String) (value : DataValue κ)
  | write (path : Path) (bytes : ByteArray)
  | remove (path : Path)
  | elsewhere (outside : ε)

namespace Surroundings

variable {κ ε : Type}

/-- Nothing but the outside, with all files in a working directory. -/
def start (files : FileTree) (outside : ε) : Surroundings κ ε :=
  ⟨files, .empty, .empty, outside⟩

/-- The text of a path, by way of a cache. -/
def load (content : Nat) (path : Path) (around : Surroundings κ ε) : Except ViewError String × Surroundings κ ε :=
  let (result, cache) := (around.contents.find content).load around.files path
  (result, { around with contents := around.contents.put content cache })

/-- Shares a value under a key. -/
def share (shared : Nat) (key : String) (value : DataValue κ) (around : Surroundings κ ε) : Surroundings κ ε :=
  { around with shared := around.shared.put shared (Table.insert key value (around.shared.find shared)) }

/-- The surroundings after a deed. -/
def after (around : Surroundings κ ε) : Deed κ ε → Surroundings κ ε
  | .load content path => (around.load content path).2
  | .share shared key value => around.share shared key value
  | .write path bytes => { around with files := around.files.write path bytes }
  | .remove path => { around with files := around.files.remove path }
  | .elsewhere outside => { around with outside }

/-- The surroundings after one deed and another. -/
def afterAll (deeds : List (Deed κ ε)) (around : Surroundings κ ε) : Surroundings κ ε :=
  deeds.foldl after around

end Surroundings

end ThemedViews
