import ThemedViews.Decimal.Binary
import ThemedViews.ViewError

/-!
# Cached file contents

The first successful load of a path reads its file; all later ones give the same text again. Paths with the same
components are the same path. Nothing is ever dropped, and failures are not kept.
-/

namespace ThemedViews

/-- The texts loaded so far, in the order of loading, and how often a load found one or did not. -/
structure ContentCache where
  entries : List (List Path.Component × String)
  hits : Nat
  misses : Nat

namespace ContentCache

/-- Nothing loaded yet. -/
def empty : ContentCache :=
  ⟨[], 0, 0⟩

instance : Inhabited ContentCache :=
  ⟨empty⟩

/-- The text kept for a path. -/
def find? (cache : ContentCache) (path : Path) : Option String :=
  cache.entries.lookup path.components

/-- Whether a text is kept for a path. -/
def contains (cache : ContentCache) (path : Path) : Bool :=
  (cache.find? path).isSome

/-- The number of texts. -/
def size (cache : ContentCache) : Nat :=
  cache.entries.length

/-- Whether there are no texts. -/
def isEmpty (cache : ContentCache) : Bool :=
  cache.entries.isEmpty

/-- The text of a path, read from its file if it is not kept yet. -/
def load (files : FileTree) (path : Path) (cache : ContentCache) : Except ViewError String × ContentCache :=
  match cache.find? path with
  | some text => (.ok text, { cache with hits := cache.hits + 1 })
  | none =>
      match files.read path with
      | .ok text =>
          (.ok text,
            { cache with entries := cache.entries ++ [(path.components, text)], misses := cache.misses + 1 })
      | .error cause => (.error (.ioFailure path cause), { cache with misses := cache.misses + 1 })

/-- The share of loads that found a text, in percent. -/
def hitRate (cache : ContentCache) : Float :=
  let loads := cache.hits + cache.misses
  if loads = 0 then 0 else Float.ofNat cache.hits / Float.ofNat loads * 100

end ContentCache

end ThemedViews
