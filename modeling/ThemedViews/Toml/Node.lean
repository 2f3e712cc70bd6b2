import ThemedViews.Table

/-!
# Trees of configuration values

A document is a tree of tables. A table comes about in one of four ways, and these decide what may be added to it
later: a table with a header of its own can be passed by longer headers, but has no second header and takes no dotted
keys; one that only longer headers have passed can still get its header; one that dotted keys have made takes further
dotted keys; an inline table takes nothing. Of several tables under one repeated header the last one grows.
-/

namespace ThemedViews.Toml

/-- How a table came about. -/
inductive Origin where
  | header
  | passed
  | dotted
  | inline
  deriving Repr, DecidableEq

/-- A value of a document. -/
inductive Node where
  | text (content : String)
  | moment (spelling : String)
  | other
  | list (items : List Node)
  | table (origin : Origin) (entries : List (String × Node))
  | tables (last : List (String × Node))

/-- Values under keys. -/
abbrev Entries := ThemedViews.Table Node

/-- How a path through tables is written. -/
inductive Way where
  | byHeader
  | byDots
  deriving Repr, DecidableEq

namespace Way

/-- How tables come about that are made on the way. -/
def origin : Way → Origin
  | byHeader => .passed
  | byDots => .dotted

/-- Whether the way may enter a table; dots may end only in a table that dots have made. -/
def enters (way : Way) (isLast : Bool) (origin : Origin) : Bool :=
  match way, origin with
  | byHeader, .inline => false
  | byHeader, _ => true
  | byDots, .dotted => true
  | byDots, .passed => !isLast
  | byDots, _ => false

def entersLast (way : Way) (isLast : Bool) : Bool :=
  match way with
  | byHeader => true
  | byDots => !isLast

end Way

namespace Entries

/-- Changes the table at the end of a path, where missing tables are made. -/
def change (way : Way) (change : Entries → Option Entries) : (path : List String) → Entries → Option Entries
  | [], entries => change entries
  | key :: rest, entries =>
      match entries.lookup key with
      | none => do
          let inner ← Entries.change way change rest []
          return ThemedViews.Table.insert key (.table way.origin inner) entries
      | some (.table origin inner) =>
          if way.enters rest.isEmpty origin then do
            let inner ← Entries.change way change rest inner
            return ThemedViews.Table.insert key (.table origin inner) entries
          else none
      | some (.tables inner) =>
          if way.entersLast rest.isEmpty then do
            let inner ← Entries.change way change rest inner
            return ThemedViews.Table.insert key (.tables inner) entries
          else none
      | some _ => none

/-- A value under a new key. -/
def addNew (key : String) (value : Node) (entries : Entries) : Option Entries :=
  if ThemedViews.Table.contains key entries then none else some (ThemedViews.Table.insert key value entries)

/-- A value under a new key, with the dotted keys before it. -/
def addPair (path : List String) (key : String) (value : Node) : Entries → Option Entries :=
  change .byDots (addNew key value) path

def openTable (key : String) (entries : Entries) : Option Entries :=
  match entries.lookup key with
  | none => some (ThemedViews.Table.insert key (.table .header []) entries)
  | some (.table .passed inner) => some (ThemedViews.Table.insert key (.table .header inner) entries)
  | some _ => none

/-- Opens one more table of a repeated header. -/
def openNext (key : String) (entries : Entries) : Option Entries :=
  match entries.lookup key with
  | none | some (.tables _) => some (ThemedViews.Table.insert key (.tables []) entries)
  | some _ => none

end Entries

end ThemedViews.Toml
