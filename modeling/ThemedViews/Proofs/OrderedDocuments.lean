import ThemedViews.Proofs.Tables
import ThemedViews.Toml.Reader

/-!
# Documents in the order of their keys

A document grows by one header or pair after the other, at any depth of its tables.
Whatever a text says, and in whatever order it names the keys, all tables that are
read from it are in the order of their keys.
-/

namespace ThemedViews.Toml

/-- All tables in a value are in the order of their keys. -/
inductive Node.Ordered : Node → Prop where
  | text (content : String) : Ordered (.text content)
  | moment (spelling : String) : Ordered (.moment spelling)
  | other : Ordered .other
  | list {items : List Node} (each : ∀ item ∈ items, Ordered item) : Ordered (.list items)
  | table {origin : Origin} {entries : Entries} (sorted : Table.Sorted entries)
      (each : ∀ entry ∈ entries, Ordered entry.2) : Ordered (.table origin entries)
  | tables {last : Entries} (sorted : Table.Sorted last) (each : ∀ entry ∈ last, Ordered entry.2) :
      Ordered (.tables last)

namespace Entries

/-- The keys and all tables below them are in order. -/
structure Ordered (entries : Entries) : Prop where
  sorted : Table.Sorted entries
  each : ∀ entry ∈ entries, entry.2.Ordered

variable {entries changed : Entries} {key : String} {value : Node} {way : Way} {path : List String}

theorem ordered_nil : Ordered [] :=
  ⟨Table.sorted_nil, fun _ member => absurd member List.not_mem_nil⟩

theorem Ordered.insert (ordered : entries.Ordered) (isOrdered : value.Ordered) (key : String) :
    Ordered (Table.insert key value entries) where
  sorted := ordered.sorted.insert key value
  each := by
    intro entry member
    rcases Table.eq_or_mem_of_mem_insert member with rfl | before
    · exact isOrdered
    · exact ordered.each entry before

theorem Ordered.of_lookup (ordered : entries.Ordered) (found : entries.lookup key = some value) : value.Ordered := by
  obtain ⟨before, behind, rfl, -⟩ := List.lookup_eq_some_iff.mp found
  exact ordered.each (key, value) (List.mem_append_right before List.mem_cons_self)

theorem Ordered.table {origin : Origin} (ordered : entries.Ordered) : Node.Ordered (.table origin entries) :=
  .table ordered.sorted ordered.each

theorem Ordered.tables (ordered : entries.Ordered) : Node.Ordered (.tables entries) :=
  .tables ordered.sorted ordered.each

theorem ordered_of_table {origin : Origin} (ordered : Node.Ordered (.table origin entries)) : entries.Ordered := by
  cases ordered with
  | table sorted each => exact ⟨sorted, each⟩

theorem ordered_of_tables (ordered : Node.Ordered (.tables entries)) : entries.Ordered := by
  cases ordered with
  | tables sorted each => exact ⟨sorted, each⟩

/-- A change at the end of a path leaves everything in order if it does so there. -/
theorem Ordered.change {step : Entries → Option Entries}
    (keeps : ∀ {before after : Entries}, before.Ordered → step before = some after → after.Ordered)
    (ordered : entries.Ordered) (isChanged : Entries.change way step path entries = some changed) :
    changed.Ordered := by
  induction path generalizing entries changed with
  | nil => exact keeps ordered isChanged
  | cons key rest ih =>
      rw [Entries.change] at isChanged
      split at isChanged
      · obtain ⟨inner, isInner, ⟨⟩⟩ := Option.bind_eq_some_iff.mp isChanged
        exact ordered.insert (ih ordered_nil isInner).table key
      · next origin inner found =>
          split at isChanged
          · obtain ⟨grown, isGrown, ⟨⟩⟩ := Option.bind_eq_some_iff.mp isChanged
            exact ordered.insert (ih (ordered_of_table (ordered.of_lookup found)) isGrown).table key
          · cases isChanged
      · next inner found =>
          split at isChanged
          · obtain ⟨grown, isGrown, ⟨⟩⟩ := Option.bind_eq_some_iff.mp isChanged
            exact ordered.insert (ih (ordered_of_tables (ordered.of_lookup found)) isGrown).tables key
          · cases isChanged
      · cases isChanged

theorem Ordered.addNew (ordered : entries.Ordered) (isOrdered : value.Ordered)
    (added : Entries.addNew key value entries = some changed) : changed.Ordered := by
  rw [Entries.addNew] at added
  split at added
  · cases added
  · cases added
    exact ordered.insert isOrdered key

theorem Ordered.addPair (ordered : entries.Ordered) (isOrdered : value.Ordered)
    (added : Entries.addPair path key value entries = some changed) : changed.Ordered :=
  ordered.change (fun before added => before.addNew isOrdered added) added

theorem Ordered.openTable (ordered : entries.Ordered) (opened : Entries.openTable key entries = some changed) :
    changed.Ordered := by
  rw [Entries.openTable] at opened
  split at opened
  · cases opened
    exact ordered.insert ordered_nil.table key
  · next inner found =>
      cases opened
      exact ordered.insert (ordered_of_table (ordered.of_lookup found)).table key
  · cases opened

theorem Ordered.openNext (ordered : entries.Ordered) (opened : Entries.openNext key entries = some changed) :
    changed.Ordered := by
  rw [Entries.openNext] at opened
  split at opened
  · cases opened
    exact ordered.insert ordered_nil.tables key
  · cases opened
    exact ordered.insert ordered_nil.tables key
  · cases opened

end Entries

section Readers

variable {read : Text → Option (Node × Text)} {text rest : Text}

/-- Every value that a reader gives is in order. -/
def ReadsOrdered (read : Text → Option (Node × Text)) : Prop :=
  ∀ {text rest : Text} {value : Node}, read text = some (value, rest) → value.Ordered

theorem readScalar_ordered : ReadsOrdered readScalar := by
  intro text rest value isRead
  rw [readScalar] at isRead
  split at isRead
  · obtain ⟨found, -, same⟩ := Option.map_eq_some_iff.mp isRead
    cases same
    exact .text _
  · split at isRead
    · cases isRead
      exact .moment _
    · dsimp only at isRead
      split at isRead
      · cases isRead
        exact .other
      · cases isRead

theorem readItems_ordered (reads : ReadsOrdered read) {limit : Nat} {items : List Node}
    (isRead : readItems read limit text = some (items, rest)) : ∀ item ∈ items, item.Ordered := by
  induction limit generalizing text items with
  | zero => cases isRead
  | succ limit ih =>
      rw [readItems] at isRead
      obtain ⟨behind, -, isRead⟩ := Option.bind_eq_some_iff.mp isRead
      split at isRead
      · cases isRead
        exact fun _ member => absurd member List.not_mem_nil
      · obtain ⟨⟨first, afterFirst⟩, isFirst, isRead⟩ := Option.bind_eq_some_iff.mp isRead
        obtain ⟨next, -, isRead⟩ := Option.bind_eq_some_iff.mp isRead
        split at isRead
        · cases isRead
          exact List.forall_mem_singleton.mpr (reads isFirst)
        · obtain ⟨⟨others, afterOthers⟩, areOthers, isRead⟩ := Option.bind_eq_some_iff.mp isRead
          cases isRead
          exact List.forall_mem_cons.mpr ⟨reads isFirst, ih areOthers⟩
        · cases isRead

variable {entries grown : Entries}

theorem readPair_ordered (reads : ReadsOrdered read) (ordered : entries.Ordered)
    (isRead : readPair read entries text = some (grown, rest)) : grown.Ordered := by
  obtain ⟨⟨⟨path, key⟩, afterKeys⟩, -, isRead⟩ := Option.bind_eq_some_iff.mp isRead
  obtain ⟨afterSign, -, isRead⟩ := Option.bind_eq_some_iff.mp isRead
  obtain ⟨⟨value, afterValue⟩, isValue, isRead⟩ := Option.bind_eq_some_iff.mp isRead
  obtain ⟨added, isAdded, isRead⟩ := Option.bind_eq_some_iff.mp isRead
  cases isRead
  exact ordered.addPair (reads isValue) isAdded

theorem readPairs_ordered (reads : ReadsOrdered read) {limit : Nat} (ordered : entries.Ordered)
    (isRead : readPairs read limit entries text = some (grown, rest)) : grown.Ordered := by
  induction limit generalizing text entries with
  | zero => cases isRead
  | succ limit ih =>
      rw [readPairs] at isRead
      obtain ⟨behind, -, isRead⟩ := Option.bind_eq_some_iff.mp isRead
      split at isRead
      · cases isRead
        exact ordered
      · obtain ⟨⟨added, afterFirst⟩, isFirst, isRead⟩ := Option.bind_eq_some_iff.mp isRead
        obtain ⟨next, -, isRead⟩ := Option.bind_eq_some_iff.mp isRead
        have stillOrdered := readPair_ordered reads ordered isFirst
        split at isRead
        · cases isRead
          exact stillOrdered
        · exact ih stillOrdered isRead
        · cases isRead

theorem readValue_ordered (levels : Nat) : ReadsOrdered (readValue levels) := by
  induction levels with
  | zero => exact readScalar_ordered
  | succ levels ih =>
      intro text rest value isRead
      unfold readValue at isRead
      split at isRead
      · obtain ⟨⟨items, behind⟩, areItems, isRead⟩ := Option.bind_eq_some_iff.mp isRead
        cases isRead
        exact .list (readItems_ordered ih areItems)
      · obtain ⟨⟨pairs, behind⟩, arePairs, isRead⟩ := Option.bind_eq_some_iff.mp isRead
        cases isRead
        exact (readPairs_ordered ih Entries.ordered_nil arePairs).table
      · exact readScalar_ordered isRead

variable {document next : Document}

theorem readStatement_ordered (ordered : document.root.Ordered)
    (isRead : readStatement document text = some (next, rest)) : next.root.Ordered := by
  unfold readStatement at isRead
  split at isRead
  · obtain ⟨⟨⟨path, key⟩, afterKeys⟩, -, isRead⟩ := Option.bind_eq_some_iff.mp isRead
    obtain ⟨root, isRoot, isRead⟩ := Option.bind_eq_some_iff.mp isRead
    obtain ⟨behind, -, isRead⟩ := Option.bind_eq_some_iff.mp isRead
    cases isRead
    exact ordered.change (fun before opened => before.openNext opened) isRoot
  · obtain ⟨⟨⟨path, key⟩, afterKeys⟩, -, isRead⟩ := Option.bind_eq_some_iff.mp isRead
    obtain ⟨root, isRoot, isRead⟩ := Option.bind_eq_some_iff.mp isRead
    obtain ⟨behind, -, isRead⟩ := Option.bind_eq_some_iff.mp isRead
    cases isRead
    exact ordered.change (fun before opened => before.openTable opened) isRoot
  · obtain ⟨⟨⟨path, key⟩, afterKeys⟩, -, isRead⟩ := Option.bind_eq_some_iff.mp isRead
    obtain ⟨afterSign, -, isRead⟩ := Option.bind_eq_some_iff.mp isRead
    obtain ⟨⟨value, afterValue⟩, isValue, isRead⟩ := Option.bind_eq_some_iff.mp isRead
    obtain ⟨root, isRoot, isRead⟩ := Option.bind_eq_some_iff.mp isRead
    cases isRead
    exact ordered.change (fun before added => before.addPair (readValue_ordered maxLevels isValue) added) isRoot

theorem readStatements_ordered {limit : Nat} (ordered : document.root.Ordered)
    (isRead : readStatements limit document text = some next) : next.root.Ordered := by
  induction limit generalizing document text with
  | zero => cases isRead
  | succ limit ih =>
      rw [readStatements] at isRead
      obtain ⟨behind, -, isRead⟩ := Option.bind_eq_some_iff.mp isRead
      split at isRead
      · cases isRead
        exact ordered
      · obtain ⟨⟨grown, afterFirst⟩, isFirst, isRead⟩ := Option.bind_eq_some_iff.mp isRead
        obtain ⟨line, -, isRead⟩ := Option.bind_eq_some_iff.mp isRead
        exact ih (readStatement_ordered ordered isFirst) isRead

/-- All tables of a document that was read are in order. -/
theorem read_ordered {content : String} {tables : Entries} (isRead : Toml.read content = some tables) :
    tables.Ordered := by
  obtain ⟨document, isDocument, rfl⟩ := Option.map_eq_some_iff.mp isRead
  exact readStatements_ordered Entries.ordered_nil isDocument

end Readers

end ThemedViews.Toml
