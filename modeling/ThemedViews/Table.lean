/-!
# Tables

A table is a list of keys with values in increasing order of the keys, each key once. Keys are compared character
by character, which is also the order of their bytes. Objects of the data model, data scopes, tag attributes and
alias tables are tables; the operations here keep the order, so that whatever lists a table lists it by key.
-/

namespace ThemedViews

/-- Values under keys, in the order of the keys. -/
abbrev Table (α : Type) := List (String × α)

namespace Table

variable {α : Type}

/-- The value under `key` becomes `value`. -/
def insert (key : String) (value : α) : Table α → Table α
  | [] => [(key, value)]
  | (other, old) :: rest =>
      if key < other then (key, value) :: (other, old) :: rest
      else if key = other then (key, value) :: rest
      else (other, old) :: insert key value rest

/-- The table of a list of entries, of which later ones replace earlier ones with the same key. -/
def ofList (entries : List (String × α)) : Table α :=
  entries.foldl (fun table entry => insert entry.1 entry.2 table) []

/-- All entries of both tables, where those of `above` replace those of `base`. -/
def overlay (base above : Table α) : Table α :=
  above.foldl (fun table entry => insert entry.1 entry.2 table) base

def keys (table : Table α) : List String :=
  table.map Prod.fst

/-- Whether `key` is bound. -/
def contains (key : String) (table : Table α) : Bool :=
  table.any fun entry => entry.1 == key

/-- The keys are in strictly increasing order. -/
def Sorted (table : Table α) : Prop :=
  (keys table).Pairwise (· < ·)

theorem lookup_insert_self (key : String) (value : α) (table : Table α) :
    (insert key value table).lookup key = some value := by
  induction table with
  | nil => simp [insert]
  | cons entry rest hypothesis =>
    obtain ⟨other, old⟩ := entry
    unfold insert
    split
    · simp
    · split
      · simp
      · rename_i different
        have unequal : (key == other) = false := by simpa using different
        simp [List.lookup_cons, unequal, hypothesis]

theorem lookup_insert_of_ne {key sought : String} (different : sought ≠ key) (value : α) (table : Table α) :
    (insert key value table).lookup sought = table.lookup sought := by
  have unequal : (sought == key) = false := by simpa using different
  induction table with
  | nil => simp [insert, List.lookup_cons, unequal]
  | cons entry rest hypothesis =>
    obtain ⟨other, old⟩ := entry
    unfold insert
    split
    · simp [List.lookup_cons, unequal]
    · split
      · rename_i same
        subst same
        simp [List.lookup_cons, unequal]
      · simp only [List.lookup_cons, hypothesis]

end Table

end ThemedViews
