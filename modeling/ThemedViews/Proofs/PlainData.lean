import ThemedViews.Proofs.CompletedRenderings
import ThemedViews.Proofs.ResolvedData

/-!
# Plain values as data

A plain value becomes data by turning objects into mappings, objects in objects
too, while lists stay whole with all that is in them.  There is nothing to render
in such data, and resolving it gives the plain value back.
-/

namespace ThemedViews

variable {κ π ε : Type}

/-- The value that keys lead to, one after another. -/
def Value.reached : List String → Value → Option Value
  | [], value => some value
  | key :: place, .object entries => (entries.lookup key).bind (Value.reached place)
  | _ :: _, _ => none

namespace DataValue

theorem lookup_ofEntries (entries : Scope) (key : String) :
    (ofEntries entries : Data κ).lookup key = (entries.lookup key).map ofValue := by
  induction entries with
  | nil => rfl
  | cons entry rest ih =>
      obtain ⟨other, value⟩ := entry
      rw [ofEntries, Table.lookup_cons, Table.lookup_cons, ih]
      by_cases same : key = other
      · simp [same]
      · simp [same]

/-- Keys lead through data as they lead through the value. -/
theorem reached_ofValue (place : List String) (value : Value) :
    (ofValue value : DataValue κ).reached place = (value.reached place).map ofValue := by
  induction place generalizing value with
  | nil => rfl
  | cons key place ih =>
      cases value with
      | object entries =>
          rw [ofValue, reached, Value.reached, lookup_ofEntries]
          cases entries.lookup key with
          | none => rfl
          | some inner => exact ih inner
      | null | bool _ | number _ | text _ | list _ => rfl

mutual

theorem occurrences_ofValue (value : Value) : occurrences (ofValue value : DataValue κ) = [] := by
  match value with
  | .object entries => exact occurrencesOfEntries_ofEntries entries
  | .null | .bool _ | .number _ | .text _ | .list _ => rfl

theorem occurrencesOfEntries_ofEntries (entries : List (String × Value)) :
    occurrencesOfEntries (ofEntries entries : Data κ) = [] := by
  match entries with
  | [] => rfl
  | (key, value) :: rest =>
      rw [ofEntries, occurrencesOfEntries, occurrences_ofValue value, occurrencesOfEntries_ofEntries rest]
      rfl

end

/-- A plain value is resolved to itself, and an object to its entries; other values
have no entries.  Nothing is rendered on the way, and the data is mappings just
where the value is objects that are not in lists. -/
theorem outcome_resolve_ofValue (host : Host κ π ε) (renderView : View κ → Rendering (Surroundings κ ε) Text)
    (value : Value) (around : Surroundings κ ε) :
    outcome (resolve host renderView (ofValue value)) around = (.ok value, around) ∧
      (∀ entries, value = .object entries →
        outcome (resolveEntries host renderView (Data.ofValue value)) around = (.ok entries, around)) ∧
      ((∀ entries, value ≠ .object entries) → (Data.ofValue value : Data κ) = []) ∧
      occurrences (ofValue value : DataValue κ) = [] ∧
      ∀ place, (ofValue value : DataValue κ).reached place = (value.reached place).map ofValue := by
  refine ⟨?_, ?_, ?_, occurrences_ofValue value, fun place => reached_ofValue place value⟩
  · rw [resolve_ofValue, outcome_pure]
  · rintro entries rfl
    rw [Data.ofValue, resolveEntries_ofEntries, outcome_pure]
  · intro noObject
    cases value with
    | object entries => exact absurd rfl (noObject entries)
    | null | bool _ | number _ | text _ | list _ => rfl

end DataValue

end ThemedViews
