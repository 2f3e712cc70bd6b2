import ThemedViews.Proofs.RenderingCourses
import ThemedViews.Proofs.Tables

/-!
# What resolving data runs

Each thing that can be rendered occurs in data at a place: the keys that lead to
it.  Resolving runs what occurs in the data, in the order of the places, one
after another; the value that comes out has the shape of the data, with the
output of each run in its place.  The first run that halts ends the resolving.
-/

namespace ThemedViews

open Rendering

variable {κ π ε : Type}

/-- Runs something that can be rendered, where views are rendered by `renderView`. -/
def Renderable.run (host : Host κ π ε) (renderView : View κ → Rendering (Surroundings κ ε) Text) :
    Renderable κ → Rendering (Surroundings κ ε) Text
  | .host name => ofPass (host.rendition name).render
  | .view inner => renderView inner

namespace DataValue

def renderable? : DataValue κ → Option (Renderable κ)
  | .renderable name => some (.host name)
  | .view inner => some (.view inner)
  | _ => none

/-- The data that keys lead to, one after another. -/
def reached : List String → DataValue κ → Option (DataValue κ)
  | [], value => some value
  | key :: place, .nested entries => (entries.lookup key).bind (reached place)
  | _ :: _, _ => none

mutual

/-- What can be rendered in data, with the places. -/
def occurrences : DataValue κ → List (List String × Renderable κ)
  | .scalar _ => []
  | .nested entries => occurrencesOfEntries entries
  | .renderable name => [([], .host name)]
  | .view inner => [([], .view inner)]

def occurrencesOfEntries : List (String × DataValue κ) → List (List String × Renderable κ)
  | [] => []
  | (key, value) :: rest => (occurrences value).map (Prod.map (key :: ·) id) ++ occurrencesOfEntries rest

end

mutual

/-- The plain value of data with an output in each place. -/
def shown (output : List String → Text) : DataValue κ → Value
  | .scalar value => value
  | .nested entries => .object (shownEntries output entries)
  | .renderable _ => .text (String.ofList (output []))
  | .view _ => .text (String.ofList (output []))

def shownEntries (output : List String → Text) : List (String × DataValue κ) → Scope
  | [] => []
  | (key, value) :: rest => (key, shown (fun place => output (key :: place)) value) :: shownEntries output rest

end

mutual

/-- All mappings in data are in the order of their keys. -/
def Ordered : DataValue κ → Prop
  | .nested entries => Table.Sorted entries ∧ OrderedEntries entries
  | _ => True

def OrderedEntries : List (String × DataValue κ) → Prop
  | [] => True
  | (_, value) :: rest => Ordered value ∧ OrderedEntries rest

end

section Occurrences

variable {entries : List (String × DataValue κ)} {place : List String} {renderable : Renderable κ}

theorem orderedEntries_iff : OrderedEntries entries ↔ ∀ entry ∈ entries, Ordered entry.2 := by
  induction entries with
  | nil => simp [OrderedEntries]
  | cons entry rest ih => rw [OrderedEntries, List.forall_mem_cons, ih]

theorem mem_occurrences_map {value : DataValue κ} {key : String} :
    (place, renderable) ∈ (occurrences value).map (Prod.map (key :: ·) id) ↔
      ∃ inner, place = key :: inner ∧ (inner, renderable) ∈ occurrences value := by
  constructor
  · intro member
    obtain ⟨⟨inner, _⟩, found, same⟩ := List.mem_map.mp member
    cases same
    exact ⟨inner, rfl, found⟩
  · rintro ⟨inner, rfl, found⟩
    exact List.mem_map.mpr ⟨(inner, renderable), found, rfl⟩

theorem exists_key_of_mem_occurrencesOfEntries (member : (place, renderable) ∈ occurrencesOfEntries entries) :
    ∃ key inner, place = key :: inner ∧ key ∈ Table.keys entries := by
  induction entries with
  | nil => cases member
  | cons entry rest ih =>
      rcases List.mem_append.mp member with first | later
      · obtain ⟨inner, rfl, _⟩ := mem_occurrences_map.mp first
        exact ⟨entry.1, inner, rfl, List.mem_cons_self⟩
      · obtain ⟨key, inner, same, bound⟩ := ih later
        exact ⟨key, inner, same, List.mem_cons_of_mem _ bound⟩

mutual

/-- What occurs at a place is what its keys lead to. -/
theorem mem_occurrences (value : DataValue κ) (ordered : Ordered value) (place : List String) :
    (place, renderable) ∈ occurrences value ↔ (value.reached place).bind renderable? = some renderable := by
  match value, place with
  | .scalar _, [] => simp [occurrences, reached, renderable?]
  | .scalar _, _ :: _ => simp [occurrences, reached]
  | .renderable _, [] => simp [occurrences, reached, renderable?, eq_comm]
  | .renderable _, _ :: _ => simp [occurrences, reached]
  | .view _, [] => simp [occurrences, reached, renderable?, eq_comm]
  | .view _, _ :: _ => simp [occurrences, reached]
  | .nested entries, [] =>
      rw [occurrences, mem_occurrencesOfEntries entries ordered.1.nodup ordered.2]
      simp [reached, renderable?]
  | .nested entries, key :: place =>
      rw [occurrences, mem_occurrencesOfEntries entries ordered.1.nodup ordered.2]
      simp [reached]

theorem mem_occurrencesOfEntries (entries : List (String × DataValue κ))
    (distinct : (Table.keys entries).Nodup) (ordered : OrderedEntries entries) (place : List String) :
    (place, renderable) ∈ occurrencesOfEntries entries ↔ ∃ key inner, place = key :: inner ∧
      ((entries.lookup key).bind (reached inner)).bind renderable? = some renderable := by
  match entries with
  | [] => simp [occurrencesOfEntries]
  | (other, value) :: rest =>
      obtain ⟨fresh, others⟩ := List.nodup_cons.mp distinct
      rw [occurrencesOfEntries, List.mem_append, mem_occurrences_map,
        mem_occurrencesOfEntries rest others ordered.2]
      constructor
      · rintro (⟨inner, rfl, found⟩ | ⟨key, inner, rfl, found⟩)
        · refine ⟨other, inner, rfl, ?_⟩
          rw [List.lookup_cons_self]
          exact (mem_occurrences value ordered.1 inner).mp found
        · refine ⟨key, inner, rfl, ?_⟩
          have different : key ≠ other := by
            rintro rfl
            rw [Table.lookup_eq_none_of_not_mem_keys fresh] at found
            cases found
          rwa [Table.lookup_cons, if_neg different]
      · rintro ⟨key, inner, rfl, found⟩
        rw [Table.lookup_cons] at found
        split at found
        · next same =>
            subst same
            exact .inl ⟨inner, rfl, (mem_occurrences value ordered.1 inner).mpr found⟩
        · exact .inr ⟨key, inner, rfl, found⟩

end

/-- Earlier places come first: the order of the keys, depth first. -/
def InOrder (runs : List (List String × Renderable κ)) : Prop :=
  (runs.map Prod.fst).Pairwise (List.Lex (· < ·))

mutual

theorem inOrder_occurrences (value : DataValue κ) (ordered : Ordered value) :
    InOrder (occurrences value) := by
  match value with
  | .scalar _ => exact .nil
  | .renderable _ => exact List.pairwise_singleton _ _
  | .view _ => exact List.pairwise_singleton _ _
  | .nested entries => exact inOrder_occurrencesOfEntries entries ordered.1 ordered.2

theorem inOrder_occurrencesOfEntries (entries : List (String × DataValue κ))
    (sorted : Table.Sorted entries) (ordered : OrderedEntries entries) :
    InOrder (occurrencesOfEntries entries) := by
  match entries with
  | [] => exact .nil
  | (key, value) :: rest =>
      obtain ⟨least, others⟩ := Table.sorted_cons.mp sorted
      rw [InOrder, occurrencesOfEntries, List.map_append, List.pairwise_append]
      refine ⟨?_, inOrder_occurrencesOfEntries rest others ordered.2, ?_⟩
      · have below := inOrder_occurrences value ordered.1
        rw [List.map_map, List.pairwise_map]
        exact (List.pairwise_map.mp below).imp .cons
      · intro first isFirst later isLater
        obtain ⟨⟨_, _⟩, found, rfl⟩ := List.mem_map.mp isFirst
        obtain ⟨⟨_, _⟩, foundLater, rfl⟩ := List.mem_map.mp isLater
        obtain ⟨inner, rfl, _⟩ := mem_occurrences_map.mp found
        obtain ⟨other, _, rfl, bound⟩ := exists_key_of_mem_occurrencesOfEntries foundLater
        exact .rel (least other bound)

end

end Occurrences

end DataValue

open DataValue

/-- Runs one after another, each from where the one before has led, with the
output of each place. -/
inductive RunsThrough (host : Host κ π ε) (renderView : View κ → Rendering (Surroundings κ ε) Text)
    (output : List String → Text) :
    List (List String × Renderable κ) → Surroundings κ ε → Surroundings κ ε → Prop
  | nil {around} : RunsThrough host renderView output [] around around
  | cons {place renderable runs around between later}
      (first : outcome (renderable.run host renderView) around = (.ok (output place), between))
      (rest : RunsThrough host renderView output runs between later) :
      RunsThrough host renderView output ((place, renderable) :: runs) around later

/-- What comes of runs one after another: all of them give a result, or the first
that halts is the last, and its halt is the result. -/
inductive Resolves {α : Type} (host : Host κ π ε) (renderView : View κ → Rendering (Surroundings κ ε) Text)
    (runs : List (List String × Renderable κ)) (result : (List String → Text) → α)
    (around : Surroundings κ ε) : Except (Halt ViewError) α × Surroundings κ ε → Prop
  | done {output later} (ran : RunsThrough host renderView output runs around later) :
      Resolves host renderView runs result around (.ok (result output), later)
  | halted {earlier place renderable rest output between halt later}
      (split : runs = earlier ++ (place, renderable) :: rest)
      (ran : RunsThrough host renderView output earlier around between)
      (halts : outcome (renderable.run host renderView) between = (.error halt, later)) :
      Resolves host renderView runs result around (.error halt, later)

section Resolves

variable {α β : Type} {host : Host κ π ε} {renderView : View κ → Rendering (Surroundings κ ε) Text}
  {output other : List String → Text} {runs others : List (List String × Renderable κ)}
  {around between later : Surroundings κ ε}

theorem RunsThrough.congr (ran : RunsThrough host renderView output runs around later)
    (same : ∀ run ∈ runs, output run.1 = other run.1) : RunsThrough host renderView other runs around later := by
  induction ran with
  | nil => exact .nil
  | cons first _ ih =>
      obtain ⟨here, behind⟩ := List.forall_mem_cons.mp same
      exact .cons (here ▸ first) (ih behind)

theorem RunsThrough.append (first : RunsThrough host renderView output runs around between)
    (rest : RunsThrough host renderView output others between later) :
    RunsThrough host renderView output (runs ++ others) around later := by
  induction first with
  | nil => exact rest
  | cons ran _ ih => exact .cons ran (ih rest)

theorem RunsThrough.under {key : String} (ran : RunsThrough host renderView output runs around later)
    (same : ∀ place, other (key :: place) = output place) :
    RunsThrough host renderView other (runs.map (Prod.map (key :: ·) id)) around later := by
  induction ran with
  | nil => exact .nil
  | cons first _ ih => exact .cons ((same _).symm ▸ first) ih

/-- The outputs of the places below a key, and of all others. -/
def joined (key : String) (below others : List String → Text) : List String → Text
  | [] => others []
  | other :: place => if other = key then below place else others (other :: place)

theorem Resolves.map {result : (List String → Text) → α} {action : Rendering (Surroundings κ ε) α}
    (resolves : Resolves host renderView runs result around (outcome action around)) (change : α → β) :
    Resolves host renderView runs (fun output => change (result output)) around
      (outcome (do return change (← action)) around) := by
  generalize ended : outcome action around = found at resolves
  cases resolves with
  | done ran => exact outcome_bind_of_ok ended _ ▸ .done ran
  | halted split ran halts => exact outcome_bind_of_error ended _ ▸ .halted split ran halts

end Resolves

namespace DataValue

variable {host : Host κ π ε} {renderView : View κ → Rendering (Surroundings κ ε) Text}

theorem shownEntries_congr {entries : List (String × DataValue κ)} {output other : List String → Text}
    (same : ∀ key ∈ Table.keys entries, ∀ place, output (key :: place) = other (key :: place)) :
    shownEntries output entries = shownEntries other entries := by
  induction entries with
  | nil => rfl
  | cons entry rest ih =>
      obtain ⟨here, behind⟩ := List.forall_mem_cons.mp same
      rw [shownEntries, shownEntries, funext here, ih behind]

theorem resolves_pure {α : Type} (value : α) (around : Surroundings κ ε) :
    Resolves host renderView [] (fun _ => value) around (outcome (pure value) around) := by
  have ran : RunsThrough host renderView (fun _ => []) [] around around := .nil
  exact .done ran

theorem resolves_run (renderable : Renderable κ) (around : Surroundings κ ε) :
    Resolves host renderView [([], renderable)] (fun output => Value.text (String.ofList (output []))) around
      (outcome (do return Value.text (String.ofList (← renderable.run host renderView))) around) := by
  cases ran : outcome (renderable.run host renderView) around with
  | mk found later =>
      cases found with
      | error halt =>
          rw [outcome_bind_of_error ran]
          have none : RunsThrough host renderView (fun _ => []) [] around around := .nil
          exact .halted rfl none ran
      | ok text =>
          rw [outcome_bind_of_ok ran]
          have single : RunsThrough host renderView (fun _ => text) [([], renderable)] around later :=
            .cons ran .nil
          exact .done single

section Cons

variable {key : String} {value : DataValue κ} {rest : List (String × DataValue κ)}
  (fresh : key ∉ Table.keys rest) (below others : List String → Text)

theorem joined_key (place : List String) : joined key below others (key :: place) = below place :=
  if_pos rfl

include fresh

theorem joined_other {other : String} (bound : other ∈ Table.keys rest) (place : List String) :
    joined key below others (other :: place) = others (other :: place) :=
  if_neg fun same : other = key => fresh (same ▸ bound)

theorem joined_of_mem_occurrences {run : List String × Renderable κ}
    (member : run ∈ occurrencesOfEntries rest) : others run.1 = joined key below others run.1 := by
  obtain ⟨other, inner, same, bound⟩ := exists_key_of_mem_occurrencesOfEntries member
  rw [same]
  exact (joined_other fresh below others bound inner).symm

theorem shownEntries_joined :
    shownEntries (joined key below others) ((key, value) :: rest) =
      (key, shown below value) :: shownEntries others rest := by
  rw [shownEntries, funext (joined_key below others)]
  exact congrArg _ (shownEntries_congr fun _ bound place => joined_other fresh below others bound place)

omit below others

theorem resolves_cons {around : Surroundings κ ε}
    (first : Resolves host renderView value.occurrences (fun output => value.shown output) around
      (outcome (value.resolve host renderView) around))
    (behind : ∀ between, Resolves host renderView (occurrencesOfEntries rest)
      (fun output => shownEntries output rest) between (outcome (resolveEntries host renderView rest) between)) :
    Resolves host renderView (occurrencesOfEntries ((key, value) :: rest))
      (fun output => shownEntries output ((key, value) :: rest)) around
      (outcome (resolveEntries host renderView ((key, value) :: rest)) around) := by
  rw [resolveEntries, occurrencesOfEntries]
  cases ended : outcome (value.resolve host renderView) around with
  | mk found between =>
      rw [ended] at first
      cases first with
      | @halted earlier _ _ _ output _ _ _ split ran halts =>
          -- The value halts, and nothing of the rest is run.
          rw [outcome_bind_of_error ended]
          have agree : ∀ place, joined key output (fun _ => []) (key :: place) = output place :=
            joined_key output _
          rw [split, List.map_append, List.append_assoc]
          exact .halted rfl (ran.under agree) halts
      | @done below _ ran =>
          rw [outcome_bind_of_ok ended]
          have rests := behind between
          cases endedRest : outcome (resolveEntries host renderView rest) between with
          | mk found later =>
              rw [endedRest] at rests
              cases rests with
              | @halted earlier _ _ _ others _ _ _ split ranRest halts =>
                  -- No place of the rest is below the key, so the outputs can be joined.
                  rw [outcome_bind_of_error endedRest]
                  have isEarlier : ∀ run ∈ earlier, others run.1 = joined key below others run.1 :=
                    fun run member => joined_of_mem_occurrences fresh below others
                      (split ▸ List.mem_append_left _ member)
                  have both := (ran.under (joined_key below others)).append (ranRest.congr isEarlier)
                  rw [split, ← List.append_assoc]
                  exact .halted rfl both halts
              | @done others _ ranRest =>
                  rw [outcome_bind_of_ok endedRest]
                  have both := (ran.under (joined_key below others)).append
                    (ranRest.congr fun run => joined_of_mem_occurrences fresh below others)
                  have shows : shownEntries (joined key below others) ((key, value) :: rest) = _ :=
                    shownEntries_joined fresh below others
                  exact shows ▸ .done both

end Cons

mutual

theorem resolves_resolve (value : DataValue κ) (ordered : Ordered value) (around : Surroundings κ ε) :
    Resolves host renderView value.occurrences (fun output => value.shown output) around
      (outcome (value.resolve host renderView) around) := by
  match value with
  | .scalar value => exact resolves_pure value around
  | .nested entries =>
      exact (resolves_resolveEntries entries ordered.1.nodup ordered.2 around).map Value.object
  | .renderable name => exact resolves_run (.host name) around
  | .view inner => exact resolves_run (.view inner) around

theorem resolves_resolveEntries (entries : List (String × DataValue κ))
    (distinct : (Table.keys entries).Nodup) (ordered : OrderedEntries entries) (around : Surroundings κ ε) :
    Resolves host renderView (occurrencesOfEntries entries) (fun output => shownEntries output entries) around
      (outcome (resolveEntries host renderView entries) around) := by
  match entries with
  | [] => exact resolves_pure [] around
  | (key, value) :: rest =>
      obtain ⟨fresh, others⟩ := List.nodup_cons.mp distinct
      exact resolves_cons fresh (resolves_resolve value ordered.1 around)
        (resolves_resolveEntries rest others ordered.2)

end

theorem keys_shownEntries (output : List String → Text) (entries : List (String × DataValue κ)) :
    Table.keys (shownEntries output entries) = Table.keys entries := by
  induction entries with
  | nil => rfl
  | cons entry rest ih => exact congrArg (entry.1 :: ·) ih

theorem lookup_shownEntries (output : List String → Text) (entries : List (String × DataValue κ))
    (key : String) :
    (shownEntries output entries).lookup key =
      (entries.lookup key).map (shown fun place => output (key :: place)) := by
  induction entries with
  | nil => rfl
  | cons entry rest ih =>
      obtain ⟨other, value⟩ := entry
      rw [shownEntries, Table.lookup_cons, Table.lookup_cons, ih]
      by_cases same : key = other
      · simp [same]
      · simp [same]

end DataValue

namespace View

/-- What a view sees under a key: its own data, or else what is shared. -/
def seen (shared : Data κ) (view : View κ) (key : String) : Option (DataValue κ) :=
  (view.data.lookup key).or (shared.lookup key)

/-- To resolve the data of a view is to run what occurs in the data that the view
sees, each once and in the order of the places.  The scope has what the view sees,
with the outputs of the runs. -/
theorem exists_runs_of_resolvedData (host : Host κ π ε)
    (renderView : View κ → Rendering (Surroundings κ ε) Text) (view : View κ) (around : Surroundings κ ε)
    (shared : Ordered (.nested (around.shared.find view.handle.shared))) (own : Ordered (.nested view.data)) :
    let sees := view.seen (around.shared.find view.handle.shared)
    ∃ (runs : List (List String × Renderable κ)) (scope : (List String → Text) → Scope),
      InOrder runs ∧
      (∀ place renderable, (place, renderable) ∈ runs ↔ ∃ key inner, place = key :: inner ∧
        ((sees key).bind (reached inner)).bind renderable? = some renderable) ∧
      (∀ output, Table.Sorted (scope output) ∧ ∀ key, (scope output).lookup key =
        (sees key).map (shown fun place => output (key :: place))) ∧
      Resolves host renderView runs scope around (outcome (view.resolvedData host renderView) around) := by
  intro sees
  have sorted : Table.Sorted (view.mergedData around.shared) := shared.1.overlay view.data
  have ordered : OrderedEntries (view.mergedData around.shared) :=
    orderedEntries_iff.mpr fun entry member => by
      rcases Table.mem_or_mem_of_mem_overlay member with below | above
      · exact orderedEntries_iff.mp shared.2 entry below
      · exact orderedEntries_iff.mp own.2 entry above
  have lookupEq (key : String) : (view.mergedData around.shared).lookup key = sees key :=
    Table.lookup_overlay own.1.nodup _ key
  refine ⟨_, _, inOrder_occurrencesOfEntries _ sorted ordered, fun place renderable => ?_,
    fun output => ⟨?_, fun key => ?_⟩, resolves_resolveEntries _ sorted.nodup ordered around⟩
  · rw [mem_occurrencesOfEntries _ sorted.nodup ordered]
    simp only [lookupEq]
  · rw [Table.Sorted, keys_shownEntries]
    exact sorted
  · rw [lookup_shownEntries, lookupEq]

/-- Writes a word in a diary, or has no word for it. -/
def noting : Option String → Rendition (Option String) (List String)
  | some word => .ofOutside do
      modify (· ++ [word])
      return word.toList
  | none => .ofOutside (throw (.unknownAlias "dream"))

def diaryHost : Host (Option String) Unit (List String) where
  parser _ :=
    { create := pure ()
      setCumulative := fun _ => pure ()
      parse := fun text _ => pure text
      inject := pure }
  messages _ _ := none
  rendition := noting

def diary : View (Option String) :=
  { name := "diary"
    theme := "main"
    layout := "layout"
    path := ⟨"t/main/views/diary.html"⟩
    data := [("evening", .nested [("dinner", .renderable "dinner"), ("moon", .scalar (.bool true))]),
      ("night", .renderable none), ("noon", .renderable "noon")]
    handle := ⟨Config.withLocation "t", ⟨"t"⟩, 0, 0, none, none⟩
    partials := [] }

def sharedDay : Data (Option String) :=
  [("dawn", .renderable "dawn"), ("evening", .renderable "shared evening")]

def daybreak : Surroundings (Option String) (List String) :=
  ⟨.empty, .empty, Heap.empty.put 0 sharedDay, []⟩

/-- What is shared for the evening is not run, and nothing is after the night. -/
theorem exists_runs_diary :
    let run := outcome (diary.resolvedData diaryHost (renderWithin diaryHost 0)) daybreak
    Ordered (.nested sharedDay) ∧ Ordered (.nested diary.data) ∧
      run = (.error (.failed (.unknownAlias "dream")), { daybreak with outside := ["dawn", "dinner"] }) ∧
      ∃ runs scope, InOrder runs ∧ (∀ renderable, (["evening"], renderable) ∉ runs) ∧
        Resolves diaryHost (renderWithin diaryHost 0) runs scope daybreak run := by
  intro run
  have shared : Ordered (.nested sharedDay) :=
    ⟨by unfold Table.Sorted; decide, trivial, trivial, trivial⟩
  have evening : Table.Sorted [("dinner", DataValue.renderable (some "dinner")), ("moon", .scalar (.bool true))] := by
    unfold Table.Sorted
    decide
  have own : Ordered (.nested diary.data) :=
    ⟨by unfold Table.Sorted; decide, ⟨evening, trivial, trivial, trivial⟩, trivial, trivial, trivial⟩
  obtain ⟨runs, scope, inOrder, occurs, _, resolves⟩ :=
    exists_runs_of_resolvedData diaryHost (renderWithin diaryHost 0) diary daybreak shared own
  refine ⟨shared, own, rfl, runs, scope, inOrder, fun renderable member => ?_, resolves⟩
  obtain ⟨_, _, same, found⟩ := (occurs ["evening"] renderable).mp member
  cases same
  cases found

end View

end ThemedViews
