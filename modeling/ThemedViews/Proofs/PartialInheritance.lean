import ThemedViews.Proofs.PartialHistories
import ThemedViews.Proofs.PartialTurns

/-!
# What partials inherit

The scope of a partial has the resolved data that its caller supplied, and below it the
merged data of the view that it is a partial of.  In between stand the messages under
`errors`: every page has those of the session at the time when it is made, unless its caller
bound something in their place, and so a partial does not inherit those of the view.
-/

namespace ThemedViews

open Rendering DataValue

variable {κ π ε : Type} {host : Host κ π ε}

section Resolving

variable {renderView : View κ → Rendering (Surroundings κ ε) Text} {around after : Surroundings κ ε}
  {scope own : Scope}

theorem keys_of_resolveEntries {entries : List (String × DataValue κ)}
    (resolved : outcome (resolveEntries host renderView entries) around = (.ok scope, after)) :
    Table.keys scope = Table.keys entries := by
  induction entries generalizing scope around with
  | nil =>
      cases resolved
      rfl
  | cons entry rest ih =>
      obtain ⟨key, value⟩ := entry
      rw [resolveEntries] at resolved
      obtain ⟨shown, between, -, behind⟩ := exists_of_outcome_bind_eq_ok resolved
      obtain ⟨others, last, resolvedRest, ends⟩ := exists_of_outcome_bind_eq_ok behind
      cases ends
      exact congrArg (key :: ·) (ih resolvedRest)

/-- A plain value under a new key is resolved to itself, and the rest as without it. -/
theorem resolveEntries_insert_ofValue {key : String} {data : Data κ} (fresh : key ∉ Table.keys data)
    (value : Value) :
    resolveEntries host renderView (Table.insert key (ofValue value) data) =
      (do return Table.insert key value (← resolveEntries host renderView data)) := by
  induction data with
  | nil =>
      simp only [Table.insert, resolveEntries, resolve_ofValue, pure_bind]
  | cons entry rest ih =>
      obtain ⟨other, old⟩ := entry
      obtain ⟨different, freshRest⟩ : key ≠ other ∧ key ∉ Table.keys rest := by
        simpa [Table.keys] using fresh
      rw [Table.insert]
      split
      · next less => simp [resolveEntries, resolve_ofValue, Table.insert, less]
      · next notLess =>
          rw [resolveEntries, ih freshRest, resolveEntries]
          simp [Table.insert, notLess, different]

/-- What is bound for a page is what its caller supplied, and the messages that the session had
when the page was made, if nothing was supplied in their place. -/
theorem exists_of_outcome_resolveEntries_make {there : Surroundings κ ε} {handle : Handle κ}
    {theme name : String} {data : Data κ} {page : Page κ (DataValue κ)}
    (made : Page.make host there handle theme name data = .ok page) (sorted : Table.Sorted data)
    (resolved : outcome (resolveEntries host renderView page.data) around = (.ok own, after)) :
    ∃ supplied, outcome (resolveEntries host renderView data) around = (.ok supplied, after) ∧
      Table.keys supplied = Table.keys data ∧ (Table.keys own).Nodup ∧
      ∀ key, own.lookup key =
        (supplied.lookup key).or
          (if key = errorsKey then some (handle.errorBag host there).toValue else none) := by
  unfold Page.make at made
  obtain ⟨path, -, made⟩ := exists_of_bind_eq_ok made
  cases made
  by_cases bound : Table.contains errorsKey data = true
  · rw [if_pos bound] at resolved
    have keysEq := keys_of_resolveEntries resolved
    refine ⟨own, resolved, keysEq, keysEq ▸ sorted.nodup, fun key => ?_⟩
    by_cases isErrors : key = errorsKey
    · have member : key ∈ Table.keys own := by
        rw [keysEq, isErrors]
        exact Table.contains_iff.mp bound
      obtain ⟨value, found⟩ := Table.exists_lookup_of_mem_keys member
      rw [found, Option.some_or]
    · rw [if_neg isErrors, Option.or_none]
  · have fresh : errorsKey ∉ Table.keys data := fun member => bound (Table.contains_iff.mpr member)
    rw [if_neg bound, resolveEntries_insert_ofValue fresh] at resolved
    obtain ⟨supplied, between, resolvedSupplied, ends⟩ := exists_of_outcome_bind_eq_ok resolved
    cases ends
    have keysEq := keys_of_resolveEntries resolvedSupplied
    have sortedSupplied : Table.Sorted supplied := by rwa [Table.Sorted, keysEq]
    refine ⟨supplied, resolvedSupplied, keysEq, (sortedSupplied.insert _ _).nodup, fun key => ?_⟩
    by_cases isErrors : key = errorsKey
    · rw [isErrors, Table.lookup_insert_self, if_pos rfl, Table.lookup_eq_none_of_not_mem_keys (keysEq ▸ fresh),
        Option.none_or]
    · rw [Table.lookup_insert_of_ne isErrors, if_neg isErrors, Option.or_none]

end Resolving

namespace View

/-- The data that a caller supplies for a partial, and the messages that the handle of the view
gives at that time. -/
structure Supply (κ : Type) where
  data : Data κ
  messages : MessageBag

/-- What is supplied by a request, under its key. -/
def PartialRequest.given (host : Host κ π ε) (around : Surroundings κ ε) (view : View κ)
    (request : PartialRequest κ) : String × Supply κ :=
  (request.key, ⟨request.data, view.handle.errorBag host around⟩)

/-- A view and what was supplied for its partials, as they were made together. -/
inductive MadeWith (host : Host κ π ε) : View κ → List (String × Supply κ) → Prop
  | make {around handle name data view} (found : View.make host around handle name data = .ok view) :
      MadeWith host view []
  | copyPartial {view supplied key page} (made : MadeWith host view supplied)
      (found : view.partials.lookup key = some page) : MadeWith host (.ofPage page) []
  | bind {view supplied} (key : String) (value : DataValue κ) (made : MadeWith host view supplied) :
      MadeWith host (view.bind key value) supplied
  | bindAll {view supplied} (data : Data κ) (made : MadeWith host view supplied) :
      MadeWith host (view.bindAll data) supplied
  | setLayout {view supplied} (layout : String) (made : MadeWith host view supplied) :
      MadeWith host (view.setLayout layout) supplied
  | addPartial {around request view supplied changed} (made : MadeWith host view supplied)
      (added : outcome (addPartial host around request) view = (.ok (), changed)) :
      MadeWith host changed (placedAll supplied [request.given host around view])
  | addPartials {around requests view supplied changed} (made : MadeWith host view supplied)
      (added : outcome (addPartials host around requests) view = (.ok (), changed)) :
      MadeWith host changed (placedAll supplied (requests.map (PartialRequest.given host around view)))
  | refused {around requests view supplied error changed} (made : MadeWith host view supplied)
      (failed : outcome (View.addPartials host around requests) view = (.error error, changed)) :
      MadeWith host changed supplied

/-- A page is made from what was supplied under its key. -/
def MadeFrom (host : Host κ π ε) (view : View κ) (entry : String × Page κ (DataValue κ))
    (given : String × Supply κ) : Prop :=
  entry.1 = given.1 ∧ ∃ around name,
    Page.make host around view.handle view.theme name given.2.data = .ok entry.2 ∧
      given.2.messages = view.handle.errorBag host around

section Supplying

variable {around : Surroundings κ ε} {view : View κ} {partials entries : List (String × Page κ (DataValue κ))}
  {supplied : List (String × Supply κ)} {requests : List (PartialRequest κ)}

theorem forall₂_placed {key : String} {page : Page κ (DataValue κ)} {supply : Supply κ}
    (made : view.MadeFrom host (key, page) (key, supply))
    (each : List.Forall₂ (view.MadeFrom host) partials supplied) :
    List.Forall₂ (view.MadeFrom host) (placed key page partials) (placed key supply supplied) := by
  induction each with
  | nil => exact .cons made .nil
  | @cons entry given _ _ first rest ih =>
      obtain ⟨other, old⟩ := entry
      obtain ⟨_, oldSupply⟩ := given
      obtain ⟨rfl, paged⟩ := first
      unfold placed
      by_cases same : other = key
      · rw [if_pos same, if_pos same]
        exact .cons made rest
      · rw [if_neg same, if_neg same]
        exact .cons ⟨rfl, paged⟩ ih

theorem forall₂_placedAll (made : List.Forall₂ (view.Makes host around) requests entries)
    (each : List.Forall₂ (view.MadeFrom host) partials supplied) :
    List.Forall₂ (view.MadeFrom host) (placedAll partials entries)
      (placedAll supplied (requests.map (PartialRequest.given host around view))) := by
  induction made generalizing partials supplied with
  | nil => exact each
  | @cons request entry _ _ first rest ih =>
      obtain ⟨key, page⟩ := entry
      obtain ⟨rfl, paged⟩ := first
      exact ih (forall₂_placed ⟨rfl, around, request.name, paged, rfl⟩ each)

theorem MadeWith.forall₂ (made : view.MadeWith host supplied) :
    List.Forall₂ (view.MadeFrom host) view.partials supplied := by
  induction made with
  | make found =>
      unfold View.make at found
      obtain ⟨page, -, ends⟩ := exists_of_bind_eq_ok found
      cases ends
      exact .nil
  | copyPartial => exact .nil
  | bind | bindAll | setLayout => assumption
  | @addPartial around request view _ _ _ added ih =>
      rw [outcome_addPartial_eq, outcome_addPartials] at added
      cases paged : view.pages host around [request] with
      | error error =>
          rw [paged] at added
          cases added
      | ok entries =>
          rw [paged] at added
          cases added
          exact forall₂_placedAll (forall₂_of_pages paged) ih
  | @addPartials around requests view _ _ _ added ih =>
      rw [outcome_addPartials] at added
      cases paged : view.pages host around requests with
      | error error =>
          rw [paged] at added
          cases added
      | ok entries =>
          rw [paged] at added
          cases added
          exact forall₂_placedAll (forall₂_of_pages paged) ih
  | @refused around requests view _ _ _ _ failed ih =>
      rw [outcome_addPartials] at failed
      cases paged : view.pages host around requests with
      | error error =>
          rw [paged] at failed
          cases failed
          exact ih
      | ok entries =>
          rw [paged] at failed
          cases failed

theorem MadeWith.keys_eq (made : view.MadeWith host supplied) :
    Table.keys view.partials = Table.keys supplied := by
  have sameKeys : List.Forall₂ (· = ·) (Table.keys view.partials) (Table.keys supplied) := by
    rw [Table.keys, Table.keys, List.forall₂_map_left_iff, List.forall₂_map_right_iff]
    exact made.forall₂.imp fun _ _ first => first.1
  rwa [List.forall₂_eq_eq_eq] at sameKeys

theorem MadeWith.exists_page (made : view.MadeWith host supplied) {index : Nat} {key : String}
    {supply : Supply κ} (found : supplied[index]? = some (key, supply)) :
    ∃ page there name, view.partials[index]? = some (key, page) ∧
      Page.make host there view.handle view.theme name supply.data = .ok page ∧
      supply.messages = view.handle.errorBag host there := by
  obtain ⟨less, givenEq⟩ := List.getElem?_eq_some_iff.mp found
  have each := made.forall₂
  have here : index < view.partials.length := each.length_eq ▸ less
  have madeFrom := each.get here less
  rw [List.get_eq_getElem, List.get_eq_getElem, givenEq] at madeFrom
  obtain ⟨keyEq, there, name, paged⟩ := madeFrom
  refine ⟨view.partials[index].2, there, name, ?_, paged⟩
  rw [List.getElem?_eq_getElem here]
  exact congrArg some (Prod.ext keyEq rfl)

end Supplying

section Inheritance

variable {renderView : View κ → Rendering (Surroundings κ ε) Text} {view : View κ}

theorem lookup_partialScope {merged rendered own : Scope} (distinct : (Table.keys own).Nodup) {sought : String}
    (different : sought ≠ partialsKey) :
    (partialScope merged rendered own).lookup sought = (own.lookup sought).or (merged.lookup sought) := by
  rw [partialScope, Table.lookup_overlay distinct, Table.lookup_insert_of_ne different]

/-- A partial has its turn with the data that was supplied for it, too. -/
theorem HasTurn.exists_supplied {made : Surroundings κ ε} {name : String} {data : Data κ}
    {page : Page κ (DataValue κ)} {begin_ : Scene κ π ε} {course : List (Event κ ε)} {index : Nat}
    {scope own : Scope} (paged : Page.make host made view.handle view.theme name data = .ok page)
    (sorted : Table.Sorted data)
    (turn : HasTurn host renderView view page.path page.data begin_ course index scope own) :
    ∃ supplied, HasTurn host renderView view page.path data begin_ course index scope supplied ∧
      Table.keys supplied = Table.keys data ∧ (Table.keys own).Nodup ∧
      ∀ key, own.lookup key =
        (supplied.lookup key).or
          (if key = errorsKey then some (view.handle.errorBag host made).toValue else none) := by
  obtain ⟨ahead, resolving, behind, text, parsed, there, resolvedIn, parser, courseEq, lengthEq, passesAhead,
    resolved, passesResolving⟩ := turn
  obtain ⟨supplied, resolvedSupplied, facts⟩ := exists_of_outcome_resolveEntries_make paged sorted resolved
  exact ⟨supplied, ⟨ahead, resolving, behind, text, parsed, there, resolvedIn, parser, courseEq, lengthEq,
    passesAhead, resolvedSupplied, passesResolving⟩, facts⟩

/-- The file of a partial is parsed with the data that was supplied for the partial, as it is at
its turn, over the merged data of the view; where no messages were supplied there are those that
the handle gave at that time.  Nothing else is under any name but `partials`. -/
theorem exists_course_with_inherited_scopes {supplied : List (String × Supply κ)}
    (made : view.MadeWith host supplied) (sorted : ∀ given ∈ supplied, Table.Sorted given.2.data)
    (levels : Nat) (around : Surroundings κ ε) :
    Table.keys view.partials = Table.keys supplied ∧
      ∃ course last,
        Passes host (some view) course ⟨around, none⟩
          ⟨(outcome (renderWithin host levels view) around).2, last⟩ ∧
        Rendered levels view course (outcome (renderWithin host levels view) around).1 ∧
        (∀ text, (outcome (renderWithin host levels view) around).1 = .ok text →
          supplied.length ≤ (scopes course).length) ∧
        ∀ (index : Nat) (key : String) (supply : Supply κ) (scope : Scope),
          supplied[index]? = some (key, supply) → (scopes course)[index]? = some scope →
          ∃ fewer merged page own, levels = fewer + 1 ∧
            (outcome (view.resolvedData host (renderWithin host fewer)) around).1 = .ok merged ∧
            view.partials[index]? = some (key, page) ∧
            HasTurn host (renderWithin host fewer) view page.path supply.data ⟨around, none⟩ course index
              scope own ∧
            Table.keys own = Table.keys supply.data ∧
            ∀ sought, sought ≠ partialsKey →
              scope.lookup sought =
                (own.lookup sought).or
                  (if sought = errorsKey then some supply.messages.toValue else merged.lookup sought) := by
  obtain ⟨course, last, passes, rendered, enough, turns⟩ := exists_turns_of_renderWithin host levels view around
  have lengthEq : view.partials.length = supplied.length := made.forall₂.length_eq
  refine ⟨made.keys_eq, course, last, passes, rendered, lengthEq ▸ enough, ?_⟩
  intro index key supply scope found parsed
  obtain ⟨page, there, name, here, paged, messagesEq⟩ := made.exists_page found
  have less : index < view.partials.length := (List.getElem?_eq_some_iff.mp here).1
  obtain ⟨fewer, merged, _, _, earlier, own, levelsEq, resolved, alsoHere, turn, scopeEq⟩ :=
    turns index scope less parsed
  cases here.symm.trans alsoHere
  obtain ⟨fromCaller, turnOfCaller, keysEq, distinct, lookupEq⟩ :=
    turn.exists_supplied paged (sorted (key, supply) (List.mem_of_getElem? found))
  refine ⟨fewer, merged, page, fromCaller, levelsEq, resolved, here, turnOfCaller, keysEq, ?_⟩
  intro sought different
  rw [scopeEq, lookup_partialScope distinct different, lookupEq, Option.or_assoc, messagesEq]
  by_cases isErrors : sought = errorsKey
  · rw [if_pos isErrors, if_pos isErrors, Option.some_or]
  · rw [if_neg isErrors, if_neg isErrors, Option.none_or]

end Inheritance

section Signed

def redData : Data Unit :=
  [("color", .scalar (.text "red"))]

/-- A view with messages of its own. -/
def unnoted : View Unit :=
  { post with
    data := [("errors", .scalar (.text "mine")), ("title", .scalar (.text "Title"))]
    partials := [] }

def signed : View Unit :=
  { unnoted with
    partials :=
      [("note", { notePage with
        data := [("color", .scalar (.text "red")), ("errors", .ofValue MessageBag.empty.toValue)] })] }

/-- A title and a year are shared. -/
def dated : Surroundings Unit Unit :=
  ((Surroundings.start postFiles ()).share 0 "title" (.scalar (.text "Any"))).share 0 "year"
    (.scalar (.text "1970"))

theorem madeWith_signed : signed.MadeWith listingHost [("note", ⟨redData, .empty⟩)] := by
  have made : View.make listingHost dated pageHandle "post" unnoted.data = .ok unnoted := rfl
  have added : outcome (addPartial listingHost dated ⟨"note", "note", redData⟩) unnoted = (.ok (), signed) := rfl
  exact .addPartial (.make made) added

theorem exists_course_with_inherited_scopes_signed :
    signed.MadeWith listingHost [("note", ⟨redData, .empty⟩)] ∧
      (∀ given ∈ [("note", (⟨redData, .empty⟩ : Supply Unit))], Table.Sorted given.2.data) ∧
      ∃ course last scope,
        Passes listingHost (some signed) course ⟨dated, none⟩
          ⟨(outcome (renderWithin listingHost 1 signed) dated).2, last⟩ ∧
        (scopes course)[0]? = some scope ∧ scope.lookup "color" = some (.text "red") ∧
        scope.lookup "title" = some (.text "Title") ∧ scope.lookup "year" = some (.text "1970") ∧
        scope.lookup "errors" = some MessageBag.empty.toValue ∧ scope.lookup "size" = none := by
  have sorted : ∀ given ∈ [("note", (⟨redData, .empty⟩ : Supply Unit))], Table.Sorted given.2.data :=
    List.forall_mem_singleton.mpr (List.pairwise_singleton _ _)
  obtain ⟨-, course, last, passes, -, enough, turns⟩ :=
    exists_course_with_inherited_scopes madeWith_signed sorted 1 dated
  have less : 0 < (scopes course).length := enough _ rfl
  have parsed : (scopes course)[0]? = some (scopes course)[0] := List.getElem?_eq_getElem less
  obtain ⟨fewer, merged, page, own, levelsEq, resolved, -, turn, -, lookupEq⟩ :=
    turns 0 "note" ⟨redData, .empty⟩ _ rfl parsed
  cases levelsEq
  cases resolved
  obtain ⟨_, _, _, _, _, _, _, _, _, _, _, ownResolved, _⟩ := turn
  cases ownResolved
  refine ⟨madeWith_signed, sorted, course, last, _, passes, parsed, ?_, ?_, ?_, ?_, ?_⟩
  · exact lookupEq "color" (by decide)
  · exact lookupEq "title" (by decide)
  · exact lookupEq "year" (by decide)
  · exact lookupEq "errors" (by decide)
  · exact lookupEq "size" (by decide)

/-- A partial that was supplied with no messages does not have those of the view. -/
theorem exists_course_without_inherited_messages :
    signed.MadeWith listingHost [("note", ⟨redData, .empty⟩)] ∧ errorsKey ∉ Table.keys redData ∧
      errorsKey ≠ partialsKey ∧
      ∃ course last merged scope own,
        Passes listingHost (some signed) course ⟨dated, none⟩
          ⟨(outcome (renderWithin listingHost 1 signed) dated).2, last⟩ ∧
        (outcome (signed.resolvedData listingHost (renderWithin listingHost 0)) dated).1 = .ok merged ∧
        (scopes course)[0]? = some scope ∧
        HasTurn listingHost (renderWithin listingHost 0) signed notePage.path redData ⟨dated, none⟩ course
          0 scope own ∧
        merged.lookup errorsKey = some (.text "mine") ∧ scope.lookup errorsKey ≠ merged.lookup errorsKey := by
  obtain ⟨course, last, passes, -, enough, turns⟩ :=
    exists_turns_of_renderWithin listingHost 1 signed dated
  have less : 0 < (scopes course).length := enough _ rfl
  have parsed : (scopes course)[0]? = some (scopes course)[0] := List.getElem?_eq_getElem less
  obtain ⟨fewer, merged, key, page, rendered, own, levelsEq, resolved, here, turn, scopeEq⟩ :=
    turns 0 _ Nat.zero_lt_one parsed
  cases levelsEq
  cases resolved
  cases here
  have paged : Page.make listingHost dated signed.handle signed.theme "note" redData = .ok _ := rfl
  obtain ⟨supplied, turnOfCaller, -, distinct, lookupEq⟩ :=
    turn.exists_supplied paged (List.pairwise_singleton _ _)
  refine ⟨madeWith_signed, by decide, by decide, course, last, _, _, supplied, passes, rfl, parsed, turnOfCaller,
    rfl, ?_⟩
  rw [scopeEq, lookup_partialScope distinct (by decide), lookupEq, if_pos rfl]
  obtain ⟨_, _, _, _, _, _, _, _, _, _, _, ownResolved, _⟩ := turnOfCaller
  cases ownResolved
  nofun

end Signed

end View

end ThemedViews
