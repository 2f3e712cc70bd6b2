import Mathlib.Data.List.Dedup
import Mathlib.Data.Finset.Card
import ThemedViews.Proofs.RenderingCourses
import ThemedViews.Proofs.SharedHistories

/-!
# What a cache holds after a history

Files come and go while paths are loaded, by themselves or in the course of
renderings, where what the host renders may load, write and remove files as well.
A cache gives for each path the text of the first load of it that succeeded, and as
long as there is none it reads the file.  It holds one text for each path that was
loaded, and it counts all loads.
-/

namespace ThemedViews

open Rendering
open DataValue (renderables renderablesOfEntries)

/-- A load of a path, with the files at that time and what the load gave. -/
structure Load where
  files : FileTree
  path : Path
  result : Except ViewError String

namespace Load

def succeeded (load : Load) : Bool :=
  load.result.toBool

/-- The text of the first load of a path that succeeded. -/
def firstText (path : Path) (history : List Load) : Option String :=
  history.findSome? fun load =>
    if load.path.components = path.components then load.result.toOption else none

/-- What a load gives behind a history: the first text of the path, or what is
read now. -/
def expected (history : List Load) (files : FileTree) (path : Path) : Except ViewError String :=
  match firstText path history with
  | some text => .ok text
  | none => (files.read path).mapError (.ioFailure path)

def loadedPaths (history : List Load) : List (List Path.Component) :=
  (history.filter succeeded).map fun load => load.path.components

theorem firstText_append (path : Path) (history later : List Load) :
    firstText path (history ++ later) = (firstText path history).or (firstText path later) :=
  List.findSome?_append

theorem loadedPaths_append (history later : List Load) :
    loadedPaths (history ++ later) = loadedPaths history ++ loadedPaths later := by
  rw [loadedPaths, List.filter_append, List.map_append]
  rfl

end Load

namespace ContentCache

open Load

inductive Loading : List Load → ContentCache → ContentCache → Prop
  | nil {cache} : Loading [] cache cache
  | cons {load loads before between after}
      (first : ContentCache.load load.files load.path before = (load.result, between))
      (rest : Loading loads between after) : Loading (load :: loads) before after

theorem Loading.append {loads others : List Load} {before between after : ContentCache}
    (first : Loading loads before between) (rest : Loading others between after) :
    Loading (loads ++ others) before after := by
  induction first with
  | nil => exact rest
  | cons loaded _ ih => exact .cons loaded (ih rest)

/-- A cache holds what a history of loads has left in it. -/
structure Records (history : List Load) (cache : ContentCache) : Prop where
  find?_eq : ∀ path, cache.find? path = firstText path history
  nodup : (cache.entries.map Prod.fst).Nodup
  mem_keys : ∀ key, key ∈ cache.entries.map Prod.fst ↔ key ∈ loadedPaths history
  hits_add_misses : cache.hits + cache.misses = history.length
  misses_eq : cache.misses = (history.filter fun load => !load.succeeded).length + cache.size

theorem records_empty : Records [] .empty where
  find?_eq _ := rfl
  nodup := List.nodup_nil
  mem_keys _ := Iff.rfl
  hits_add_misses := rfl
  misses_eq := rfl

theorem Records.size_eq {history : List Load} {cache : ContentCache} (records : Records history cache) :
    cache.size = (loadedPaths history).dedup.length := by
  have sameKeys : (cache.entries.map Prod.fst).toFinset = (loadedPaths history).toFinset := by
    ext key
    rw [List.mem_toFinset, List.mem_toFinset, records.mem_keys]
  rw [← List.card_toFinset, ← sameKeys, List.toFinset_card_of_nodup records.nodup, List.length_map]
  rfl

section Step

variable {history : List Load} {cache : ContentCache}

theorem find?_eq_none_iff {path : Path} :
    cache.find? path = none ↔ path.components ∉ cache.entries.map Prod.fst := by
  rw [find?, List.lookup_eq_none_iff, List.mem_map]
  constructor
  · rintro absent ⟨entry, member, same⟩
    simpa [same] using absent entry member
  · intro absent entry member
    exact bne_iff_ne.mpr fun same => absent ⟨entry, member, same.symm⟩

theorem find?_concat (path other : Path) (text : String) (hits misses : Nat) :
    find? ⟨cache.entries ++ [(path.components, text)], hits, misses⟩ other =
      (cache.find? other).or (if path.components = other.components then some text else none) := by
  rw [find?, List.lookup_append]
  by_cases same : path.components = other.components
  · simp [find?, same]
  · have different : (other.components == path.components) = false := by simpa using Ne.symm same
    simp [find?, List.lookup_cons, different, same]

/-- To load a path changes nothing of what is kept for another one. -/
theorem find?_load_of_ne (files : FileTree) {path other : Path}
    (different : path.components ≠ other.components) (cache : ContentCache) :
    (cache.load files path).2.find? other = cache.find? other := by
  unfold ContentCache.load
  cases cache.find? path with
  | some text => rfl
  | none =>
      cases files.read path with
      | ok text => simp [find?_concat, different]
      | error cause => rfl

theorem Records.hit {path : Path} {text : String} (records : Records history cache) (files : FileTree)
    (found : cache.find? path = some text) :
    Records (history ++ [⟨files, path, .ok text⟩]) { cache with hits := cache.hits + 1 } where
  find?_eq other := by
    -- Where the new load would count there has been a text before.
    rw [firstText_append, ← records.find?_eq other]
    by_cases same : path.components = other.components
    · have first : cache.find? other = some text := by rw [find?, ← same, ← find?, found]
      rw [first, Option.some_or]
      exact first
    · simp [firstText, same, find?]
  nodup := records.nodup
  mem_keys key := by
    have known : path.components ∈ cache.entries.map Prod.fst :=
      not_not.mp fun absent => by simp [find?_eq_none_iff.mpr absent] at found
    rw [loadedPaths_append, List.mem_append, ← records.mem_keys]
    refine ⟨.inl, fun member => ?_⟩
    rcases member with before | now
    · exact before
    · rw [List.mem_singleton.mp now]
      exact known
  hits_add_misses := by
    have counted := records.hits_add_misses
    simp only [List.length_append, List.length_singleton]
    omega
  misses_eq := by simpa [succeeded, Except.toBool, size] using records.misses_eq

theorem Records.stored {path : Path} (records : Records history cache) (files : FileTree) (text : String)
    (absent : cache.find? path = none) :
    Records (history ++ [⟨files, path, .ok text⟩])
      ⟨cache.entries ++ [(path.components, text)], cache.hits, cache.misses + 1⟩ where
  find?_eq other := by
    rw [firstText_append, ← records.find?_eq other, find?_concat]
    by_cases same : path.components = other.components
    · simp [firstText, same, Except.toOption]
    · simp [firstText, same]
  nodup := by
    rw [List.map_append, List.nodup_append]
    refine ⟨records.nodup, List.nodup_singleton _, ?_⟩
    rintro key inEntries _ isNew rfl
    rw [List.mem_singleton.mp isNew] at inEntries
    exact find?_eq_none_iff.mp absent inEntries
  mem_keys key := by
    rw [loadedPaths_append, List.map_append, List.mem_append, List.mem_append, records.mem_keys]
    rfl
  hits_add_misses := by
    have counted := records.hits_add_misses
    simp only [List.length_append, List.length_singleton]
    omega
  misses_eq := by
    have missed := records.misses_eq
    simp [succeeded, Except.toBool, size] at missed ⊢
    omega

theorem Records.failed (records : Records history cache) (files : FileTree) (path : Path) (error : ViewError) :
    Records (history ++ [⟨files, path, .error error⟩]) { cache with misses := cache.misses + 1 } where
  find?_eq other := by
    rw [firstText_append, ← records.find?_eq other]
    simp [firstText, Except.toOption, find?]
  nodup := records.nodup
  mem_keys key := by
    rw [loadedPaths_append, List.mem_append, ← records.mem_keys]
    simp [loadedPaths, succeeded, Except.toBool]
  hits_add_misses := by
    have counted := records.hits_add_misses
    simp only [List.length_append, List.length_singleton]
    omega
  misses_eq := by
    have missed := records.misses_eq
    simp [succeeded, Except.toBool, size] at missed ⊢
    omega

/-- A load gives what its history lets expect, and belongs to the history
afterwards. -/
theorem Records.load (records : Records history cache) (files : FileTree) (path : Path) :
    (cache.load files path).1 = expected history files path ∧
      Records (history ++ [⟨files, path, (cache.load files path).1⟩]) (cache.load files path).2 := by
  unfold expected
  rw [← records.find?_eq path]
  unfold ContentCache.load
  cases found : cache.find? path with
  | some text => exact ⟨rfl, records.hit files found⟩
  | none =>
      cases files.read path with
      | ok text => exact ⟨rfl, records.stored files text found⟩
      | error cause => exact ⟨rfl, records.failed files path (.ioFailure path cause)⟩

end Step

theorem Records.loading {history loads : List Load} {cache after : ContentCache}
    (records : Records history cache) (loading : Loading loads cache after) :
    Records (history ++ loads) after ∧
      ∀ earlier load later, loads = earlier ++ load :: later →
        load.result = expected (history ++ earlier) load.files load.path := by
  induction loading generalizing history with
  | nil =>
      rw [List.append_nil]
      exact ⟨records, fun earlier load later split => by simp at split⟩
  | @cons first loads before between after loaded _ ih =>
      obtain ⟨given, recordsFirst⟩ := records.load first.files first.path
      rw [loaded] at given recordsFirst
      obtain ⟨recordsAll, each⟩ := ih recordsFirst
      rw [List.append_assoc, List.singleton_append] at recordsAll
      refine ⟨recordsAll, fun earlier load later split => ?_⟩
      cases earlier with
      | nil =>
          obtain ⟨rfl, rfl⟩ := List.cons.inj split
          rw [List.append_nil]
          exact given
      | cons other earlier =>
          obtain ⟨rfl, behind⟩ := List.cons.inj split
          rw [each earlier load later behind, List.append_assoc]
          rfl

end ContentCache

variable {κ π ε : Type}

namespace Surroundings

theorem afterAll_append (deeds others : List (Deed κ ε)) (around : Surroundings κ ε) :
    around.afterAll (deeds ++ others) = (around.afterAll deeds).afterAll others :=
  List.foldl_append

/-- Surroundings that differ in nothing but the outside. -/
structure SameStores (around other : Surroundings κ ε) : Prop where
  files_eq : other.files = around.files
  contents_eq : other.contents = around.contents
  shared_eq : other.shared = around.shared

variable {around other : Surroundings κ ε}

theorem SameStores.load_eq (same : around.SameStores other) (content : Nat) (path : Path) :
    (other.load content path).1 = (around.load content path).1 := by
  simp only [load, same.files_eq, same.contents_eq]

theorem SameStores.after (same : around.SameStores other) (deed : Deed κ ε) :
    (around.after deed).SameStores (other.after deed) := by
  obtain ⟨filesEq, contentsEq, sharedEq⟩ := same
  cases deed with
  | load content path => exact ⟨filesEq, by simp only [Surroundings.after, load, filesEq, contentsEq], sharedEq⟩
  | share shared key value =>
      exact ⟨filesEq, contentsEq, by simp only [Surroundings.after, share, sharedEq]⟩
  | elsewhere => exact ⟨filesEq, contentsEq, sharedEq⟩
  | write path bytes => exact ⟨congrArg (FileTree.write path bytes) filesEq, contentsEq, sharedEq⟩
  | remove path => exact ⟨congrArg (FileTree.remove path) filesEq, contentsEq, sharedEq⟩

theorem SameStores.afterAll (same : around.SameStores other) (deeds : List (Deed κ ε)) :
    (around.afterAll deeds).SameStores (other.afterAll deeds) := by
  induction deeds generalizing around other with
  | nil => exact same
  | cons deed rest ih => exact ih (same.after deed)

end Surroundings

section Deeds

/-- The loads that a deed makes by a reference. -/
def Deed.loads (reference : Nat) (around : Surroundings κ ε) : Deed κ ε → List Load
  | .load content path =>
      if content = reference then [⟨around.files, path, (around.load content path).1⟩] else []
  | _ => []

/-- The loads that deeds make by a reference, one after another. -/
def loadsOfDeeds (reference : Nat) : Surroundings κ ε → List (Deed κ ε) → List Load
  | _, [] => []
  | around, deed :: rest => deed.loads reference around ++ loadsOfDeeds reference (around.after deed) rest

theorem loading_after (reference : Nat) (around : Surroundings κ ε) (deed : Deed κ ε) :
    ContentCache.Loading (deed.loads reference around) (around.contents.find reference)
      ((around.after deed).contents.find reference) := by
  cases deed with
  | load content path =>
      have contentsEq : (around.after (.load content path)).contents =
          around.contents.put content ((around.contents.find content).load around.files path).2 := rfl
      rw [contentsEq, Heap.find_put, Deed.loads]
      by_cases same : content = reference
      · subst same
        rw [if_pos rfl, if_pos rfl]
        exact .cons rfl .nil
      · rw [if_neg same, if_neg (Ne.symm same)]
        exact .nil
  | share | write | remove | elsewhere => exact .nil

theorem loading_afterAll (reference : Nat) (around : Surroundings κ ε) (deeds : List (Deed κ ε)) :
    ContentCache.Loading (loadsOfDeeds reference around deeds) (around.contents.find reference)
      ((around.afterAll deeds).contents.find reference) := by
  induction deeds generalizing around with
  | nil => exact .nil
  | cons deed rest ih => exact (loading_after reference around deed).append (ih (around.after deed))

end Deeds

section Courses

mutual

/-- What an event does, but for what it does to the outside. -/
def Event.deeds : Event κ ε → List (Deed κ ε)
  | .renders _ deeds _ => deeds
  | .nests _ course _ => deedsAmong course
  | .loads content path _ => [.load content path]
  | _ => []

def deedsAmong : List (Event κ ε) → List (Deed κ ε)
  | [] => []
  | event :: course => event.deeds ++ deedsAmong course

end

mutual

def Event.loadsAmong (reference : Nat) (around : Surroundings κ ε) : Event κ ε → List Load
  | .renders _ deeds _ => loadsOfDeeds reference around deeds
  | .nests _ course _ => loadsAmong reference around course
  | .loads content path result => if content = reference then [⟨around.files, path, result⟩] else []
  | _ => []

/-- The loads by a reference in a course of events, those of nested views and of what the host renders
included. -/
def loadsAmong (reference : Nat) (around : Surroundings κ ε) : List (Event κ ε) → List Load
  | [] => []
  | event :: course =>
      event.loadsAmong reference around ++ loadsAmong reference (around.afterAll event.deeds) course

end

variable {host : Host κ π ε} (reference : Nat)

mutual

theorem Happens.loading {outer : Option (View κ)} {event : Event κ ε} {before after : Scene κ π ε}
    {around : Surroundings κ ε} (happens : Happens host outer event before after)
    (same : around.SameStores before.around) :
    ContentCache.Loading (event.loadsAmong reference around) (around.contents.find reference)
        ((around.afterAll event.deeds).contents.find reference) ∧
      (around.afterAll event.deeds).SameStores after.around := by
  match happens with
  | @Happens.loads _ _ _ _ _ _ _ _ content path result loaded =>
      have resultEq : (around.load content path).1 = result := by
        rw [← same.load_eq content path, loaded]
      have loading := loading_after reference around (.load content path)
      have behind := same.after (.load content path)
      rw [Deed.loads, resultEq] at loading
      rw [show (Surroundings.after _ (.load content path)) = _ from congrArg Prod.snd loaded] at behind
      exact ⟨loading, behind⟩
  | @Happens.renders _ _ _ _ _ _ _ _ deeds _ _ =>
      exact ⟨loading_afterAll reference around deeds, same.afterAll deeds⟩
  | .nests passes => exact passes.loading same
  | .reads _ | .seeks _ => exact ⟨.nil, same⟩
  | .creates _ | .setsCumulative _ | .parses _ | .injects _ =>
      exact ⟨.nil, same.files_eq, same.contents_eq, same.shared_eq⟩

theorem Passes.loading {outer : Option (View κ)} {course : List (Event κ ε)} {before after : Scene κ π ε}
    {around : Surroundings κ ε} (passes : Passes host outer course before after)
    (same : around.SameStores before.around) :
    ContentCache.Loading (loadsAmong reference around course) (around.contents.find reference)
        ((around.afterAll (deedsAmong course)).contents.find reference) ∧
      (around.afterAll (deedsAmong course)).SameStores after.around := by
  match passes with
  | .nil => exact ⟨.nil, same⟩
  | @Passes.cons _ _ _ _ _ event course _ _ _ first rest =>
      obtain ⟨loading, behind⟩ := first.loading same
      obtain ⟨others, last⟩ := rest.loading behind
      rw [deedsAmong, Surroundings.afterAll_append]
      exact ⟨loading.append others, last⟩

end

/-- Behind a course the stores are what its deeds make of them. -/
theorem Passes.sameStores {outer : Option (View κ)} {course : List (Event κ ε)} {before after : Scene κ π ε}
    (passes : Passes host outer course before after) :
    (before.around.afterAll (deedsAmong course)).SameStores after.around :=
  -- This part is the same for every reference.
  (passes.loading 0 ⟨rfl, rfl, rfl⟩).2

/-- The loads in a course lead from the cache at its beginning to that at its end. -/
theorem Passes.loading_of_course {outer : Option (View κ)} {course : List (Event κ ε)} {before after : Scene κ π ε}
    (passes : Passes host outer course before after) :
    ContentCache.Loading (loadsAmong reference before.around course) (before.around.contents.find reference)
      (after.around.contents.find reference) := by
  rw [passes.sameStores.contents_eq]
  exact (passes.loading reference ⟨rfl, rfl, rfl⟩).1

end Courses

namespace Workspace

/-- The plan of what an action renders: in the rendering of which view the events happen, if of any, and what
they are. -/
def Plans (host : Host κ π ε) (levels : Nat) (here : Workspace κ ε) :
    Action κ → Option (View κ) → List (Event κ ε) → Prop
  | .resolveShared handle key, outer, course =>
      outer = none ∧ ∃ found value failure, here.handles.lookup handle = some found ∧
        (here.shared.find found.shared).lookup key = some value ∧
        Follows (View.Rendered levels) ((renderables value).map .render) course failure
  | .renderNew handle name data, outer, course =>
      outer = none ∧ ∃ found view result, here.handles.lookup handle = some found ∧
        View.make host here.toSurroundings found name data = .ok view ∧
        Performs (View.Rendered levels) (.render (.view view)) course result
  | .resolveData name, outer, course =>
      ∃ view seen merged behind failure, here.views.lookup name = some view ∧ outer = some view ∧
        course = .reads seen :: behind ∧ Merges seen view.data merged ∧
        Follows (View.Rendered levels) ((renderablesOfEntries merged).map .render) behind failure
  | .renderView name, outer, course =>
      outer = none ∧ ∃ view result, here.views.lookup name = some view ∧
        Performs (View.Rendered levels) (.render (.view view)) course result
  | _, _, _ => False

section Plans

variable {host : Host κ π ε} {levels : Nat} {here : Workspace κ ε}

/-- What is made of the result of a rendering does not change its course. -/
theorem exists_course_of_unfolds {α : Type} {outer : Option (View κ)} {inner : Rendering (Surroundings κ ε) α}
    {conforms : List (Event κ ε) → Except (Halt ViewError) α → Prop}
    (unfolds : Unfolds (Shelves.single host) outer (Scene.beside (none : Option π)) inner conforms)
    (convert : α → Reply) (around : Surroundings κ ε) :
    ∃ course result, conforms course result ∧
      Passes host outer course ⟨around, none⟩
        ⟨(outcome (do return convert (← inner)) around).2, none⟩ := by
  obtain ⟨course, result, after, conforming, -, each⟩ := unfolds (fun _ => around) ⟨trivial, fun _ => rfl⟩
  obtain ⟨ran, passes⟩ := each ()
  refine ⟨course, result, conforming, ?_⟩
  have behind : (outcome (do return convert (← inner)) around).2 = after () := by
    rw [outcome_bind, ran]
    cases result <;> rfl
  rw [behind]
  exact passes

theorem unfoldsView_renderWithin_single (host : Host κ π ε) (levels : Nat) (view : View κ) :
    UnfoldsView (Shelves.single host) (View.renderWithin host levels) (View.Rendered levels) view :=
  View.unfoldsView_renderWithin (Shelves.single host) levels view trivial

theorem exists_course_of_rendering? {action : Action κ} {rendering : Rendering (Surroundings κ ε) Reply}
    (renders : action.rendering? host levels here = some rendering) :
    ∃ outer course, Plans host levels here action outer course ∧
      Passes host outer course ⟨here.toSurroundings, none⟩
        ⟨(outcome rendering here.toSurroundings).2, none⟩ := by
  have each (inner : View κ) := unfoldsView_renderWithin_single host levels inner
  cases action with
  | resolveShared handle key =>
      obtain ⟨found, held, behind⟩ := Option.bind_eq_some_iff.mp renders
      obtain ⟨value, isShared, rfl⟩ := Option.map_eq_some_iff.mp behind
      have unfolds : Unfolds (Shelves.single host) none (Scene.beside none) _ _ :=
        unfolds_resolve (fun inner _ => each inner) none value fun _ _ => trivial
      obtain ⟨course, result, followed, passes⟩ := exists_course_of_unfolds unfolds Reply.value here.toSurroundings
      exact ⟨none, course, ⟨rfl, found, value, _, held, isShared, followed⟩, passes⟩
  | renderNew handle name data =>
      obtain ⟨found, held, behind⟩ := Option.bind_eq_some_iff.mp renders
      obtain ⟨view, made, rfl⟩ := Option.map_eq_some_iff.mp behind
      have isMade : View.make host here.toSurroundings found name data = .ok view := by
        cases result : View.make host here.toSurroundings found name data with
        | ok other =>
            rw [result] at made
            cases made
            rfl
        | error error =>
            rw [result] at made
            cases made
      obtain ⟨course, result, performed, passes⟩ :=
        exists_course_of_unfolds (unfolds_view none (each view)) Reply.text here.toSurroundings
      exact ⟨none, course, ⟨rfl, found, view, result, held, isMade, performed⟩, passes⟩
  | resolveData name =>
      obtain ⟨view, held, rfl⟩ := Option.map_eq_some_iff.mp renders
      have unfolds : Unfolds (Shelves.single host) (some view) (Scene.beside none) _ _ :=
        View.unfolds_resolvedData (fun inner _ => each inner) none trivial
      obtain ⟨course, result, ⟨seen, merged, behind, isCourse, merges, followed⟩, passes⟩ :=
        exists_course_of_unfolds unfolds (fun scope => Reply.value (.object scope)) here.toSurroundings
      exact ⟨some view, course, ⟨view, seen, merged, behind, _, held, rfl, isCourse, merges, followed⟩, passes⟩
  | renderView name =>
      obtain ⟨view, held, rfl⟩ := Option.map_eq_some_iff.mp renders
      obtain ⟨course, result, performed, passes⟩ :=
        exists_course_of_unfolds (unfolds_view none (each view)) Reply.text here.toSurroundings
      exact ⟨none, course, ⟨rfl, view, result, held, performed⟩, passes⟩
  | _ => cases renders

/-- An action renders something, or it does something to the surroundings itself, or neither. -/
theorem exists_plans_or_idle (host : Host κ π ε) (levels : Nat) (here : Workspace κ ε) (action : Action κ) :
    (∃ outer course, Plans host levels here action outer course ∧
        Passes host outer course ⟨here.toSurroundings, none⟩
          ⟨(outcome (perform host levels action) here).2.toSurroundings, none⟩) ∨
      (∃ deed, action.deed? here = some deed) ∨
      action.deed? here = none ∧ action.rendering? host levels here = none := by
  cases does : action.deed? here with
  | some deed => exact .inr (.inl ⟨deed, rfl⟩)
  | none =>
      cases renders : action.rendering? host levels here with
      | none => exact .inr (.inr ⟨rfl, rfl⟩)
      | some rendering =>
          obtain ⟨outer, course, plans, passes⟩ := exists_course_of_rendering? renders
          rcases (change_perform host levels here action).renders_or_idle with
            ⟨other, rendersOther, isBehind⟩ | rendersNot
          · rw [renders] at rendersOther
            cases rendersOther
            refine .inl ⟨outer, course, plans, ?_⟩
            rw [isBehind]
            exact passes
          · rw [renders] at rendersNot
            cases rendersNot

end Plans

/-- Something done in a workspace: an action, or a file that a renderer of one's own renders with one of the
caches. -/
inductive Activity (κ π ε : Type) where
  | performs (action : Action κ)
  | rendersFile (kind : TagParser π ε) (parser : π) (content : Nat) (path : Path) (scope : Scope)

def behind (host : Host κ π ε) (levels : Nat) (here : Workspace κ ε) : Activity κ π ε → Workspace κ ε
  | .performs action => (outcome (perform host levels action) here).2
  | .rendersFile kind parser content path scope =>
      { here with
        toSurroundings := (outcome (Renderer.renderFile kind content path scope)
          (⟨here.toSurroundings, parser⟩ : Renderer κ π ε)).2.toSurroundings }

/-- The loads by a reference in the course of an activity. -/
inductive Makes (host : Host κ π ε) (levels reference : Nat) (here : Workspace κ ε) :
    Activity κ π ε → List Load → Prop
  | renders {action outer course} (plans : Plans host levels here action outer course)
      (passes : Passes host outer course ⟨here.toSurroundings, none⟩
        ⟨(behind host levels here (.performs action)).toSurroundings, none⟩) :
      Makes host levels reference here (.performs action) (loadsAmong reference here.toSurroundings course)
  | does {action deed} (does : action.deed? here = some deed) :
      Makes host levels reference here (.performs action) (deed.loads reference here.toSurroundings)
  | nothing {action} (doesNot : action.deed? here = none)
      (rendersNot : action.rendering? host levels here = none) :
      Makes host levels reference here (.performs action) []
  | rendersFile {kind parser content path scope} :
      Makes host levels reference here (.rendersFile kind parser content path scope)
        ((Deed.load content path).loads reference here.toSurroundings)

inductive MakesAll (host : Host κ π ε) (levels reference : Nat) :
    Workspace κ ε → List (Activity κ π ε) → List Load → Prop
  | nil {here} : MakesAll host levels reference here [] []
  | cons {here activity activities loads others} (first : Makes host levels reference here activity loads)
      (rest : MakesAll host levels reference (behind host levels here activity) activities others) :
      MakesAll host levels reference here (activity :: activities) (loads ++ others)

section Histories

variable {host : Host κ π ε} {levels reference : Nat}

theorem contents_renderFile (kind : TagParser π ε) (content : Nat) (path : Path) (scope : Scope)
    (renderer : Renderer κ π ε) :
    (outcome (Renderer.renderFile kind content path scope) renderer).2.contents =
      (renderer.toSurroundings.after (.load content path)).contents := by
  have kept : (renderer.toSurroundings.load content path).2 = renderer.toSurroundings.after (.load content path) :=
    rfl
  cases loaded : renderer.toSurroundings.load content path with
  | mk result later =>
      rw [loaded] at kept
      rw [outcome_renderFile kind scope loaded, ← kept]
      cases result <;> rfl

theorem opened_le_behind (here : Workspace κ ε) (activity : Activity κ π ε) :
    here.opened ≤ (behind host levels here activity).opened := by
  cases activity with
  | performs action => exact (change_perform host levels here action).opened_le
  | rendersFile => exact Nat.le_refl here.opened

/-- The loads of an activity lead from the cache before it to that behind it. -/
theorem Makes.loading {here : Workspace κ ε} {activity : Activity κ π ε} {loads : List Load}
    (makes : Makes host levels reference here activity loads) (old : reference < here.opened) :
    ContentCache.Loading loads (here.contents.find reference)
      ((behind host levels here activity).contents.find reference) := by
  cases makes with
  | renders _ passes => exact passes.loading_of_course reference
  | @does action deed does =>
      rcases (change_perform host levels here action).does_or_idle with ⟨other, doesOther, isBehind⟩ | doesNot
      · rw [does] at doesOther
        cases doesOther
        rw [behind, isBehind]
        exact loading_after reference here.toSurroundings deed
      · rw [does] at doesNot
        cases doesNot
  | @nothing action doesNot rendersNot =>
      have change := change_perform host levels here action
      rw [behind, (change.find_of_idle doesNot rendersNot old).1]
      exact .nil
  | @rendersFile kind parser content path scope =>
      rw [behind, contents_renderFile kind content path scope (⟨here.toSurroundings, parser⟩ : Renderer κ π ε)]
      exact loading_after reference here.toSurroundings (.load content path)

variable (host levels reference)

theorem exists_makes (here : Workspace κ ε) (activity : Activity κ π ε) :
    ∃ loads, Makes host levels reference here activity loads := by
  cases activity with
  | performs action =>
      rcases exists_plans_or_idle host levels here action with
        ⟨outer, course, plans, passes⟩ | ⟨deed, does⟩ | ⟨doesNot, rendersNot⟩
      · exact ⟨_, .renders plans passes⟩
      · exact ⟨_, .does does⟩
      · exact ⟨[], .nothing doesNot rendersNot⟩
  | rendersFile => exact ⟨_, .rendersFile⟩

variable {reference}

theorem exists_makesAll (here : Workspace κ ε) (old : reference < here.opened)
    (activities : List (Activity κ π ε)) :
    ∃ history, MakesAll host levels reference here activities history ∧
      ContentCache.Loading history (here.contents.find reference)
        ((activities.foldl (behind host levels) here).contents.find reference) := by
  induction activities generalizing here with
  | nil => exact ⟨[], .nil, .nil⟩
  | cons activity activities ih =>
      obtain ⟨loads, makes⟩ := exists_makes host levels reference here activity
      obtain ⟨others, makesOthers, loadingOthers⟩ :=
        ih (behind host levels here activity) (Nat.lt_of_lt_of_le old (opened_le_behind here activity))
      exact ⟨loads ++ others, .cons makes makesOthers, (makes.loading old).append loadingOthers⟩

/-- Whatever is done after a handle has been opened, all loads of a path by its cache give the text of the
first that succeeded, and the counts are those of the loads. -/
theorem exists_history_of_loads (here : Workspace κ ε) (target : String) (handle : Handle κ)
    (activities : List (Activity κ π ε)) :
    let start := here.takeIn target handle
    let cache := (activities.foldl (behind host levels) start).contents.find here.opened
    ∃ history, MakesAll host levels here.opened start activities history ∧
      (∀ earlier load later, history = earlier ++ load :: later →
        load.result = Load.expected earlier load.files load.path) ∧
      cache.size = (Load.loadedPaths history).dedup.length ∧
      cache.hits + cache.misses = history.length ∧
      cache.misses = (history.filter fun load => !load.succeeded).length + cache.size := by
  intro start cache
  have newest : here.opened < start.opened := Nat.lt_succ_self here.opened
  have empty : start.contents.find here.opened = .empty := Heap.find_put_self ..
  obtain ⟨history, makes, loading⟩ := exists_makesAll host levels start newest activities
  rw [empty] at loading
  obtain ⟨records, each⟩ := ContentCache.records_empty.loading loading
  exact ⟨history, makes, each, records.size_eq, records.hits_add_misses, records.misses_eq⟩

end Histories

end Workspace

end ThemedViews
