import ThemedViews.Proofs.HandleOrigins
import ThemedViews.Proofs.PartialInheritance

/-!
# Renderings with and without cached texts

Paths with the same components are one path to a cache.  They need not be one path
to the files, where a slash behind the name of a file or an overlong text makes a
difference; but where a file has been found, now or before, they are.  So caches
that hold what the files hold change neither the result of a rendering nor its
course, as long as what the host renders takes no notice of them.  A renderable that
tells how many texts are cached makes a difference.
-/

namespace ThemedViews

open Rendering DataValue

namespace Path

def names (path : Path) : List Text :=
  path.text.toList.splitOn '/'

/-- Whether a name leads anywhere. -/
def counts (name : Text) : Bool :=
  name ≠ [] ∧ name ≠ ['.']

def Component.name? : Component → Option Text
  | .root | .current => none
  | .parent => some ['.', '.']
  | .normal name => some name

theorem component?_bind_name? (name : Text) :
    (component? name).bind Component.name? = Option.guard counts name := by
  by_cases idle : name = [] ∨ name = ['.']
  · rcases idle with rfl | rfl
    · rfl
    · rfl
  · obtain ⟨nonempty, notDot⟩ := not_or.mp idle
    by_cases dots : name = ['.', '.']
    · subst dots
      rfl
    · simp [component?, counts, Component.name?, Option.guard, nonempty, notDot, dots]

theorem filter_counts_names (path : Path) :
    path.names.filter counts = path.components.filterMap Component.name? := by
  have inner : (path.names.filterMap component?).filterMap Component.name? = path.names.filter counts := by
    rw [List.filterMap_filterMap, List.filterMap_congr fun name _ => component?_bind_name? name]
    exact congrFun List.filterMap_eq_filter path.names
  rw [← inner, components, componentsOf]
  split
  · rfl
  · split
    · rfl
    · rfl

theorem component?_ne_root (name : Text) : component? name ≠ some .root := by
  unfold component?
  split
  · nofun
  · split
    · nofun
    · nofun

theorem isAbsolute_iff (path : Path) : path.isAbsolute = true ↔ .root ∈ path.components := by
  have inner : .root ∉ (path.text.toList.splitOn '/').filterMap component? := by
    rw [List.mem_filterMap]
    rintro ⟨name, _, isRoot⟩
    exact component?_ne_root name isRoot
  rw [isAbsolute, components, componentsOf]
  split
  · simp_all
  · split
    · simp_all
    · simp_all

end Path

namespace FileTree

open ThemedViews.Path

theorem base_congr (tree : FileTree) {path other : Path} (same : other.components = path.components) :
    tree.base other = tree.base path := by
  have alike : other.isAbsolute = path.isAbsolute := by
    rw [Bool.eq_iff_iff, isAbsolute_iff, isAbsolute_iff, same]
  rw [base, base, alike]

def Place.isFile : Place → Bool
  | .file _ => true
  | _ => false

section Walks

variable {tree once : FileTree} {path other : Path} {place after : Place}

theorem step_of_not_counts {name : Text} (idle : counts name = false) :
    tree.step place name = if place.isFile then .error .notADirectory else .ok place := by
  have trivially : name = [] ∨ name = ['.'] := by simpa [counts, or_iff_not_imp_left] using idle
  rcases trivially with rfl | rfl
  · cases place <;> rfl
  · cases place <;> rfl

/-- A walk that comes to an end does so also without the names that lead nowhere. -/
theorem foldlM_filter_counts {names : List Text} (walked : names.foldlM tree.step place = .ok after) :
    (names.filter counts).foldlM tree.step place = .ok after := by
  induction names generalizing place with
  | nil => exact walked
  | cons name names ih =>
      rw [List.foldlM_cons] at walked
      obtain ⟨between, stepped, behind⟩ := exists_of_bind_eq_ok walked
      cases counted : counts name with
      | false =>
          rw [step_of_not_counts counted] at stepped
          rw [List.filter_cons_of_neg (by simp [counted])]
          split at stepped
          · cases stepped
          · cases stepped
            exact ih behind
      | true =>
          rw [List.filter_cons_of_pos counted, List.foldlM_cons, stepped]
          exact ih behind

/-- A walk takes names that lead nowhere if none of them is behind a file. -/
theorem foldlM_of_filter_counts {front : List Text} {last : Text} (begins : place.isFile = false)
    (walked : (front.filter counts ++ [last]).foldlM tree.step place = .ok after) :
    (front ++ [last]).foldlM tree.step place = .ok after := by
  induction front generalizing place with
  | nil => exact walked
  | cons name front ih =>
      rw [List.cons_append, List.foldlM_cons]
      cases counted : counts name with
      | false =>
          rw [List.filter_cons_of_neg (by simp [counted])] at walked
          rw [step_of_not_counts counted, begins]
          exact ih begins walked
      | true =>
          rw [List.filter_cons_of_pos counted, List.cons_append, List.foldlM_cons] at walked
          obtain ⟨between, stepped, behind⟩ := exists_of_bind_eq_ok walked
          rw [stepped]
          refine ih ?_ behind
          -- Nothing is behind a file, but one more name is to come.
          cases between with
          | file bytes =>
              obtain ⟨next, rest, split⟩ := List.exists_cons_of_ne_nil
                (List.append_ne_nil_of_right_ne_nil (front.filter counts) (List.cons_ne_nil last []))
              rw [split] at behind
              cases behind
          | inside => rfl

theorem find_eq (tree : FileTree) (path : Path) :
    tree.find path =
      if '\x00' ∈ path.text.toList then .error .nulByte
      else if path.text.toList.isEmpty then .error .notFound
      else if longestPath ≤ Text.byteSize path.text.toList then .error .nameTooLong
      else path.names.foldlM tree.step (.inside (tree.base path)) :=
  rfl

theorem find_eq_of_find_eq_ok (found : once.find path = .ok after) (tree : FileTree) :
    tree.find path = path.names.foldlM tree.step (.inside (tree.base path)) := by
  rw [find_eq] at found ⊢
  split at found
  · cases found
  · next clean =>
      split at found
      · cases found
      · next nonempty =>
          split at found
          · cases found
          · next short => rw [if_neg clean, if_neg nonempty, if_neg short]

theorem exists_file_of_isFile (isFile : once.isFile path = true) :
    ∃ bytes, once.find path = .ok (.file bytes) := by
  unfold FileTree.isFile at isFile
  split at isFile
  · next bytes found => exact ⟨bytes, found⟩
  · cases isFile

theorem exists_last_counts_of_isFile (isFile : once.isFile path = true) :
    ∃ front last, path.names = front ++ [last] ∧ counts last = true := by
  obtain ⟨bytes, found⟩ := exists_file_of_isFile isFile
  rw [find_eq_of_find_eq_ok found] at found
  rcases List.eq_nil_or_concat' path.names with none | ⟨front, last, split⟩
  · exact absurd none (List.splitOn_ne_nil '/' path.text.toList)
  · refine ⟨front, last, split, ?_⟩
    rw [split, List.foldlM_append] at found
    obtain ⟨between, _, behind⟩ := exists_of_bind_eq_ok found
    rw [List.foldlM_cons] at behind
    obtain ⟨place, stepped, ends⟩ := exists_of_bind_eq_ok behind
    cases ends
    by_contra idle
    rw [step_of_not_counts (by simpa using idle)] at stepped
    split at stepped
    · cases stepped
    · next notFile =>
        cases stepped
        exact notFile rfl

/-- Where there has been a file at a path, it leads to whatever file a path with the
same components leads to. -/
theorem find_of_components_eq {bytes : ByteArray} (wasFile : once.isFile path = true)
    (same : other.components = path.components) (found : tree.find other = .ok (.file bytes)) :
    tree.find path = .ok (.file bytes) := by
  obtain ⟨onceBytes, onceFound⟩ := exists_file_of_isFile wasFile
  obtain ⟨front, last, split, counted⟩ := exists_last_counts_of_isFile wasFile
  have walked := (find_eq_of_find_eq_ok found tree).symm.trans found
  have kept := foldlM_filter_counts walked
  rw [filter_counts_names, same, ← filter_counts_names, base_congr tree same, split, List.filter_append,
    List.filter_cons_of_pos counted, List.filter_nil] at kept
  -- The last name counts, so none of those that lead nowhere stands behind the file.
  rw [find_eq_of_find_eq_ok onceFound, split]
  exact foldlM_of_filter_counts rfl kept

theorem read_of_components_eq {text : String} (wasFile : once.isFile path = true)
    (same : other.components = path.components) (reads : tree.read other = .ok text) :
    tree.read path = .ok text := by
  unfold read at reads ⊢
  split at reads
  · next bytes found =>
      rw [find_of_components_eq wasFile same found]
      exact reads
  · cases reads
  · cases reads

end Walks

end FileTree

/-- A path at which there is a file, or has been one. -/
def Path.WasFile (path : Path) : Prop :=
  ∃ files : FileTree, files.isFile path = true

namespace ContentCache

/-- All that is kept is what reading its path gives now. -/
def Truthful (files : FileTree) (cache : ContentCache) : Prop :=
  ∀ entry ∈ cache.entries, ∃ path : Path, path.components = entry.1 ∧ files.read path = .ok entry.2

variable {files : FileTree} {cache : ContentCache}

theorem truthful_empty (files : FileTree) : Truthful files .empty :=
  nofun

theorem Truthful.load (truthful : cache.Truthful files) (path : Path) :
    (cache.load files path).2.Truthful files := by
  unfold ContentCache.load
  cases cache.find? path with
  | some text => exact truthful
  | none =>
      cases reads : files.read path with
      | error cause => exact truthful
      | ok text =>
          refine List.forall_mem_append.mpr ⟨truthful, ?_⟩
          rw [List.forall_mem_singleton]
          exact ⟨path, rfl, reads⟩

theorem Truthful.load_eq_read {path : Path} (truthful : cache.Truthful files) (wasFile : path.WasFile) :
    (cache.load files path).1 = (files.read path).mapError (.ioFailure path) := by
  unfold ContentCache.load
  cases found : cache.find? path with
  | some text =>
      obtain ⟨once, isFile⟩ := wasFile
      have member : (path.components, text) ∈ cache.entries := by
        obtain ⟨before, behind, split, _⟩ := List.lookup_eq_some_iff.mp found
        rw [split]
        exact List.mem_append_right _ List.mem_cons_self
      obtain ⟨other, same, reads⟩ := truthful _ member
      rw [FileTree.read_of_components_eq isFile same reads]
      rfl
  | none =>
      cases reads : files.read path with
      | error cause => rfl
      | ok text => rfl

end ContentCache

variable {κ π ε : Type} {host : Host κ π ε} {fits : Renderable κ → Prop}

/-- Leaves the files alone, and shares nothing but what fits. -/
def Deed.Fits (fits : Renderable κ → Prop) : Deed κ ε → Prop
  | .load _ _ => True
  | .share _ _ value => ∀ inner ∈ renderables value, fits inner
  | .write _ _ => False
  | .remove _ => False
  | .elsewhere _ => True

namespace Surroundings

/-- Everything that is cached is what reading its path gives now. -/
def Truthful (around : Surroundings κ ε) : Prop :=
  ∀ content, (around.contents.find content).Truthful around.files

/-- Surroundings that differ in nothing but what is cached.  All that is cached is true, and all that is
shared fits. -/
structure SameButCached (fits : Renderable κ → Prop) (around other : Surroundings κ ε) : Prop where
  files_eq : other.files = around.files
  shared_eq : other.shared = around.shared
  outside_eq : other.outside = around.outside
  truthful : around.Truthful
  truthful_other : other.Truthful
  shared_fits : ∀ reference, ∀ inner ∈ renderablesOfEntries (around.shared.find reference), fits inner

variable {around other : Surroundings κ ε}

theorem Truthful.load (truthful : around.Truthful) (content : Nat) (path : Path) :
    (around.load content path).2.Truthful := by
  intro reference
  have contentsEq : (around.load content path).2.contents =
      around.contents.put content ((around.contents.find content).load around.files path).2 := rfl
  rw [contentsEq, Heap.find_put]
  split
  · exact (truthful content).load path
  · exact truthful reference

/-- Where there has been a file, a cache gives what reading the path gives. -/
theorem Truthful.load_eq_read (truthful : around.Truthful) (content : Nat) {path : Path}
    (wasFile : path.WasFile) :
    (around.load content path).1 = (around.files.read path).mapError (.ioFailure path) :=
  (truthful content).load_eq_read wasFile

theorem SameButCached.after (same : around.SameButCached fits other) (deed : Deed κ ε) (allowed : deed.Fits fits) :
    (around.after deed).SameButCached fits (other.after deed) := by
  obtain ⟨filesEq, sharedEq, outsideEq, truthful, truthfulOther, sharedFits⟩ := same
  cases deed with
  | load content path =>
      exact ⟨filesEq, sharedEq, outsideEq, truthful.load content path, truthfulOther.load content path, sharedFits⟩
  | share shared key value =>
      have putEq : (other.share shared key value).shared = (around.share shared key value).shared := by
        rw [share, share, sharedEq]
      refine ⟨filesEq, putEq, outsideEq, truthful, truthfulOther, fun reference inner member => ?_⟩
      have storesEq : ((around.after (.share shared key value)).shared.find reference) =
          if reference = shared then Table.insert key value (around.shared.find shared)
          else around.shared.find reference := Heap.find_put ..
      rw [storesEq] at member
      split at member
      · obtain ⟨entry, bound, found⟩ := mem_renderablesOfEntries.mp member
        rcases Table.eq_or_mem_of_mem_insert bound with rfl | kept
        · exact allowed inner found
        · exact sharedFits shared inner (mem_renderablesOfEntries.mpr ⟨entry, kept, found⟩)
      · exact sharedFits reference inner member
  | elsewhere outside => exact ⟨filesEq, sharedEq, rfl, truthful, truthfulOther, sharedFits⟩
  | write | remove => cases allowed

theorem SameButCached.afterAll {deeds : List (Deed κ ε)} (same : around.SameButCached fits other)
    (allowed : ∀ deed ∈ deeds, deed.Fits fits) :
    (around.afterAll deeds).SameButCached fits (other.afterAll deeds) := by
  induction deeds generalizing around other with
  | nil => exact same
  | cons deed rest ih =>
      obtain ⟨first, others⟩ := List.forall_mem_cons.mp allowed
      exact ih (same.after deed first) others

end Surroundings

/-- Things to render that take no notice of what is cached.  The views among them have been made and hold
only such things; the others do the same and give the same whatever is cached, and what they do fits. -/
structure Unheeding (host : Host κ π ε) (fits : Renderable κ → Prop) : Prop where
  made : ∀ view, fits (.view view) → ∃ supplied, view.MadeWith host supplied
  held : ∀ view, fits (.view view) → ∀ inner ∈ view.held, fits inner
  rendered : ∀ name, fits (.host name) → ∀ around other, around.SameButCached fits other →
    ∃ result deeds, (∀ deed ∈ deeds, deed.Fits fits) ∧
      outcome (host.rendition name).render around = (result, around.afterAll deeds) ∧
      outcome (host.rendition name).render other = (result, other.afterAll deeds)

theorem Page.wasFile_of_make {around : Surroundings κ ε} {handle : Handle κ} {theme name : String} {data : Data κ}
    {page : Page κ (DataValue κ)} (made : Page.make host around handle theme name data = .ok page) :
    page.path.WasFile := by
  unfold Page.make at made
  obtain ⟨path, found, ends⟩ := exists_of_bind_eq_ok made
  cases ends
  exact ⟨around.files, Resolver.isFile_of_path found⟩

namespace View

variable {view : View κ} {supplied : List (String × Supply κ)}

theorem MadeWith.wasFile_partial (made : view.MadeWith host supplied) :
    ∀ entry ∈ view.partials, entry.2.path.WasFile := by
  intro entry member
  obtain ⟨index, less, rfl⟩ := List.mem_iff_getElem.mp member
  have each := made.forall₂
  obtain ⟨-, there, name, paged, -⟩ := each.get less (each.length_eq ▸ less)
  exact Page.wasFile_of_make paged

theorem MadeWith.wasFile (made : view.MadeWith host supplied) : view.path.WasFile := by
  induction made with
  | make found =>
      unfold View.make at found
      obtain ⟨page, paged, ends⟩ := exists_of_bind_eq_ok found
      cases ends
      exact Page.wasFile_of_make paged
  | @copyPartial view _ key page made found _ =>
      obtain ⟨before, behind, split, -⟩ := List.lookup_eq_some_iff.mp found
      have member : (key, page) ∈ view.partials := by
        rw [split]
        exact List.mem_append_right before List.mem_cons_self
      exact made.wasFile_partial (key, page) member
  | bind | bindAll | setLayout => assumption
  | @addPartial around request view _ _ _ added ih =>
      have revised := revised_addPartials host around [request] view
      rw [← outcome_addPartial_eq, added] at revised
      exact revised.path_eq ▸ ih
  | @addPartials around requests view _ _ _ call ih | @refused around requests view _ _ _ _ call ih =>
      have revised := revised_addPartials host around requests view
      rw [call] at revised
      exact revised.path_eq ▸ ih

end View

/-- Surroundings side by side that differ in what is cached. -/
def Shelves.unheeding (unheeding : Unheeding host fits) : Shelves host Bool where
  admits := fits
  reads := Path.WasFile
  alike states := (states false).SameButCached fits (states true)
  reads_path isFit := (unheeding.made _ isFit).elim fun _ made => made.wasFile
  reads_partial isFit := (unheeding.made _ isFit).elim fun _ made => made.wasFile_partial
  reads_file isFile := ⟨_, isFile⟩
  admits_held isFit := unheeding.held _ isFit
  admits_shared same := same.shared_fits
  files_eq same index := by
    cases index
    · rfl
    · exact same.files_eq
  shared_eq same index := by
    cases index
    · rfl
    · exact same.shared_eq
  outside_eq same index := by
    cases index
    · rfl
    · exact same.outside_eq
  moved same outside := same.after (.elsewhere outside) trivial
  load {states} same content path wasFile := by
    refine ⟨((states false).files.read path).mapError (.ioFailure path), fun index => ?_,
      same.after (.load content path) trivial⟩
    cases index
    · exact same.truthful.load_eq_read content wasFile
    · rw [← same.files_eq]
      exact same.truthful_other.load_eq_read content wasFile
  render {states} same name isFit := by
    obtain ⟨result, deeds, allowed, first, second⟩ := unheeding.rendered name isFit _ _ same
    refine ⟨result, deeds, fun index => ?_, same.afterAll allowed⟩
    cases index
    · exact first
    · exact second

namespace View

/-- Whatever is cached, nothing included, as long as it is true, a rendering takes the same course to the same
result. -/
theorem exists_course_with_and_without_cache (unheeding : Unheeding host fits) (levels : Nat) {view : View κ}
    (isFit : fits (.view view)) {around other : Surroundings κ ε} (same : around.SameButCached fits other) :
    let run := outcome (renderWithin host levels view)
    ∃ course last,
      Passes host (some view) course ⟨around, none⟩ ⟨(run around).2, last⟩ ∧
      Passes host (some view) course ⟨other, none⟩ ⟨(run other).2, last⟩ ∧
      Rendered levels view course (run around).1 ∧
      (run other).1 = (run around).1 ∧
      (run around).2.SameButCached fits (run other).2 := by
  intro run
  let states (cached : Bool) : Surroundings κ ε := if cached then other else around
  obtain ⟨course, result, after, last, rendered, abreast, each⟩ :=
    unfoldsView_renderWithin (Shelves.unheeding unheeding) levels view isFit states ⟨same, fun _ => rfl⟩
  obtain ⟨ran, passes⟩ := each false
  obtain ⟨ranOther, passesOther⟩ := each true
  have first : run around = (result, after false) := ran
  have second : run other = (result, after true) := ranOther
  rw [first, second]
  exact ⟨course, last, passes, passesOther, rendered, rfl, abreast.alike⟩

section Decks

def uncached : Surroundings Unit Unit :=
  .start postFiles ()

/-- The text of the post is cached, under another text for its path. -/
def cached : Surroundings Unit Unit :=
  { uncached with
    contents := .put 0 ⟨[(Path.components ⟨"t//main/./views/post.html"⟩, "post")], 0, 0⟩ .empty }

def noErrors : DataValue Unit :=
  .ofValue MessageBag.empty.toValue

def notePath : Path :=
  ⟨"t/main/views/note.html"⟩

/-- What is rendered is the text of a file, by way of a cache. -/
def loadingHost : Host Unit Unit Unit :=
  { listingHost with
    rendition := fun _ =>
      { render := ExceptT.mk <| modifyGet fun around =>
          let (result, around) := around.load 0 notePath
          (result.map String.toList, around)
        exists_deeds := fun _ => ⟨[.load 0 notePath], rfl⟩ } }

def card : View Unit :=
  { name := "note"
    theme := "main"
    layout := "layout"
    path := notePath
    data := [("errors", noErrors), ("note", .renderable ())]
    handle := pageHandle
    partials := [] }

def deck : View Unit :=
  { post with
    data := [("card", .view card), ("errors", noErrors)]
    partials := [] }

/-- The deck, its card, and what the card holds. -/
def inDeck : Renderable Unit → Prop
  | .host _ => True
  | .view inner => inner = card ∨ inner = deck

theorem madeWith_card : card.MadeWith loadingHost [] := by
  have made : View.make loadingHost uncached pageHandle "note" [("note", .renderable ())] =
      .ok card := rfl
  exact .make made

theorem madeWith_deck : deck.MadeWith loadingHost [] := by
  have made : View.make loadingHost uncached pageHandle "post" [("card", .view card)] =
      .ok deck := rfl
  exact .make made

theorem wasFile_notePath : notePath.WasFile :=
  ⟨postFiles, rfl⟩

theorem unheeding_inDeck : Unheeding loadingHost inDeck where
  made view isFit := by
    rcases isFit with rfl | rfl
    · exact ⟨[], madeWith_card⟩
    · exact ⟨[], madeWith_deck⟩
  held view isFit inner member := by
    rcases isFit with rfl | rfl
    · rw [List.mem_singleton.mp (show inner ∈ [Renderable.host ()] from member)]
      trivial
    · rw [List.mem_singleton.mp (show inner ∈ [Renderable.view card] from member)]
      exact .inl rfl
  rendered name _ around other same := by
    refine ⟨((around.files.read notePath).mapError (.ioFailure notePath)).map String.toList,
      [.load 0 notePath], List.forall_mem_singleton.mpr trivial, ?_, ?_⟩
    · rw [← same.truthful.load_eq_read 0 wasFile_notePath]
      rfl
    · rw [← same.files_eq, ← same.truthful_other.load_eq_read 0 wasFile_notePath]
      rfl

theorem sameButCached_cached (fits : Renderable Unit → Prop) : cached.SameButCached fits uncached where
  files_eq := rfl
  shared_eq := rfl
  outside_eq := rfl
  truthful content := by
    rw [cached, Heap.find_put]
    split
    · exact List.forall_mem_singleton.mpr ⟨⟨"t//main/./views/post.html"⟩, rfl, rfl⟩
    · exact ContentCache.truthful_empty _
  truthful_other _ := ContentCache.truthful_empty _
  shared_fits _ _ member := by cases member

/-- With a text in the cache, under another text for its path, and with none. -/
theorem exists_course_deck :
    let run := outcome (renderWithin loadingHost 2 deck)
    Unheeding loadingHost inDeck ∧ inDeck (.view deck) ∧ cached.SameButCached inDeck uncached ∧
      ((run cached).2.contents.find 0).hits = 3 ∧ ((run uncached).2.contents.find 0).hits = 2 ∧
      ∃ course last,
        Passes loadingHost (some deck) course ⟨cached, none⟩ ⟨(run cached).2, last⟩ ∧
        Passes loadingHost (some deck) course ⟨uncached, none⟩ ⟨(run uncached).2, last⟩ ∧
        Rendered 2 deck course (run cached).1 ∧
        (run uncached).1 = (run cached).1 ∧
        (run cached).2.SameButCached inDeck (run uncached).2 := by
  have isFit : inDeck (.view deck) := .inr rfl
  have same : cached.SameButCached inDeck uncached := sameButCached_cached inDeck
  have hits : ((outcome (renderWithin loadingHost 2 deck) cached).2.contents.find 0).hits = 3 := by
    decide +kernel
  have hitsUncached : ((outcome (renderWithin loadingHost 2 deck) uncached).2.contents.find 0).hits = 2 := by
    decide +kernel
  exact ⟨unheeding_inDeck, isFit, same, hits, hitsUncached,
    exists_course_with_and_without_cache unheeding_inDeck 2 isFit same⟩

/-- What is rendered is the number of cached texts. -/
def countingHost : Host Unit Unit Unit :=
  { listingHost with
    rendition := fun _ =>
      { render := do return (toString ((← get).contents.find 0).size).toList
        exists_deeds := fun _ => ⟨[], rfl⟩ } }

def counted : View Unit :=
  { post with
    data := [("errors", noErrors), ("partials", .nested [("cached", .renderable ())])]
    partials := [] }

/-- A view with something in it that counts the cached texts is rendered to another text with a text in the
cache than with none, although it is the text of its file. -/
theorem renderWithin_counted_ne :
    counted.MadeWith countingHost [] ∧ cached.SameButCached (fun _ => True) uncached ∧
      (outcome (renderWithin countingHost 1 counted) cached).1 =
        .ok "layout( body errors partials; cached=1)".toList ∧
      (outcome (renderWithin countingHost 1 counted) uncached).1 =
        .ok "layout( body errors partials; cached=0)".toList := by
  have made : View.make countingHost uncached pageHandle "post"
      [("partials", .nested [("cached", .renderable ())])] = .ok counted := rfl
  refine ⟨.make made, sameButCached_cached _, ?_, ?_⟩
  · decide +kernel
  · decide +kernel

end Decks

end View

end ThemedViews
