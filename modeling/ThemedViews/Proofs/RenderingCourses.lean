import ThemedViews.Proofs.CompositionScopes

/-!
# The course of a rendering

What happens while a view is rendered is a list of events: the shared data is
read, something in data is rendered, a parser is made, a file is loaded, the parser
is called.  Each event leads from one scene to the next, so that a course of events
accounts for all that a rendering changes.  The course follows a plan that the view
and the shared data settle when it begins, up to the first task that fails.  A
nested view is one event for the outer one and has a course, and a parser, of its
own.
-/

namespace ThemedViews

open Rendering DataValue Relation

variable {κ π ε : Type}

/-- Something in data that is rendered when the data is resolved. -/
inductive Renderable (κ : Type) where
  | host (name : κ)
  | view (inner : View κ)

namespace DataValue

mutual

def renderables : DataValue κ → List (Renderable κ)
  | .scalar _ => []
  | .nested entries => renderablesOfEntries entries
  | .renderable name => [.host name]
  | .view inner => [.view inner]

def renderablesOfEntries : List (String × DataValue κ) → List (Renderable κ)
  | [] => []
  | (_, value) :: rest => renderables value ++ renderablesOfEntries rest

end

theorem mem_renderablesOfEntries {inner : Renderable κ} {entries : List (String × DataValue κ)} :
    inner ∈ renderablesOfEntries entries ↔ ∃ entry ∈ entries, inner ∈ renderables entry.2 := by
  induction entries with
  | nil => simp [renderablesOfEntries]
  | cons entry rest ih =>
      rw [renderablesOfEntries, List.mem_append, ih, List.exists_mem_cons_iff]

end DataValue

/-- What is rendered in the data of a view and in that of its partials. -/
def View.held (view : View κ) : List (Renderable κ) :=
  renderablesOfEntries view.data ++ view.partials.flatMap fun entry => renderablesOfEntries entry.2.data

/-- Something that happens while a view is rendered, with what comes of it. -/
inductive Event (κ ε : Type) where
  | reads (seen : Data κ)
  | renders (name : κ) (deeds : List (Deed κ ε)) (result : Except ViewError Text)
  | nests (inner : View κ) (course : List (Event κ ε)) (result : Except (Halt ViewError) Text)
  | creates
  | setsCumulative (enabled : Bool)
  | parses (text : Text) (scope : Scope) (result : Except TemplateError Text)
  | injects (content output : Text)
  | loads (content : Nat) (path : Path) (result : Except ViewError String)
  | seeks (name : String) (result : Except ViewError Path)

/-- The scopes that texts are parsed with in a course, in order, apart from what happens in
nested views. -/
def scopes (course : List (Event κ ε)) : List Scope :=
  course.filterMap fun
    | .parses _ scope _ => some scope
    | _ => none

@[simp]
theorem scopes_append (course events : List (Event κ ε)) :
    scopes (course ++ events) = scopes course ++ scopes events :=
  List.filterMap_append

/-- What events change: the surroundings, and the parser once there is one. -/
structure Scene (κ π ε : Type) where
  around : Surroundings κ ε
  parser : Option π

mutual

/-- An event leads from one scene to another, in the rendering of a view or
outside of all. -/
inductive Happens (host : Host κ π ε) : Option (View κ) → Event κ ε → Scene κ π ε → Scene κ π ε → Prop
  | reads {view scene seen} (sees : scene.around.shared.find view.handle.shared = seen) :
      Happens host (some view) (.reads seen) scene scene
  | renders {outer around parser name deeds result}
      (ran : outcome (host.rendition name).render around = (result, around.afterAll deeds)) :
      Happens host outer (.renders name deeds result) ⟨around, parser⟩ ⟨around.afterAll deeds, parser⟩
  | nests {outer around later parser last inner course result}
      (passes : Passes host (some inner) course ⟨around, none⟩ ⟨later, last⟩) :
      Happens host outer (.nests inner course result) ⟨around, parser⟩ ⟨later, parser⟩
  | creates {view around outside parser}
      (ran : (host.parser view.handle.parser).create.run around.outside = (parser, outside)) :
      Happens host (some view) .creates ⟨around, none⟩ ⟨{ around with outside }, some parser⟩
  | setsCumulative {view around outside parser changed enabled}
      (ran : ((host.parser view.handle.parser).setCumulative enabled).run (parser, around.outside) =
        ((), (changed, outside))) :
      Happens host (some view) (.setsCumulative enabled) ⟨around, some parser⟩
        ⟨{ around with outside }, some changed⟩
  | parses {view around outside parser changed text scope result}
      (ran : outcome ((host.parser view.handle.parser).parse text scope) (parser, around.outside) =
        (result, (changed, outside))) :
      Happens host (some view) (.parses text scope result) ⟨around, some parser⟩
        ⟨{ around with outside }, some changed⟩
  | injects {view around outside parser changed content output}
      (ran : ((host.parser view.handle.parser).inject content).run (parser, around.outside) =
        (output, (changed, outside))) :
      Happens host (some view) (.injects content output) ⟨around, some parser⟩
        ⟨{ around with outside }, some changed⟩
  | loads {outer around later parser content path result}
      (loaded : around.load content path = (result, later)) :
      Happens host outer (.loads content path result) ⟨around, parser⟩ ⟨later, parser⟩
  | seeks {view scene name result}
      (sought : (view.handle.resolverFor view.theme).path scene.around.files name = result) :
      Happens host (some view) (.seeks name result) scene scene

inductive Passes (host : Host κ π ε) :
    Option (View κ) → List (Event κ ε) → Scene κ π ε → Scene κ π ε → Prop
  | nil {outer scene} : Passes host outer [] scene scene
  | cons {outer event course before between after} (first : Happens host outer event before between)
      (rest : Passes host outer course between after) :
      Passes host outer (event :: course) before after

end

inductive Task (κ : Type) where
  | render (renderable : Renderable κ)
  | create
  | pass (label : String) (content : Nat) (path : Path)
  | layout (content : Nat) (name : String)

/-- The events of a pass over a file.  Whatever becomes of the parsing, it is
followed by an injection. -/
inductive FilePass (label : String) (content : Nat) (path : Path) :
    List (Event κ ε) → Except (Halt ViewError) Text → Prop
  | unread (error) :
      FilePass label content path [.loads content path (.error error)] (.error (.failed error))
  | rejected (text : String) (scope error dropped) :
      FilePass label content path
        [.loads content path (.ok text), .setsCumulative true, .parses text.toList scope (.error error),
          .injects [] dropped]
        (.error (.failed (.parseFailure label error)))
  | passed (text : String) (scope parsed output) :
      FilePass label content path
        [.loads content path (.ok text), .setsCumulative true, .parses text.toList scope (.ok parsed),
          .injects parsed output]
        (.ok output)

/-- What a view that is rendered inside of another one may go through. -/
abbrev Conformity (κ ε : Type) := View κ → List (Event κ ε) → Except (Halt ViewError) Text → Prop

/-- The events of a task, and its result. -/
inductive Performs (nested : Conformity κ ε) :
    Task κ → List (Event κ ε) → Except (Halt ViewError) Text → Prop
  | host (name deeds result) :
      Performs nested (.render (.host name)) [.renders name deeds result] (result.mapError .failed)
  | view {inner course result} (conforms : nested inner course result) :
      Performs nested (.render (.view inner)) [.nests inner course result] result
  | create : Performs nested .create [.creates] (.ok [])
  | pass {label content path course result} (events : FilePass label content path course result) :
      Performs nested (.pass label content path) course result
  | unfound (content name error) :
      Performs nested (.layout content name) [.seeks name (.error error)] (.error (.failed error))
  | layout {content name path course result} (events : FilePass path.text content path course result) :
      Performs nested (.layout content name) (.seeks name (.ok path) :: course) result

/-- Tasks are performed one after another, up to the first that fails. -/
inductive Follows (nested : Conformity κ ε) :
    List (Task κ) → List (Event κ ε) → Option (Halt ViewError) → Prop
  | nil : Follows nested [] [] none
  | cons {task tasks events course text failure} (first : Performs nested task events (.ok text))
      (rest : Follows nested tasks course failure) :
      Follows nested (task :: tasks) (events ++ course) failure
  | stops {task tasks events halt} (first : Performs nested task events (.error halt)) :
      Follows nested (task :: tasks) events (some halt)

/-- Tasks are performed, and if none of them fails, a last one that gives the
result. -/
inductive Concludes (nested : Conformity κ ε) (tasks : List (Task κ)) (last : Task κ) :
    List (Event κ ε) → Except (Halt ViewError) Text → Prop
  | stops {course halt} (stopped : Follows nested tasks course (some halt)) :
      Concludes nested tasks last course (.error halt)
  | ends {course events result} (followed : Follows nested tasks course none)
      (concluded : Performs nested last events result) :
      Concludes nested tasks last (course ++ events) result

/-- Own data over what is seen of the shared data: under every key the own value, or else the
shared one, in the order of the keys. -/
structure Merges (seen own merged : Data κ) : Prop where
  lookup_eq : ∀ key, merged.lookup key = (own.reverse.lookup key).or (seen.lookup key)
  sorted : Table.Sorted seen → Table.Sorted merged

namespace View

def partialTasks (content : Nat) (page : Page κ (DataValue κ)) : List (Task κ) :=
  (renderablesOfEntries page.data).map .render ++ [.pass page.path.text content page.path]

/-- What has to be done for the parts of a view before its layout. -/
def partTasks (view : View κ) : List (Task κ) :=
  view.partials.flatMap (fun entry => partialTasks view.handle.content entry.2) ++
    [.pass view.name view.handle.content view.path]

/-- What has to be done for a view with merged data before its layout. -/
def tasks (merged : Data κ) (view : View κ) : List (Task κ) :=
  (renderablesOfEntries merged).map .render ++ .create :: view.partTasks

/-- What has to be done for a view in the end. -/
def lastTask (view : View κ) : Task κ :=
  .layout view.handle.content (layoutName view.layout)

/-- The courses of renderings with a limit on the views inside each other, and
their results. -/
def Rendered : (levels : Nat) → Conformity κ ε
  | 0, _, course, result => course = [] ∧ result = .error .unfinished
  | levels + 1, outer, course, result =>
      ∃ seen merged behind, course = .reads seen :: behind ∧ Merges seen outer.data merged ∧
        Concludes (Rendered levels) (outer.tasks merged) outer.lastTask behind result

end View

section Courses

variable {host : Host κ π ε} {outer : Option (View κ)} {nested : Conformity κ ε} {tasks others : List (Task κ)}
  {course events : List (Event κ ε)}

theorem Passes.append {before between after : Scene κ π ε} (first : Passes host outer course before between)
    (rest : Passes host outer events between after) :
    Passes host outer (course ++ events) before after := by
  induction course generalizing before with
  | nil => cases first; exact rest
  | cons event course ih =>
      cases first with
      | cons happens behind => exact .cons happens (ih behind)

theorem Passes.single {event : Event κ ε} {before after : Scene κ π ε}
    (happens : Happens host outer event before after) : Passes host outer [event] before after :=
  .cons happens .nil

theorem Follows.append {failure : Option (Halt ViewError)} (first : Follows nested tasks course none)
    (rest : Follows nested others events failure) :
    Follows nested (tasks ++ others) (course ++ events) failure := by
  generalize ended : (none : Option (Halt ViewError)) = verdict at first
  induction first with
  | nil => exact rest
  | cons performed _ ih =>
      rw [List.append_assoc]
      exact .cons performed (ih ended)
  | stops => cases ended

theorem Follows.append_stopped {halt : Halt ViewError} (first : Follows nested tasks course (some halt))
    (others : List (Task κ)) : Follows nested (tasks ++ others) course (some halt) := by
  generalize ended : some halt = verdict at first
  induction first with
  | nil => cases ended
  | cons performed _ ih => exact .cons performed (ih ended)
  | stops performed =>
      cases ended
      exact .stops performed

theorem Concludes.prepend {last : Task κ} {result : Except (Halt ViewError) Text}
    (first : Follows nested tasks course none) (rest : Concludes nested others last events result) :
    Concludes nested (tasks ++ others) last (course ++ events) result := by
  cases rest with
  | stops stopped => exact .stops (first.append stopped)
  | ends followed concluded =>
      rw [← List.append_assoc]
      exact .ends (first.append followed) concluded

def failure? {α : Type} : Except (Halt ViewError) α → Option (Halt ViewError)
  | .ok _ => none
  | .error halt => some halt

theorem Performs.follows {task : Task κ} {result : Except (Halt ViewError) Text}
    (performed : Performs nested task events result) : Follows nested [task] events (failure? result) := by
  cases result with
  | error halt => exact .stops performed
  | ok text =>
      have followed := Follows.cons performed .nil
      rwa [List.append_nil] at followed

end Courses

/-- Surroundings side by side in which the same is loaded, as far as paths are read, and in which only
that is rendered which is admitted, with the same result. -/
structure Shelves (host : Host κ π ε) (ι : Type) [Inhabited ι] where
  admits : Renderable κ → Prop
  reads : Path → Prop
  alike : (ι → Surroundings κ ε) → Prop
  reads_path : ∀ {view}, admits (.view view) → reads view.path
  reads_partial : ∀ {view}, admits (.view view) → ∀ entry ∈ view.partials, reads entry.2.path
  reads_file : ∀ {files path}, FileTree.isFile files path = true → reads path
  admits_held : ∀ {view}, admits (.view view) → ∀ inner ∈ view.held, admits inner
  admits_shared : ∀ {states}, alike states → ∀ reference,
    ∀ inner ∈ renderablesOfEntries ((states default).shared.find reference), admits inner
  files_eq : ∀ {states}, alike states → ∀ index, (states index).files = (states default).files
  shared_eq : ∀ {states}, alike states → ∀ index, (states index).shared = (states default).shared
  outside_eq : ∀ {states}, alike states → ∀ index, (states index).outside = (states default).outside
  moved : ∀ {states}, alike states → ∀ outside, alike fun index => { states index with outside }
  load : ∀ {states}, alike states → ∀ content {path}, reads path → ∃ loaded,
    (∀ index, ((states index).load content path).1 = loaded) ∧
      alike fun index => ((states index).load content path).2
  render : ∀ {states}, alike states → ∀ {name}, admits (.host name) → ∃ result deeds,
    (∀ index, outcome (host.rendition name).render (states index) = (result, (states index).afterAll deeds)) ∧
      alike fun index => (states index).afterAll deeds

/-- Surroundings by themselves. -/
def Shelves.single (host : Host κ π ε) : Shelves host Unit where
  admits _ := True
  reads _ := True
  alike _ := True
  reads_path _ := trivial
  reads_partial _ _ _ := trivial
  reads_file _ := trivial
  admits_held _ _ _ := trivial
  admits_shared _ _ _ _ := trivial
  files_eq _ _ := rfl
  shared_eq _ _ := rfl
  outside_eq _ _ := rfl
  moved _ _ := trivial
  load {states} _ content path _ := ⟨((states ()).load content path).1, fun _ => rfl, trivial⟩
  render {states} _ name _ := by
    obtain ⟨deeds, later⟩ := (host.rendition name).exists_deeds (states ())
    exact ⟨(outcome (host.rendition name).render (states ())).1, deeds, fun _ => Prod.ext rfl later, trivial⟩

namespace Rendering

variable {σ τ α β ι : Type} [Inhabited ι] {host : Host κ π ε}

/-- Runs side by side, each with the same parser. -/
structure Abreast (shelves : Shelves host ι) (place : σ → Scene κ π ε) (states : ι → σ) : Prop where
  alike : shelves.alike fun index => (place (states index)).around
  parser_eq : ∀ index, (place (states index)).parser = (place (states default)).parser

/-- A computation takes the same course in runs side by side, and it has the
same result. -/
def Unfolds (shelves : Shelves host ι) (outer : Option (View κ)) (place : σ → Scene κ π ε)
    (action : Rendering σ α) (conforms : List (Event κ ε) → Except (Halt ViewError) α → Prop) : Prop :=
  ∀ states : ι → σ, Abreast shelves place states →
    ∃ course result, ∃ after : ι → σ, conforms course result ∧ Abreast shelves place after ∧
      ∀ index, outcome action (states index) = (result, after index) ∧
        Passes host outer course (place (states index)) (place (after index))

section Unfolds

variable {shelves : Shelves host ι} {outer : Option (View κ)} {place : σ → Scene κ π ε} {nested : Conformity κ ε}
  {tasks others : List (Task κ)}

theorem unfolds_pure (value : α) :
    Unfolds shelves outer place (pure value) fun course result =>
      Follows nested [] course (failure? result) :=
  fun states abreast => ⟨[], .ok value, states, .nil, abreast, fun _ => ⟨rfl, .nil⟩⟩

theorem Unfolds.mono {action : Rendering σ α}
    {conforms other : List (Event κ ε) → Except (Halt ViewError) α → Prop}
    (unfolds : Unfolds shelves outer place action conforms)
    (implies : ∀ course result, conforms course result → other course result) :
    Unfolds shelves outer place action other := by
  intro states abreast
  obtain ⟨course, result, after, conforming, others⟩ := unfolds states abreast
  exact ⟨course, result, after, implies course result conforming, others⟩

theorem Unfolds.bind {action : Rendering σ α} {next : α → Rendering σ β}
    {conforms : List (Event κ ε) → Except (Halt ViewError) α → Prop}
    {behind : List (Event κ ε) → Except (Halt ViewError) β → Prop}
    {whole : List (Event κ ε) → Except (Halt ViewError) β → Prop}
    (first : Unfolds shelves outer place action conforms)
    (rest : ∀ value, Unfolds shelves outer place (next value) behind)
    (stopped : ∀ course halt, conforms course (.error halt) → whole course (.error halt))
    (joined : ∀ course value events result, conforms course (.ok value) → behind events result →
      whole (course ++ events) result) :
    Unfolds shelves outer place (action >>= next) whole := by
  intro states abreast
  obtain ⟨course, found, between, conforming, stillAbreast, each⟩ := first states abreast
  cases found with
  | error halt =>
      refine ⟨course, .error halt, between, stopped course halt conforming, stillAbreast, ?_⟩
      exact fun index => ⟨outcome_bind_of_error (each index).1 next, (each index).2⟩
  | ok value =>
      obtain ⟨events, result, after, conformingBehind, abreastBehind, eachBehind⟩ :=
        rest value between stillAbreast
      refine ⟨course ++ events, result, after, joined _ _ _ _ conforming conformingBehind,
        abreastBehind, fun index => ⟨?_, (each index).2.append (eachBehind index).2⟩⟩
      rw [outcome_bind_of_ok (each index).1 next]
      exact (eachBehind index).1

theorem Unfolds.andThen {action : Rendering σ α} {next : α → Rendering σ β}
    (first : Unfolds shelves outer place action fun course result =>
      Follows nested tasks course (failure? result))
    (rest : ∀ value, Unfolds shelves outer place (next value) fun course result =>
      Follows nested others course (failure? result)) :
    Unfolds shelves outer place (action >>= next) fun course result =>
      Follows nested (tasks ++ others) course (failure? result) :=
  first.bind rest (fun _ _ stopped => stopped.append_stopped others)
    (fun _ _ _ _ followed behind => followed.append behind)

theorem Unfolds.thenConclude {action : Rendering σ α} {next : α → Rendering σ Text} {last : Task κ}
    (first : Unfolds shelves outer place action fun course result =>
      Follows nested tasks course (failure? result))
    (rest : ∀ value, Unfolds shelves outer place (next value) (Concludes nested others last)) :
    Unfolds shelves outer place (action >>= next) (Concludes nested (tasks ++ others) last) :=
  first.bind rest (fun _ _ stopped => .stops (stopped.append_stopped others))
    (fun _ _ _ _ followed behind => behind.prepend followed)

theorem Unfolds.conclude {action : Rendering σ α} {next : α → Rendering σ Text} {last : Task κ}
    (first : Unfolds shelves outer place action fun course result =>
      Follows nested tasks course (failure? result))
    (rest : ∀ value, Unfolds shelves outer place (next value) (Performs nested last)) :
    Unfolds shelves outer place (action >>= next) (Concludes nested tasks last) :=
  first.bind rest (fun _ _ stopped => .stops stopped) (fun _ _ _ _ followed behind => .ends followed behind)

theorem Unfolds.mapTask {action : Rendering σ Text} {task : Task κ} (convert : Text → β)
    (performs : Unfolds shelves outer place action (Performs nested task)) :
    Unfolds shelves outer place (action >>= fun text => pure (convert text)) fun course result =>
      Follows nested [task] course (failure? result) :=
  performs.bind (fun text => unfolds_pure (convert text)) (fun _ _ stopped => .stops stopped)
    (fun _ _ _ _ performed behind => .cons performed behind)

theorem Unfolds.asTask {action : Rendering σ Text} {task : Task κ}
    (performs : Unfolds shelves outer place action (Performs nested task)) :
    Unfolds shelves outer place action fun course result =>
      Follows nested [task] course (failure? result) :=
  performs.mono fun _ _ performed => performed.follows

end Unfolds

end Rendering

namespace Scene

def beside (parser : Option π) (around : Surroundings κ ε) : Scene κ π ε :=
  ⟨around, parser⟩

def ofRenderer (renderer : Renderer κ π ε) : Scene κ π ε :=
  ⟨renderer.toSurroundings, some renderer.parser⟩

end Scene

section Steps

variable {ι : Type} [Inhabited ι] {host : Host κ π ε} {shelves : Shelves host ι} {outer : Option (View κ)}
  {view : View κ} {nested : Conformity κ ε} {renderView : View κ → Rendering (Surroundings κ ε) Text}

theorem Rendering.Abreast.beside {states : ι → Surroundings κ ε} {parser : Option π}
    (abreast : Abreast shelves (Scene.beside parser) states) (other : Option π) :
    Abreast shelves (Scene.beside other) states :=
  ⟨abreast.alike, fun _ => rfl⟩

/-- A view takes the same course in renderings side by side, each with a parser of
its own. -/
def UnfoldsView (shelves : Shelves host ι) (renderView : View κ → Rendering (Surroundings κ ε) Text)
    (nested : Conformity κ ε) (view : View κ) : Prop :=
  ∀ states : ι → Surroundings κ ε, Abreast shelves (Scene.beside (none : Option π)) states →
    ∃ course result, ∃ after : ι → Surroundings κ ε, ∃ last : Option π, nested view course result ∧
      Abreast shelves (Scene.beside last) after ∧
      ∀ index, outcome (renderView view) (states index) = (result, after index) ∧
        Passes host (some view) course ⟨states index, none⟩ ⟨after index, last⟩

theorem unfolds_host (parser : Option π) {name : κ} (admitted : shelves.admits (.host name)) :
    Unfolds shelves outer (Scene.beside parser) (ofPass (host.rendition name).render)
      (Performs nested (.render (.host name))) := by
  intro states abreast
  obtain ⟨result, deeds, each, alike⟩ := shelves.render abreast.alike admitted
  refine ⟨[.renders name deeds result], result.mapError .failed, fun index => (states index).afterAll deeds,
    .host name deeds result, ⟨alike, fun _ => rfl⟩, fun index => ?_⟩
  have ran : outcome (host.rendition name).render (states index) = _ := each index
  refine ⟨?_, .single (.renders ran)⟩
  rw [outcome_ofPass, ran]
  rfl

theorem unfolds_view (parser : Option π) {inner : View κ}
    (unfolds : UnfoldsView shelves renderView nested inner) :
    Unfolds shelves outer (Scene.beside parser) (renderView inner)
      (Performs nested (.render (.view inner))) := by
  intro states abreast
  obtain ⟨course, result, after, last, conforms, abreastAfter, each⟩ :=
    unfolds states (abreast.beside none)
  refine ⟨[.nests inner course result], result, after, .view conforms, abreastAfter.beside parser, ?_⟩
  exact fun index => ⟨(each index).1, .single (.nests (each index).2)⟩

theorem Rendering.Unfolds.inSurroundings {α : Type} {inner : Rendering (Surroundings κ ε) α}
    {conforms : List (Event κ ε) → Except (Halt ViewError) α → Prop}
    (unfolds : ∀ parser, Unfolds shelves outer (Scene.beside parser) inner conforms) :
    Unfolds shelves outer Scene.ofRenderer (View.inSurroundings inner) conforms := by
  intro states abreast
  obtain ⟨course, result, after, conforming, abreastAfter, each⟩ :=
    unfolds (some (states default).parser) (fun index => (states index).toSurroundings)
      ⟨abreast.alike, fun _ => rfl⟩
  refine ⟨course, result, fun index => { states index with toSurroundings := after index }, conforming,
    ⟨abreastAfter.alike, abreast.parser_eq⟩, fun index => ⟨?_, ?_⟩⟩
  · rw [View.inSurroundings, outcome_focused, (each index).1]
  · have ownParser : some (states index).parser = some (states default).parser := abreast.parser_eq index
    have passes := (each index).2
    rw [← ownParser] at passes
    exact passes

theorem exists_passes_renderText (host : Host κ π ε) (view : View κ) (text : Text) (scope : Scope)
    (parser : π) (outside : ε) :
    ∃ events result changed later,
      outcome ((host.parser view.handle.parser).renderText text scope) (parser, outside) =
        (result, (changed, later)) ∧
      (∀ around : Surroundings κ ε, around.outside = outside → Passes host (some view) events
        ⟨around, some parser⟩ ⟨{ around with outside := later }, some changed⟩) ∧
      ((∃ error dropped, result = .error error ∧
          events = [.setsCumulative true, .parses text scope (.error error), .injects [] dropped]) ∨
        ∃ parsed output, result = .ok output ∧
          events = [.setsCumulative true, .parses text scope (.ok parsed), .injects parsed output]) := by
  rcases ready : ((host.parser view.handle.parser).setCumulative true).run (parser, outside) with
    ⟨⟨⟩, first, before⟩
  rcases parsing : outcome ((host.parser view.handle.parser).parse text scope) (first, before) with
    ⟨found, second, between⟩
  have ran := outcome_renderText (host.parser view.handle.parser) text scope (parser, outside)
  rw [ready, parsing] at ran
  cases found with
  | error error =>
      rcases injected : ((host.parser view.handle.parser).inject []).run (second, between) with
        ⟨dropped, third, later⟩
      simp only [injected] at ran
      refine ⟨_, _, _, _, ran, fun around same => ?_, .inl ⟨error, dropped, rfl, rfl⟩⟩
      subst same
      exact .cons (.setsCumulative ready) (.cons (.parses parsing) (.single (.injects injected)))
  | ok parsed =>
      rcases injected : ((host.parser view.handle.parser).inject parsed).run (second, between) with
        ⟨output, third, later⟩
      simp only [injected] at ran
      refine ⟨_, _, _, _, ran, fun around same => ?_, .inr ⟨parsed, output, rfl, rfl⟩⟩
      subst same
      exact .cons (.setsCumulative ready) (.cons (.parses parsing) (.single (.injects injected)))

theorem ofPass_bind {σ α β : Type} (pass : ExceptT ViewError (StateM σ) α)
    (next : α → ExceptT ViewError (StateM σ) β) :
    ofPass (pass >>= next) = (ofPass pass >>= fun value => ofPass (next value)) := by
  funext state
  have whole := outcome_ofPass (pass >>= next) state
  have parts := outcome_bind (ofPass pass) (fun value => ofPass (next value)) state
  rw [outcome_bind] at whole
  rw [outcome_ofPass] at parts
  refine whole.trans (Eq.trans ?_ parts.symm)
  obtain ⟨_ | value, after⟩ := outcome pass state
  · rfl
  · rfl

/-- A pass over a file parses its text with the scope that it is given, if there is a text. -/
theorem unfolds_scoped_pass {path : Path} (read : shelves.reads path) (label : String) (content : Nat)
    (scope : Scope) :
    Unfolds shelves (some view) Scene.ofRenderer
      (do
        let text ← ofPass (Renderer.load content path)
        ofPass (Renderer.renderNamed (host.parser view.handle.parser) label text scope))
      fun course result => FilePass label content path course result ∧
        ∀ found ∈ scopes course, found = scope := by
  intro states abreast
  -- All runs load the same, and from there on they differ in their caches only.
  obtain ⟨loaded, eachLoads, alike⟩ := shelves.load abreast.alike content read
  let filled (index : ι) : Renderer κ π ε :=
    { states index with toSurroundings := ((states index).toSurroundings.load content path).2 }
  have happens (index : ι) : Happens host (some view) (.loads content path loaded)
      (Scene.ofRenderer (states index)) (Scene.ofRenderer (filled index)) :=
    .loads (Prod.ext (eachLoads index) rfl)
  have loads (index : ι) : outcome (ofPass (Renderer.load content path)) (states index) =
      ((loaded.map String.toList).mapError .failed, filled index) := by
    rw [outcome_ofPass, outcome_load,
      show ((states index).toSurroundings.load content path).1 = loaded from eachLoads index]
  cases loaded with
  | error error =>
      refine ⟨[.loads content path (.error error)], .error (.failed error), filled, ⟨.unread error, nofun⟩,
        ⟨alike, abreast.parser_eq⟩, fun index => ⟨?_, .single (happens index)⟩⟩
      exact outcome_bind_of_error (loads index) _
  | ok text =>
      obtain ⟨events, result, changed, later, ran, passes, shape⟩ :=
        exists_passes_renderText host view text.toList scope (states default).parser
          (filled default).outside
      let after (index : ι) : Renderer κ π ε := { filled index with parser := changed, outside := later }
      have abreastAfter : Abreast shelves Scene.ofRenderer after := ⟨shelves.moved alike later, fun _ => rfl⟩
      have each (index : ι) :
          outcome (do
              let text ← ofPass (Renderer.load content path)
              ofPass (Renderer.renderNamed (host.parser view.handle.parser) label text scope)) (states index) =
            ((result.mapError (.parseFailure label)).mapError .failed, after index) ∧
          Passes host (some view) (.loads content path (.ok text) :: events) (Scene.ofRenderer (states index))
            (Scene.ofRenderer (after index)) := by
        have outsideEq : (filled index).outside = (filled default).outside := shelves.outside_eq alike index
        have parserEq : (states index).parser = (states default).parser :=
          Option.some.inj (abreast.parser_eq index)
        refine ⟨?_, .cons (happens index) ?_⟩
        · rw [outcome_bind_of_ok (loads index), outcome_ofPass, outcome_renderNamed]
          rw [show (filled index).parser = _ from parserEq, outsideEq, ran]
        · have passed := passes (filled index).toSurroundings outsideEq
          rw [← parserEq] at passed
          exact passed
      rcases shape with ⟨error, dropped, rfl, rfl⟩ | ⟨parsed, output, rfl, rfl⟩
      · exact ⟨_, _, after, ⟨.rejected text scope error dropped, fun _ => List.mem_singleton.mp⟩,
          abreastAfter, each⟩
      · exact ⟨_, _, after, ⟨.passed text scope parsed output, fun _ => List.mem_singleton.mp⟩,
          abreastAfter, each⟩

theorem unfolds_pass {path : Path} (read : shelves.reads path) (label : String) (content : Nat)
    (scope : Scope) :
    Unfolds shelves (some view) Scene.ofRenderer
      (do
        let text ← ofPass (Renderer.load content path)
        ofPass (Renderer.renderNamed (host.parser view.handle.parser) label text scope))
      (Performs nested (.pass label content path)) :=
  (unfolds_scoped_pass read label content scope).mono fun _ _ conforms => .pass conforms.1

theorem unfolds_scoped_renderFile {path : Path} (read : shelves.reads path) (content : Nat) (scope : Scope) :
    Unfolds shelves (some view) Scene.ofRenderer
      (ofPass (Renderer.renderFile (host.parser view.handle.parser) content path scope))
      fun course result => FilePass path.text content path course result ∧
        ∀ found ∈ scopes course, found = scope := by
  rw [Renderer.renderFile, ofPass_bind]
  exact unfolds_scoped_pass read path.text content scope

theorem unfolds_renderFile {path : Path} (read : shelves.reads path) (content : Nat) (scope : Scope) :
    Unfolds shelves (some view) Scene.ofRenderer
      (ofPass (Renderer.renderFile (host.parser view.handle.parser) content path scope))
      (Performs nested (.pass path.text content path)) :=
  (unfolds_scoped_renderFile read content scope).mono fun _ _ conforms => .pass conforms.1

mutual

theorem unfolds_resolve
    (each : ∀ inner, shelves.admits (.view inner) → UnfoldsView shelves renderView nested inner)
    (parser : Option π) (value : DataValue κ) (admitted : ∀ inner ∈ renderables value, shelves.admits inner) :
    Unfolds shelves outer (Scene.beside parser) (resolve host renderView value) fun course result =>
      Follows nested ((renderables value).map .render) course (failure? result) := by
  match value with
  | .scalar value => exact unfolds_pure value
  | .nested entries =>
      have entriesUnfold := unfolds_resolveEntries each parser entries admitted
      have whole := entriesUnfold.andThen fun scope => unfolds_pure (Value.object scope)
      rw [List.append_nil] at whole
      exact whole
  | .renderable name =>
      have own : shelves.admits (.host name) := admitted _ (List.mem_singleton.mpr rfl)
      exact (unfolds_host parser own).mapTask _
  | .view inner =>
      have own : shelves.admits (.view inner) := admitted _ (List.mem_singleton.mpr rfl)
      exact (unfolds_view parser (each inner own)).mapTask _

theorem unfolds_resolveEntries
    (each : ∀ inner, shelves.admits (.view inner) → UnfoldsView shelves renderView nested inner)
    (parser : Option π) (entries : List (String × DataValue κ))
    (admitted : ∀ inner ∈ renderablesOfEntries entries, shelves.admits inner) :
    Unfolds shelves outer (Scene.beside parser) (resolveEntries host renderView entries) fun course result =>
      Follows nested ((renderablesOfEntries entries).map .render) course (failure? result) := by
  match entries with
  | [] => exact unfolds_pure []
  | (key, value) :: rest =>
      rw [renderablesOfEntries, List.forall_mem_append] at admitted
      rw [resolveEntries, renderablesOfEntries, List.map_append]
      refine (unfolds_resolve each parser value admitted.1).andThen fun resolved => ?_
      have restUnfolds := unfolds_resolveEntries each parser rest admitted.2
      have whole := restUnfolds.andThen fun scope => unfolds_pure ((key, resolved) :: scope)
      rw [List.append_nil] at whole
      exact whole

end

theorem Resolver.isFile_of_path {resolver : Resolver} {files : FileTree} {name : String} {path : Path}
    (found : resolver.path files name = .ok path) : files.isFile path = true := by
  unfold Resolver.path at found
  obtain ⟨other, _, checked⟩ := exists_of_bind_eq_ok found
  split at checked
  · next isFile =>
      cases checked
      exact isFile
  · cases checked

namespace View

theorem merges_mergedData (shared : Heap (Data κ)) (view : View κ) :
    Merges (shared.find view.handle.shared) view.data (view.mergedData shared) where
  lookup_eq := Table.lookup_overlay_eq_reverse _ _
  sorted sorted := sorted.overlay view.data

section Parts

variable (each : ∀ inner, shelves.admits (.view inner) → UnfoldsView shelves renderView nested inner)

include each

/-- The data of a view is the shared data that is seen at first, below its own, and what is in it is
rendered. -/
theorem unfolds_resolvedData (parser : Option π) (admitted : shelves.admits (.view view)) :
    Unfolds shelves (some view) (Scene.beside parser) (view.resolvedData host renderView)
      fun course result => ∃ seen merged behind, course = .reads seen :: behind ∧
        Merges seen view.data merged ∧
        Follows nested ((renderablesOfEntries merged).map .render) behind (failure? result) := by
  intro states abreast
  have alike : shelves.alike states := abreast.alike
  have allAdmitted : ∀ inner ∈ renderablesOfEntries (view.mergedData (states default).shared),
      shelves.admits inner := by
    intro inner member
    obtain ⟨entry, bound, found⟩ := mem_renderablesOfEntries.mp member
    rcases Table.mem_or_mem_of_mem_overlay bound with below | above
    · exact shelves.admits_shared alike _ inner (mem_renderablesOfEntries.mpr ⟨entry, below, found⟩)
    · exact shelves.admits_held admitted inner
        (List.mem_append_left _ (mem_renderablesOfEntries.mpr ⟨entry, above, found⟩))
  have entries : Unfolds shelves (some view) (Scene.beside parser) _ _ :=
    unfolds_resolveEntries each parser _ allAdmitted
  obtain ⟨course, result, after, followed, abreastAfter, runs⟩ := entries states abreast
  refine ⟨.reads ((states default).shared.find view.handle.shared) :: course, result, after,
    ⟨_, _, course, rfl, merges_mergedData _ view, followed⟩, abreastAfter, fun index => ?_⟩
  have sharedEq : (states index).shared = (states default).shared := shelves.shared_eq alike index
  refine ⟨?_, .cons (.reads ?_) (runs index).2⟩
  · rw [resolvedData, outcome_get_bind, sharedEq]
    exact (runs index).1
  · exact congrArg (Heap.find _) sharedEq

theorem unfolds_renderPartials (content : Nat) (data : Scope) {partials : List (String × Page κ (DataValue κ))}
    (read : ∀ entry ∈ partials, shelves.reads entry.2.path)
    (admitted : ∀ inner ∈ partials.flatMap (fun entry => renderablesOfEntries entry.2.data),
      shelves.admits inner)
    (rendered : Scope) :
    Unfolds shelves (some view) Scene.ofRenderer
      (renderPartials host renderView (host.parser view.handle.parser) content data partials rendered)
      fun course result =>
        Follows nested (partials.flatMap fun entry => partialTasks content entry.2) course
          (failure? result) := by
  induction partials generalizing rendered with
  | nil => exact unfolds_pure rendered
  | cons entry rest ih =>
      rw [List.flatMap_cons, List.forall_mem_append] at admitted
      rw [List.forall_mem_cons] at read
      rw [List.flatMap_cons, partialTasks, List.append_assoc]
      unfold renderPartials
      refine (Unfolds.inSurroundings fun parser =>
        unfolds_resolveEntries each parser entry.2.data admitted.1).andThen fun own => ?_
      exact (unfolds_renderFile read.1 content _).asTask.andThen fun output =>
        ih read.2 admitted.2 _

omit each

theorem unfolds_layout (content : Nat) (name : String) (scope : Scope) :
    Unfolds shelves (some view) Scene.ofRenderer
      (do
        let renderer ← get
        let layout ← ofResult ((view.handle.resolverFor view.theme).path renderer.files name)
        ofPass (Renderer.renderFile (host.parser view.handle.parser) content layout scope))
      (Performs nested (.layout content name)) := by
  intro states abreast
  have filesEq (index : ι) : (states index).files = (states default).files :=
    shelves.files_eq abreast.alike index
  have sought (index : ι) (result : Except ViewError Path)
      (found : (view.handle.resolverFor view.theme).path (states default).files name = result) :
      outcome (ofResult ((view.handle.resolverFor view.theme).path (states index).files name)) (states index) =
        (result.mapError .failed, states index) := by
    rw [filesEq, found]
    rfl
  have happens (index : ι) (result : Except ViewError Path)
      (found : (view.handle.resolverFor view.theme).path (states default).files name = result) :
      Happens host (some view) (.seeks name result) (Scene.ofRenderer (states index))
        (Scene.ofRenderer (states index)) := by
    refine .seeks ?_
    rw [show (Scene.ofRenderer (states index)).around.files = _ from filesEq index, found]
  cases found : (view.handle.resolverFor view.theme).path (states default).files name with
  | error error =>
      refine ⟨[.seeks name (.error error)], .error (.failed error), states, .unfound content name error,
        abreast, fun index => ⟨?_, .single (happens index _ found)⟩⟩
      rw [outcome_get_bind]
      exact outcome_bind_of_error (sought index _ found) _
  | ok layout =>
      have read := shelves.reads_file (Resolver.isFile_of_path found)
      have passes : Unfolds shelves (some view) Scene.ofRenderer _
          (Performs nested (.pass layout.text content layout)) := unfolds_renderFile read content scope
      obtain ⟨course, result, after, performed, abreastAfter, runs⟩ := passes states abreast
      cases performed with
      | pass events =>
          refine ⟨.seeks name (.ok layout) :: course, result, after, .layout events, abreastAfter, ?_⟩
          intro index
          refine ⟨?_, .cons (happens index _ found) (runs index).2⟩
          rw [outcome_get_bind, outcome_bind_of_ok (sought index _ found)]
          exact (runs index).1

include each

theorem unfolds_renderParts (data : Scope) (admitted : shelves.admits (.view view)) :
    Unfolds shelves (some view) Scene.ofRenderer (renderParts host renderView view data)
      (Concludes nested view.partTasks view.lastTask) := by
  unfold renderParts partTasks
  have inPartials : ∀ inner ∈ view.partials.flatMap (fun entry => renderablesOfEntries entry.2.data),
      shelves.admits inner :=
    fun inner member => shelves.admits_held admitted inner (List.mem_append_right _ member)
  refine (unfolds_renderPartials each _ data (shelves.reads_partial admitted) inPartials _).thenConclude
    fun rendered => ?_
  rw [← bind_assoc]
  exact (unfolds_pass (shelves.reads_path admitted) view.name _ _).asTask.conclude fun body =>
    unfolds_layout _ _ _

theorem unfoldsView_renderNesting (admitted : shelves.admits (.view view)) :
    UnfoldsView shelves (renderNesting host renderView)
      (fun outer course result => ∃ seen merged behind, course = .reads seen :: behind ∧
        Merges seen outer.data merged ∧
        Concludes nested (outer.tasks merged) outer.lastTask behind result)
      view := by
  intro states abreast
  obtain ⟨_, resolved, between, ⟨seen, merged, course, rfl, merges, followed⟩, abreastBetween, resolves⟩ :=
    unfolds_resolvedData each none admitted states abreast
  cases resolved with
  | error halt =>
      refine ⟨_, .error halt, between, none,
        ⟨seen, merged, course, rfl, merges, .stops (followed.append_stopped _)⟩, abreastBetween, ?_⟩
      exact fun index => ⟨outcome_bind_of_error (resolves index).1 _, (resolves index).2⟩
  | ok data =>
      -- A parser is made from the outside alone, so it is the same in all runs.
      rcases created : (host.parser view.handle.parser).create.run (between default).outside with
        ⟨parser, later⟩
      let begun (index : ι) : Renderer κ π ε := { between index with outside := later, parser }
      obtain ⟨events, result, after, concluded, abreastAfter, parts⟩ :=
        unfolds_renderParts each data admitted begun ⟨shelves.moved abreastBetween.alike later, fun _ => rfl⟩
      have createsNext : Concludes nested (view.tasks merged) view.lastTask (course ++ (.creates :: events))
          result := (Concludes.prepend (.cons .create .nil) concluded).prepend followed
      refine ⟨.reads seen :: (course ++ .creates :: events), result, fun index => (after index).toSurroundings,
        some (after default).parser, ⟨seen, merged, _, rfl, merges, createsNext⟩,
        ⟨abreastAfter.alike, fun _ => rfl⟩, ?_⟩
      intro index
      have outsideEq : (between index).outside = (between default).outside :=
        shelves.outside_eq abreastBetween.alike index
      have parserEq : some (after index).parser = some (after default).parser :=
        abreastAfter.parser_eq index
      rw [← outsideEq] at created
      constructor
      · refine (outcome_renderNesting_of_created (resolves index).1 created).trans ?_
        exact congrArg (fun run => (run.1, run.2.toSurroundings)) (parts index).1
      · have passes := (parts index).2
        rw [Scene.ofRenderer, Scene.ofRenderer, parserEq] at passes
        exact (resolves index).2.append (.cons (.creates created) passes)

end Parts

/-- Renderings side by side take the same course, in which the view and all views
inside of it follow their plans. -/
theorem unfoldsView_renderWithin (shelves : Shelves host ι) (levels : Nat) (view : View κ)
    (admitted : shelves.admits (.view view)) :
    UnfoldsView shelves (renderWithin host levels) (Rendered levels) view := by
  induction levels generalizing view with
  | zero =>
      intro states abreast
      exact ⟨[], .error .unfinished, states, none, ⟨rfl, rfl⟩, abreast, fun _ => ⟨rfl, .nil⟩⟩
  | succ levels ih => exact unfoldsView_renderNesting ih admitted

end View

end Steps

namespace View

/-- The events of a rendering lead from its surroundings to those behind it, and
they are those of the plan, up to the first failure, which is the result. -/
theorem exists_course_of_renderWithin (host : Host κ π ε) (levels : Nat) (view : View κ)
    (around : Surroundings κ ε) :
    ∃ course last,
      Passes host (some view) course ⟨around, none⟩
        ⟨(outcome (renderWithin host levels view) around).2, last⟩ ∧
      Rendered levels view course (outcome (renderWithin host levels view) around).1 := by
  obtain ⟨course, result, after, last, conforms, _, each⟩ :=
    unfoldsView_renderWithin (Shelves.single host) levels view trivial (fun _ => around)
      ⟨trivial, fun _ => rfl⟩
  refine ⟨course, last, ?_, ?_⟩
  · rw [(each ()).1]
    exact (each ()).2
  · rw [(each ()).1]
    exact conforms

end View

end ThemedViews
