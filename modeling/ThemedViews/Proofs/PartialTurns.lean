import ThemedViews.Proofs.RenderingCourses

/-!
# The turns of partials

In the course of a rendering each partial has its turn, in order: its own data is
resolved, its file is loaded, and the text is parsed with a scope of its own.  A
partial that no turn comes to has no scope.  The scope is put together from the
merged data of the view and the own data of the partial as it is at its turn.
-/

namespace ThemedViews

open Rendering DataValue Relation

variable {κ π ε : Type} {host : Host κ π ε} {nested : Conformity κ ε}

theorem Performs.scopes_render {renderable : Renderable κ} {events : List (Event κ ε)}
    {result : Except (Halt ViewError) Text} (performed : Performs nested (.render renderable) events result) :
    scopes events = [] := by
  cases performed <;> rfl

/-- Nothing is parsed while data is resolved. -/
theorem scopes_of_follows_render {renderables : List (Renderable κ)} {course : List (Event κ ε)}
    {failure : Option (Halt ViewError)} (followed : Follows nested (renderables.map .render) course failure) :
    scopes course = [] := by
  generalize tasksEq : renderables.map Task.render = tasks at followed
  induction followed generalizing renderables with
  | nil => rfl
  | cons first rest ih =>
      obtain ⟨renderable, others, rfl, rfl, othersEq⟩ := List.map_eq_cons_iff.mp tasksEq
      rw [scopes_append, first.scopes_render, ih othersEq, List.append_nil]
  | stops first =>
      obtain ⟨renderable, others, rfl, rfl, -⟩ := List.map_eq_cons_iff.mp tasksEq
      exact first.scopes_render

/-- What is parsed in a pass is the text of the file, and it is parsed once. -/
theorem FilePass.exists_parses {label : String} {content : Nat} {path : Path} {course : List (Event κ ε)}
    {result : Except (Halt ViewError) Text} (passed : FilePass label content path course result) {index : Nat}
    {scope : Scope} (found : (scopes course)[index]? = some scope) :
    index = 0 ∧ ∃ text parsed behind,
      course =
        .loads content path (.ok text) :: .setsCumulative true :: .parses text.toList scope parsed :: behind := by
  have single {other : Scope} (found : [other][index]? = some scope) : index = 0 ∧ other = scope := by
    cases index with
    | zero => exact ⟨rfl, Option.some.inj found⟩
    | succ index => cases found
  cases passed with
  | unread error => cases found
  | rejected text other error dropped =>
      obtain ⟨indexEq, rfl⟩ := single found
      exact ⟨indexEq, text, _, _, rfl⟩
  | passed text other parsed output =>
      obtain ⟨indexEq, rfl⟩ := single found
      exact ⟨indexEq, text, _, _, rfl⟩

theorem FilePass.length_scopes {label : String} {content : Nat} {path : Path} {course : List (Event κ ε)}
    {output : Text} (passed : FilePass label content path course (.ok output)) : (scopes course).length = 1 := by
  cases passed
  rfl

namespace View

variable {view : View κ} {renderView : View κ → Rendering (Surroundings κ ε) Text}

/-- A partial has its turn in a course that begins with a scene, when texts have been parsed
`index` times: its data is resolved, and the text of its file is parsed with a scope. -/
def HasTurn (host : Host κ π ε) (renderView : View κ → Rendering (Surroundings κ ε) Text) (view : View κ)
    (path : Path) (data : Data κ) (begin_ : Scene κ π ε) (course : List (Event κ ε)) (index : Nat)
    (scope own : Scope) : Prop :=
  ∃ ahead resolving behind text parsed there resolvedIn parser,
    course = ahead ++ (resolving ++ .loads view.handle.content path (.ok text) :: .setsCumulative true ::
      .parses text.toList scope parsed :: behind) ∧
    (scopes ahead).length = index ∧
    Passes host (some view) ahead begin_ ⟨there, parser⟩ ∧
    outcome (resolveEntries host renderView data) there = (.ok own, resolvedIn) ∧
    Passes host (some view) resolving ⟨there, parser⟩ ⟨resolvedIn, parser⟩

section Turns

variable {path : Path} {data : Data κ} {begin_ between : Scene κ π ε} {course : List (Event κ ε)} {index : Nat}
  {scope own : Scope}

theorem HasTurn.append (turn : HasTurn host renderView view path data begin_ course index scope own)
    (more : List (Event κ ε)) :
    HasTurn host renderView view path data begin_ (course ++ more) index scope own := by
  obtain ⟨ahead, resolving, behind, text, parsed, there, resolvedIn, parser, rfl, others⟩ := turn
  refine ⟨ahead, resolving, behind ++ more, text, parsed, there, resolvedIn, parser, ?_, others⟩
  simp only [List.append_assoc, List.cons_append]

theorem HasTurn.prepend {events : List (Event κ ε)} (passes : Passes host (some view) events begin_ between)
    (turn : HasTurn host renderView view path data between course index scope own) :
    HasTurn host renderView view path data begin_ (events ++ course) ((scopes events).length + index) scope
      own := by
  obtain ⟨ahead, resolving, behind, text, parsed, there, resolvedIn, parser, rfl, rfl, passesAhead, others⟩ :=
    turn
  refine ⟨events ++ ahead, resolving, behind, text, parsed, there, resolvedIn, parser, ?_, ?_,
    passes.append passesAhead, others⟩
  · rw [List.append_assoc]
  · rw [scopes_append, List.length_append]

end Turns

/-- What is known of the scopes in the course of the partials: each is that of the partial
with this number, at its turn. -/
def TellsTurns (host : Host κ π ε) (renderView : View κ → Rendering (Surroundings κ ε) Text) (view : View κ)
    (merged : Scope) (partials : List (String × Page κ (DataValue κ))) (begin_ : Scene κ π ε)
    (course : List (Event κ ε)) : Prop :=
  ∀ (index : Nat) (scope : Scope), index < partials.length → (scopes course)[index]? = some scope →
    ∃ key page rendered own, partials[index]? = some (key, page) ∧
      HasTurn host renderView view page.path page.data begin_ course index scope own ∧
      scope = partialScope merged rendered own

/-- A partial is rendered in one turn, in which only its own text is parsed. -/
theorem exists_turn_of_partial (merged rendered : Scope) {page : Page κ (DataValue κ)}
    (each : ∀ inner, UnfoldsView (Shelves.single host) renderView nested inner)
    (before : Renderer κ π ε) :
    ∃ course result after,
      outcome (inSurroundings (resolveEntries host renderView page.data) >>= fun own =>
        ofPass (Renderer.renderFile (host.parser view.handle.parser) view.handle.content page.path
          (partialScope merged rendered own))) before = (result, after) ∧
      Follows nested (partialTasks view.handle.content page) course (failure? result) ∧
      Passes host (some view) course (Scene.ofRenderer before) (Scene.ofRenderer after) ∧
      (∀ output, result = .ok output → (scopes course).length = 1) ∧
      ∀ (index : Nat) (scope : Scope), (scopes course)[index]? = some scope →
        index = 0 ∧ ∃ own,
          HasTurn host renderView view page.path page.data (Scene.ofRenderer before) course 0 scope own ∧
          scope = partialScope merged rendered own := by
  have resolving : Unfolds (Shelves.single host) (some view) Scene.ofRenderer _ _ :=
    Unfolds.inSurroundings fun parser => unfolds_resolveEntries (fun inner _ => each inner) parser page.data
      fun _ _ => trivial
  obtain ⟨events, found, resolvedIn, followed, -, resolves⟩ :=
    resolving (fun _ => before) ⟨trivial, fun _ => rfl⟩
  obtain ⟨resolved, passesResolving⟩ := resolves ()
  have unparsed := scopes_of_follows_render followed
  cases found with
  | error halt =>
      refine ⟨events, .error halt, resolvedIn (), outcome_bind_of_error resolved _,
        followed.append_stopped _, passesResolving, (fun _ equal => by cases equal), ?_⟩
      intro index scope found
      rw [unparsed] at found
      cases found
  | ok own =>
      obtain ⟨around, ownResolved, resolvedInEq⟩ := exists_of_outcome_inSurroundings resolved
      rw [resolvedInEq] at resolved passesResolving
      have passing : Unfolds (Shelves.single host) (some view) Scene.ofRenderer
          (ofPass (Renderer.renderFile (host.parser view.handle.parser) view.handle.content page.path
            (partialScope merged rendered own))) _ :=
        unfolds_scoped_renderFile trivial _ _
      obtain ⟨passed, output, passedIn, ⟨filePass, sameScope⟩, -, passes⟩ :=
        passing (fun _ => { before with toSurroundings := around }) ⟨trivial, fun _ => rfl⟩
      obtain ⟨ran, passesFile⟩ := passes ()
      refine ⟨events ++ passed, output, passedIn (), ?_, followed.append (Performs.pass filePass).follows,
        passesResolving.append passesFile, ?_, ?_⟩
      · rw [outcome_bind_of_ok resolved, ran]
      · rintro text rfl
        rw [scopes_append, unparsed, List.nil_append, filePass.length_scopes]
      · intro index scope found
        rw [scopes_append, unparsed, List.nil_append] at found
        obtain ⟨indexEq, text, parsed, behind, passedEq⟩ := filePass.exists_parses found
        refine ⟨indexEq, own, ⟨[], events, behind, text, parsed, before.toSurroundings, around,
          some before.parser, ?_, rfl, .nil, ownResolved, passesResolving⟩,
          sameScope scope (List.mem_of_getElem? found)⟩
        rw [passedEq, List.nil_append]

theorem exists_turns_of_renderPartials (merged rendered : Scope) {partials : List (String × Page κ (DataValue κ))}
    (each : ∀ inner, UnfoldsView (Shelves.single host) renderView nested inner) (before : Renderer κ π ε) :
    ∃ course result after,
      outcome (renderPartials host renderView (host.parser view.handle.parser) view.handle.content merged partials
        rendered) before = (result, after) ∧
      Follows nested (partials.flatMap fun entry => partialTasks view.handle.content entry.2) course
        (failure? result) ∧
      Passes host (some view) course (Scene.ofRenderer before) (Scene.ofRenderer after) ∧
      (∀ all, result = .ok all → (scopes course).length = partials.length) ∧
      TellsTurns host renderView view merged partials (Scene.ofRenderer before) course := by
  induction partials generalizing rendered before with
  | nil => exact ⟨[], .ok rendered, before, rfl, .nil, .nil, fun _ _ => rfl, fun _ _ less => by cases less⟩
  | cons entry rest ih =>
      obtain ⟨key, page⟩ := entry
      obtain ⟨events, found, between, ran, followed, passes, parsedOnce, first⟩ :=
        exists_turn_of_partial merged rendered each before
      rw [List.flatMap_cons]
      unfold renderPartials
      rw [← bind_assoc]
      cases found with
      | error halt =>
          refine ⟨events, .error halt, between, outcome_bind_of_error ran _, followed.append_stopped _, passes,
            (fun _ equal => by cases equal), ?_⟩
          intro index scope _ found
          obtain ⟨rfl, own, turn, scopeEq⟩ := first index scope found
          exact ⟨key, page, rendered, own, rfl, turn, scopeEq⟩
      | ok output =>
          obtain ⟨others, result, after, ranOthers, followedOthers, passesOthers, lengthEq, tells⟩ :=
            ih (Table.insert key (.text (String.ofList output)) rendered) between
          have isOne : (scopes events).length = 1 := parsedOnce output rfl
          refine ⟨events ++ others, result, after, ?_, followed.append followedOthers,
            passes.append passesOthers, ?_, ?_⟩
          · rw [outcome_bind_of_ok ran, ranOthers]
          · intro all resultEq
            rw [scopes_append, List.length_append, isOne, lengthEq all resultEq, List.length_cons, Nat.add_comm]
          · intro index scope less found
            rw [scopes_append] at found
            cases index with
            | zero =>
                rw [List.getElem?_append_left (by omega)] at found
                obtain ⟨-, own, turn, scopeEq⟩ := first 0 scope found
                exact ⟨key, page, rendered, own, rfl, turn.append others, scopeEq⟩
            | succ index =>
                rw [List.getElem?_append_right (by omega), isOne] at found
                obtain ⟨other, otherPage, earlier, own, here, otherTurn, scopeEq⟩ :=
                  tells index scope (Nat.lt_of_succ_lt_succ less) found
                have turn := otherTurn.prepend passes
                rw [isOne, Nat.add_comm] at turn
                exact ⟨other, otherPage, earlier, own, here, turn, scopeEq⟩

section Tells

variable {merged : Scope} {partials : List (String × Page κ (DataValue κ))} {begin_ between : Scene κ π ε}
  {course events : List (Event κ ε)}

theorem TellsTurns.append (tells : TellsTurns host renderView view merged partials begin_ course)
    (lengthEq : (scopes course).length = partials.length) (more : List (Event κ ε)) :
    TellsTurns host renderView view merged partials begin_ (course ++ more) := by
  intro index scope less found
  rw [scopes_append, List.getElem?_append_left (by omega)] at found
  obtain ⟨key, page, rendered, own, here, turn, scopeEq⟩ := tells index scope less found
  exact ⟨key, page, rendered, own, here, turn.append more, scopeEq⟩

theorem TellsTurns.prepend (passes : Passes host (some view) events begin_ between)
    (unparsed : scopes events = [])
    (tells : TellsTurns host renderView view merged partials between course) :
    TellsTurns host renderView view merged partials begin_ (events ++ course) := by
  intro index scope less found
  rw [scopes_append, unparsed, List.nil_append] at found
  obtain ⟨key, page, rendered, own, here, turn, scopeEq⟩ := tells index scope less found
  have later := turn.prepend passes
  rw [unparsed, List.length_nil, Nat.zero_add] at later
  exact ⟨key, page, rendered, own, here, later, scopeEq⟩

end Tells

theorem exists_turns_of_renderParts (merged : Scope)
    (each : ∀ inner, UnfoldsView (Shelves.single host) renderView nested inner) (before : Renderer κ π ε) :
    ∃ course result after,
      outcome (renderParts host renderView view merged) before = (result, after) ∧
      Concludes nested view.partTasks view.lastTask course result ∧
      Passes host (some view) course (Scene.ofRenderer before) (Scene.ofRenderer after) ∧
      (∀ text, result = .ok text → view.partials.length ≤ (scopes course).length) ∧
      TellsTurns host renderView view merged view.partials (Scene.ofRenderer before) course := by
  obtain ⟨course, found, between, ran, followed, passes, lengthEq, tells⟩ :=
    exists_turns_of_renderPartials merged (boundPartials merged) each before
  unfold renderParts
  cases found with
  | error halt =>
      exact ⟨course, .error halt, between, outcome_bind_of_error ran _, .stops (followed.append_stopped _),
        passes, nofun, tells⟩
  | ok all =>
      rw [outcome_bind_of_ok ran, ← bind_assoc]
      have ending : Unfolds (Shelves.single host) (some view) Scene.ofRenderer _
          (Concludes nested [.pass view.name view.handle.content view.path] view.lastTask) :=
        (unfolds_pass trivial view.name _ (Table.insert partialsKey (.object all) merged)).asTask.conclude
          fun body => unfolds_layout _ _
            (Table.insert bodyKey (.text (String.ofList body)) (Table.insert partialsKey (.object all) merged))
      obtain ⟨events, result, after, concluded, -, ends⟩ :=
        ending (fun _ => between) ⟨trivial, fun _ => rfl⟩
      refine ⟨course ++ events, result, after (), (ends ()).1, concluded.prepend followed,
        passes.append (ends ()).2, fun _ _ => ?_, tells.append (lengthEq all rfl) events⟩
      rw [scopes_append, List.length_append, lengthEq all rfl]
      exact Nat.le_add_right _ _

/-- In the course of a rendering each partial has its turn, with the data of the view below
its own, and none is left out if the rendering succeeds. -/
theorem exists_turns_of_renderWithin (host : Host κ π ε) (levels : Nat) (view : View κ)
    (around : Surroundings κ ε) :
    ∃ course last,
      Passes host (some view) course ⟨around, none⟩
        ⟨(outcome (renderWithin host levels view) around).2, last⟩ ∧
      Rendered levels view course (outcome (renderWithin host levels view) around).1 ∧
      (∀ text, (outcome (renderWithin host levels view) around).1 = .ok text →
        view.partials.length ≤ (scopes course).length) ∧
      ∀ (index : Nat) (scope : Scope), index < view.partials.length → (scopes course)[index]? = some scope →
        ∃ fewer merged key page rendered own, levels = fewer + 1 ∧
          (outcome (view.resolvedData host (renderWithin host fewer)) around).1 = .ok merged ∧
          view.partials[index]? = some (key, page) ∧
          HasTurn host (renderWithin host fewer) view page.path page.data ⟨around, none⟩ course index
            scope own ∧
          scope = partialScope merged rendered own := by
  cases levels with
  | zero => exact ⟨[], none, .nil, ⟨rfl, rfl⟩, nofun, fun _ _ _ found => by cases found⟩
  | succ fewer =>
      have each (inner : View κ) :
          UnfoldsView (Shelves.single host) (renderWithin host fewer) (Rendered fewer) inner :=
        unfoldsView_renderWithin (Shelves.single host) fewer inner trivial
      have resolving : Unfolds (Shelves.single host) (some view) (Scene.beside none) _ _ :=
        unfolds_resolvedData (fun inner _ => each inner) none trivial
      obtain ⟨_, found, between, ⟨seen, mergedData, course, rfl, merges, followed⟩, -, resolves⟩ :=
        resolving (fun _ => around) ⟨trivial, fun _ => rfl⟩
      obtain ⟨resolved, passesResolving⟩ := resolves ()
      have unparsed : scopes (.reads seen :: course) = [] :=
        show scopes course = [] from scopes_of_follows_render followed
      cases found with
      | error halt =>
          have stopped : outcome (renderWithin host (fewer + 1) view) around = (.error halt, between ()) :=
            outcome_bind_of_error resolved _
          rw [stopped]
          refine ⟨_, none, passesResolving,
            ⟨seen, mergedData, course, rfl, merges, .stops (followed.append_stopped _)⟩, nofun, ?_⟩
          intro index scope _ found
          rw [unparsed] at found
          cases found
      | ok merged =>
          rcases created : (host.parser view.handle.parser).create.run (between ()).outside with
            ⟨parser, later⟩
          let begun : Renderer κ π ε := ⟨{ between () with outside := later }, parser⟩
          obtain ⟨events, result, after, ran, concluded, passes, enough, tells⟩ :=
            exists_turns_of_renderParts merged each begun
          have whole : outcome (renderWithin host (fewer + 1) view) around = (result, after.toSurroundings) := by
            rw [renderWithin, outcome_renderNesting_of_created resolved created]
            exact congrArg (fun run => (run.1, run.2.toSurroundings)) ran
          have parsedNothing : scopes ((.reads seen :: course) ++ [.creates]) = [] := by
            rw [scopes_append, unparsed]
            rfl
          have makesParser : Passes host (some view) ((.reads seen :: course) ++ [.creates]) ⟨around, none⟩
              (Scene.ofRenderer begun) := passesResolving.append (.single (.creates created))
          rw [whole]
          refine ⟨((.reads seen :: course) ++ [.creates]) ++ events, some after.parser,
            makesParser.append passes, ?_, ?_, ?_⟩
          · rw [List.append_assoc]
            exact ⟨seen, mergedData, _, rfl, merges,
              (Concludes.prepend (.cons .create .nil) concluded).prepend followed⟩
          · intro text resultEq
            rw [scopes_append, parsedNothing, List.nil_append]
            exact enough text resultEq
          · intro index scope less found
            obtain ⟨key, page, rendered, own, here, turn, scopeEq⟩ :=
              (tells.prepend makesParser parsedNothing) index scope less found
            exact ⟨fewer, merged, key, page, rendered, own, rfl, congrArg Prod.fst resolved, here, turn, scopeEq⟩

end View

end ThemedViews
