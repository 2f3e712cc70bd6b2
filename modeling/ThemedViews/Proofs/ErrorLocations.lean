import ThemedViews.Proofs.ContextWindows
import ThemedViews.Proofs.HandedTexts
import ThemedViews.Proofs.NonceIndependence

/-!
# Where errors are

The line of an error and the lines that are shown with it are those of the text
that the template language was handed.  This is the template itself where it has
no blocks and no plugin tags; otherwise placeholders stand for these, and the
lines behind a block of several lines have smaller numbers.
-/

namespace ThemedViews

open Text Tags Protection Parsing

section Lines

variable {text content : Text} {line around number : Nat} {shown : List (Nat × Text)}

theorem length_splitOn (separator : Char) (text : Text) :
    (text.splitOn separator).length = text.count separator + 1 := by
  induction text with
  | nil => rfl
  | cons first text ih =>
      rw [List.splitOn] at ih ⊢
      rw [List.splitOnP_cons_eq_if_modifyHead, List.count_cons]
      split
      · rw [List.length_cons, ih]
      · rw [List.length_modifyHead, ih]

/-- A text has a line more than it has newlines, or just as many. -/
theorem length_lines_le (text : Text) : (lines text).length ≤ 1 + text.count '\n' := by
  have parts := length_splitOn '\n' text
  have last : ((text.splitOn '\n').getLast?.toList.filter fun last => !last.isEmpty).length ≤ 1 := by
    refine Nat.le_trans (List.length_filter_le ..) ?_
    cases (text.splitOn '\n').getLast? <;> simp
  rw [lines, List.length_append, List.length_map, List.length_dropLast]
  omega

/-- The lines that are shown are lines of the text, with their numbers. -/
theorem getElem?_lines_of_mem_contextLines (computed : Template.contextLines text line around = some shown)
    (member : (number, content) ∈ shown) : 1 ≤ number ∧ (lines text)[number - 1]? = some content := by
  obtain ⟨-, behind, -, found⟩ := (Template.mem_contextLines_iff computed).mp member
  exact ⟨Nat.le_trans (Nat.le_max_left ..) behind, found⟩

/-- Where lines are shown, the text has the line in the middle of them. -/
theorem line_le_of_contextLines_ne_nil (computed : Template.contextLines text line around = some shown)
    (nonempty : shown ≠ []) : 1 ≤ line ∧ line ≤ 1 + text.count '\n' := by
  have isLine : 1 ≤ line ∧ line ≤ (lines text).length := by
    refine Decidable.not_not.mp fun outside => ?_
    rw [Template.contextLines_of_outside outside] at computed
    exact nonempty (Option.some.inj computed).symm
  exact ⟨isLine.1, Nat.le_trans isLine.2 (length_lines_le text)⟩

end Lines

/-- Where the error says that it is. -/
def TemplateError.location? : TemplateError → Option ErrorLocation
  | variableNotFound _ _ _ location | invalid _ location => some location
  | depthExceeded _ _ => none

namespace Template

/-- The grammar does not match a text. -/
def Unmatched (text : Text) : Prop :=
  ∀ trees cursor, (matchTemplate text).1 ≠ .matched trees cursor

end Template

/-- What is told about a text in a location. -/
structure ErrorLocation.PointsInto (location : ErrorLocation) (text : Text) : Prop where
  /-- The lines that are shown are those of the text. -/
  shows : ∀ context, location.context = some context → ∀ entry ∈ context,
    1 ≤ entry.1 ∧ (lines text)[entry.1 - 1]? = some entry.2.toList
  /-- With lines that are shown the text has the line of the error. -/
  within : ∀ context, location.context = some context →
    ∃ line, location.line = some line ∧ 1 ≤ line ∧ line ≤ 1 + text.count '\n'
  /-- A text that the grammar does not match has the line of the error. -/
  rejected : Template.Unmatched text →
    ∃ line, location.line = some line ∧ 1 ≤ line ∧ line ≤ 1 + text.count '\n'

section Diagnosis

variable {text : Text} {scope : Scope} {failure : Template.Failure} {location : ErrorLocation}

/-- The lines that are shown with an error. -/
def shownContext (text : Text) (failure : Template.Failure) : Option (List (Nat × String)) :=
  ((failure.line?.bind fun line => Template.contextLines text line 3).filter fun lines => !lines.isEmpty).map
    fun lines => lines.map fun (number, content) => (number, String.ofList content)

theorem location?_diagnose (text : Text) (scope : Scope) (failure : Template.Failure) :
    (Template.diagnose text scope failure).location? = some ⟨failure.line?, shownContext text failure⟩ := by
  rw [Template.diagnose]
  cases failure.variable? <;> rfl

theorem exists_line_of_shownContext {context : List (Nat × String)}
    (shown : shownContext text failure = some context) :
    ∃ line lines, failure.line? = some line ∧ Template.contextLines text line 3 = some lines ∧ lines ≠ [] ∧
      context = lines.map fun (number, content) => (number, String.ofList content) := by
  obtain ⟨found, filtered, rfl⟩ := Option.map_eq_some_iff.mp shown
  obtain ⟨located, nonempty⟩ := Option.filter_eq_some_iff.mp filtered
  obtain ⟨line, isLine, computed⟩ := Option.bind_eq_some_iff.mp located
  exact ⟨line, found, isLine, computed, by simpa using nonempty, rfl⟩

theorem exists_readNodes_of_unmatched (unmatched : Template.Unmatched text) :
    ∃ furthest, Template.readNodes text = .error (Template.rejection text furthest) := by
  rw [Template.readNodes]
  cases ran : Template.matchTemplate text with
  | mk result furthest =>
      refine ⟨furthest, ?_⟩
      cases result with
      | matched trees cursor => exact absurd (congrArg Prod.fst ran) (unmatched trees cursor)
      | failed | unfinished => rfl

/-- The line of a text that is not matched is that of the furthest place. -/
theorem line?_of_unmatched (unmatched : Template.Unmatched text)
    (failed : Template.renderText text scope = .error failure) :
    ∃ line, failure.line? = some line ∧ 1 ≤ line ∧ line ≤ 1 + text.count '\n' := by
  obtain ⟨furthest, read⟩ := exists_readNodes_of_unmatched unmatched
  have refused : Template.renderText text scope =
      .error ((Template.Failure.of (Template.rejection text furthest)).within .reading) := by
    simp only [Template.renderText, Template.Source.read, read]
    rfl
  rw [refused] at failed
  obtain rfl := Except.error.inj failed
  refine ⟨1 + (text.take furthest).count '\n', rfl, by omega, ?_⟩
  exact Nat.add_le_add_left ((List.take_sublist furthest text).count_le '\n') 1

theorem pointsInto_of_renderText (failed : Template.renderText text scope = .error failure)
    (located : (Template.diagnose text scope failure).location? = some location) :
    location.PointsInto text := by
  rw [location?_diagnose] at located
  obtain rfl := Option.some.inj located
  constructor
  · intro context contextEq entry member
    obtain ⟨line, lines, -, computed, -, rfl⟩ := exists_line_of_shownContext contextEq
    obtain ⟨⟨number, content⟩, inContext, rfl⟩ := List.mem_map.mp member
    rw [String.toList_ofList]
    exact getElem?_lines_of_mem_contextLines computed inContext
  · intro context contextEq
    obtain ⟨line, lines, isLine, computed, nonempty, -⟩ := exists_line_of_shownContext contextEq
    exact ⟨line, isLine, line_le_of_contextLines_ne_nil computed nonempty⟩
  · exact fun unmatched => line?_of_unmatched unmatched failed

end Diagnosis

section Renderer

variable {κ ε : Type} (draw : StateM ε (Nat → Text)) {template : Text} {data : Scope}

theorem renderString_error_of_noTags {nonce marked : Text} {contents : List Text}
    (protectEq : protectBlocks template (starting nonce) = (marked, (starting nonce).extend contents))
    (noTags : cut plugin marked = ⟨[], marked⟩) {error : TemplateError}
    (refused : Template.renderTags marked data = .error error) (renderer : Renderer κ Protection ε)
    (ready : { renderer.parser with cumulative := true } = starting nonce) :
    ∃ after, (Renderer.renderString (.standard draw) template data).run.run renderer =
      (.error (.parseFailure Renderer.inlineLabel error), after) := by
  have parsed := outcome_parse_of_noTags protectEq noTags data renderer.outside
  rw [refused, ← ready] at parsed
  rw [Renderer.renderString, run_renderNamed, run_renderText draw template data parsed]
  exact ⟨_, rfl⟩

/-- Where rendering a text fails with a location, the location points into a text
that the template language was handed.  It has no more lines than the template,
and is the template if that has no blocks and no tags. -/
theorem pointsInto_of_renderString {renderer after : Renderer κ Protection ε} {error : ViewError}
    (oneLine : '\n' ∉ renderer.parser.nonce)
    (failed : (Renderer.renderString (.standard draw) template data).run.run renderer =
      (.error error, after)) :
    ∃ cause, error = .parseFailure Renderer.inlineLabel cause ∧
      ∀ location, cause.location? = some location →
        ∃ text scope failure, Hands renderer.parser.nonce template data text scope ∧
          Template.renderText text scope = .error failure ∧
          cause = Template.diagnose text scope failure ∧
          location.PointsInto text ∧ text.count '\n' ≤ template.count '\n' ∧
          (cut noparseBlock template = ⟨[], template⟩ → cut plugin template = ⟨[], template⟩ →
            text = template ∧ scope = data) := by
  cases parsed : outcome (parse (some outermostBridge) template data)
      ({ renderer.parser with cumulative := true }, renderer.outside) with
  | mk result ended =>
      rw [Renderer.renderString, run_renderNamed, run_renderText draw template data parsed] at failed
      cases result with
      | ok output => cases failed
      | error cause =>
          obtain ⟨errorEq, -⟩ := Prod.mk.inj failed
          refine ⟨cause, (Except.error.inj errorEq).symm, fun location located => ?_⟩
          rcases failsOn_of_outcome_parse rfl parsed with
            ⟨name, depth, rfl⟩ | ⟨text, scope, failure, hands, rendered, rfl⟩
          · cases located
          · exact ⟨text, scope, failure, hands, rendered, rfl, pointsInto_of_renderText rendered located,
              hands.count_newline_le oneLine, hands.eq_of_uncut⟩

/-- In a text without blocks and tags the lines are those of the text. -/
theorem pointsInto_of_renderString_unclosed_sum :
    let template : Text := "a\n\x7b\x7b 1 + \x7d\x7d".toList
    let renderer : Renderer Empty Protection Unit :=
      ⟨.start .empty (), ⟨false, fun _ => List.replicate 32 'a', 0, []⟩⟩
    let location : ErrorLocation := ⟨some 2, some [(1, "a"), (2, "\x7b\x7b 1 + \x7d\x7d")]⟩
    '\n' ∉ renderer.parser.nonce ∧
      ((Renderer.renderString (.standard (pure fun _ => [])) template []).run.run renderer).1 =
        .error (.parseFailure Renderer.inlineLabel (.invalid "--> <syntax>" location)) ∧
      location.PointsInto template := by
  intro template renderer location
  have oneLine : '\n' ∉ renderer.parser.nonce := by decide
  have noBlocks : cut noparseBlock template = ⟨[], template⟩ := by decide +kernel
  have noTags : cut plugin template = ⟨[], template⟩ := by decide +kernel
  have protectEq : protectBlocks template (starting (List.replicate 32 'a')) =
      (template, (starting (List.replicate 32 'a')).extend []) := by
    rw [protectBlocks_eq, noBlocks]
    rfl
  have refused : Template.renderTags template [] = .error (.invalid "--> <syntax>" location) := by
    decide +kernel
  obtain ⟨after, failed⟩ :=
    renderString_error_of_noTags (pure fun _ => []) protectEq noTags refused renderer rfl
  obtain ⟨cause, errorEq, points⟩ :=
    pointsInto_of_renderString (pure fun _ => []) oneLine failed
  obtain rfl := (ViewError.parseFailure.inj errorEq).2
  obtain ⟨text, scope, failure, -, -, -, pointsInto, -, uncut⟩ := points location rfl
  rw [(uncut noBlocks noTags).1] at pointsInto
  exact ⟨oneLine, congrArg Prod.fst failed, pointsInto⟩

/-- A block of two lines makes the lines behind it one less. -/
theorem renderString_error_behind_block :
    let template : Text :=
      "\x7b\x7b noparse \x7d\x7da\nb\x7b\x7b /noparse \x7d\x7d\n\n\n\n\x7b\x7b 1 + \x7d\x7d".toList
    let renderer : Renderer Empty Protection Unit :=
      ⟨.start .empty (), ⟨false, fun _ => List.replicate 32 'a', 0, []⟩⟩
    ((Renderer.renderString (.standard (pure fun _ => [])) template []).run.run renderer).1 =
        .error (.parseFailure "inline" (.invalid "--> <syntax>"
          ⟨some 5, some [(2, ""), (3, ""), (4, ""), (5, "\x7b\x7b 1 + \x7d\x7d")]⟩)) ∧
      (lines template)[4]? = some [] ∧
      (lines template)[5]? = some "\x7b\x7b 1 + \x7d\x7d".toList := by
  intro template renderer
  refine ⟨?_, by decide +kernel, by decide +kernel⟩
  let nonce : Text := List.replicate 32 'a'
  let behind : Text := "\n\n\n\n\x7b\x7b 1 + \x7d\x7d".toList
  let marked : Text := placeholderOf nonce 0 ++ behind
  have blocks : cut noparseBlock template = ⟨[([], "a\nb".toList)], behind⟩ := by decide +kernel
  have protectEq : protectBlocks template (starting nonce) =
      (marked, (starting nonce).extend ["a\nb".toList]) := by
    rw [protectBlocks_eq, blocks]
    rfl
  have noTags : cut plugin marked = ⟨[], marked⟩ := by decide +kernel
  have refused : Template.renderTags marked [] = .error (.invalid "--> <syntax>"
      ⟨some 5, some [(2, ""), (3, ""), (4, ""), (5, "\x7b\x7b 1 + \x7d\x7d")]⟩) := by
    decide +kernel
  obtain ⟨after, failed⟩ :=
    renderString_error_of_noTags (pure fun _ => []) protectEq noTags refused renderer rfl
  exact congrArg Prod.fst failed

end Renderer

end ThemedViews
