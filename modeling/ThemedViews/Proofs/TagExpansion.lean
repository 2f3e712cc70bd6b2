import ThemedViews.Proofs.TagExtension

/-!
# How plugin tags are replaced

A text is divided at its plugin tags from left to right.  What is taken for a
tag is an opening tag that stands alone, or one with its body and the closing tag
that is found for it; between these stretches no opening tag is left.  The handler
is called once for each stretch, in order, and what it gives takes the place of
the stretch, so that no part of the text is lost and none comes twice.
-/

namespace ThemedViews

open Text Tags Protection

namespace Tags

/-- The search for a closing tag ends with a tag that closes the name, and the body
is all that stands before it. -/
theorem exists_closing_of_untilClosingTag? {name text body behind : Text} {passed depth : Nat}
    (found : untilClosingTag? name passed depth text = some (body, behind)) :
    ∃ inner, text = body ++ (opener ++ (inner ++ (closer ++ behind))) ∧ tagRole name inner = .closes := by
  induction text generalizing passed depth body with
  | nil => cases found
  | cons first text ih =>
      have further {passed depth : Nat}
          (found : (untilClosingTag? name passed depth text).map (prependBody [first]) =
            some (body, behind)) :
          ∃ inner, first :: text = body ++ (opener ++ (inner ++ (closer ++ behind))) ∧
            tagRole name inner = .closes := by
        obtain ⟨⟨start, left⟩, searched, same⟩ := Option.map_eq_some_iff.mp found
        obtain ⟨rfl, rfl⟩ := Prod.mk.inj same
        obtain ⟨inner, rfl, closes⟩ := ih searched
        exact ⟨inner, rfl, closes⟩
      cases passed with
      | succ passed => exact further found
      | zero =>
          rw [untilClosingTag?] at found
          split at found
          · exact further found
          · next inside opened =>
              split at found
              · cases found
              · next inner left split_ =>
                  split at found
                  · exact further found
                  · exact further found
                  · next closes =>
                      obtain ⟨rfl, rfl⟩ := Prod.mk.inj (Option.some.inj found)
                      refine ⟨inner, ?_, closes⟩
                      rw [isPrefixOf?_eq_some_iff.mp opened, eq_append_of_splitOnce?_eq_some split_]
                      rfl
                  · exact further found

/-- No opening tag begins in a text. -/
def Tagless (text : Text) : Prop :=
  ∀ suffix, suffix <:+ text → opening? suffix = none

/-- What is taken for a plugin tag when `rest` stands behind it: an opening tag for
which no closing tag is found, or an opening tag, a body and the closing tag that is
found for it. -/
inductive Stretch (rest : Text) : PluginCall → Text → Prop where
  | alone {tag name attributes : Text}
      (opens : opening? (tag ++ rest) = some (name, attributes, rest))
      (unclosed : findClosingTag rest name = none) :
      Stretch rest ⟨String.ofList name, readAttributes attributes, []⟩ tag
  | paired {tag name attributes body inner behind : Text}
      (behindEq : behind = body ++ (opener ++ (inner ++ (closer ++ rest))))
      (opens : opening? (tag ++ behind) = some (name, attributes, behind))
      (closed : findClosingTag behind name = some (body, rest))
      (closes : tagRole name inner = .closes) :
      Stretch rest ⟨String.ofList name, readAttributes attributes, body⟩
        (tag ++ (body ++ (opener ++ (inner ++ closer))))

/-- A text is made of stretches that are taken for plugin tags, each with a text
without opening tags before it, and a text without opening tags at the end. -/
inductive Splits : Text → List (Text × PluginCall) → Text → Prop where
  | ends {text : Text} (tagless : Tagless text) : Splits text [] text
  | tag {before stretch behind rest : Text} {call : PluginCall} {pieces : List (Text × PluginCall)}
      (tagless : Tagless before) (taken : Stretch behind call stretch) (splits : Splits behind pieces rest) :
      Splits (before ++ (stretch ++ behind)) ((before, call) :: pieces) rest

theorem plugin_eq_none_iff {text : Text} : plugin text = none ↔ opening? text = none := by
  rw [plugin]
  cases opening? text <;> simp

theorem tagless_of_forall_plugin_eq_none {text rest : Text}
    (never : ∀ suffix, suffix ≠ [] → suffix <:+ text → plugin (suffix ++ rest) = none) : Tagless text := by
  intro suffix isSuffix
  cases found : opening? suffix with
  | none => rfl
  | some parts =>
      obtain ⟨name, attributes, left⟩ := parts
      have nonempty : suffix ≠ [] := by
        rintro rfl
        cases found
      have unread := plugin_eq_none_iff.mp (never suffix nonempty isSuffix)
      rw [opening?_append_of_eq_some rest found] at unread
      cases unread

/-- A plugin tag is recognised with the stretch that it takes. -/
theorem exists_stretch_of_plugin_eq_some {text : Text} {call : PluginCall} {length : Nat}
    (found : plugin text = some (call, length)) :
    ∃ stretch rest, text = stretch ++ rest ∧ stretch.length = length ∧ stretch ≠ [] ∧
      Stretch rest call stretch := by
  simp only [plugin, Option.bind_eq_bind, Option.bind_eq_some_iff] at found
  obtain ⟨⟨name, attributes, left⟩, opened, same⟩ := found
  obtain ⟨rfl, rfl⟩ := Prod.mk.inj (Option.some.inj same)
  obtain ⟨inside, textEq, front, insideEq⟩ := exists_inside_of_opening? opened
  obtain ⟨tag, nonempty, rfl⟩ : ∃ tag, tag ≠ [] ∧ text = tag ++ left :=
    ⟨opener ++ front, by simp [opener_eq], by rw [textEq, ← insideEq, List.append_assoc]⟩
  cases closed : findClosingTag left name with
  | none => exact ⟨tag, left, rfl, by simp, nonempty, .alone opened closed⟩
  | some parts =>
      obtain ⟨body, rest⟩ := parts
      obtain ⟨inner, leftEq, closes⟩ := exists_closing_of_untilClosingTag? closed
      have whole : tag ++ left = (tag ++ (body ++ (opener ++ (inner ++ closer)))) ++ rest := by
        simp only [leftEq, List.append_assoc]
      refine ⟨_, rest, whole, ?_, List.append_ne_nil_of_left_ne_nil nonempty _,
        .paired leftEq opened closed closes⟩
      simp only [whole, List.length_append, Option.getD_some]
      omega

/-- The cut at the plugin tags of a text is such a division. -/
theorem splits_cut (text : Text) : Splits text (cut plugin text).pieces (cut plugin text).rest := by
  rcases forall_none_or_exists_first plugin text with
    never | ⟨before, stretched, call, length, rfl, nonempty, recognised, never⟩
  · rw [cut_of_forall_none never]
    have neverBefore : ∀ suffix, suffix ≠ [] → suffix <:+ text → plugin (suffix ++ []) = none := by
      intro suffix nonempty isSuffix
      rw [List.append_nil]
      exact never suffix nonempty isSuffix
    exact .ends (tagless_of_forall_plugin_eq_none neverBefore)
  · obtain ⟨stretch, rest, rfl, rfl, stretchNonempty, taken⟩ := exists_stretch_of_plugin_eq_some recognised
    have shorter : rest.length < (before ++ (stretch ++ rest)).length := by
      have := List.length_pos_iff.mpr stretchNonempty
      simp only [List.length_append]
      omega
    rw [cut_append_of_forall_none never, cut_append_of_eq_some stretchNonempty recognised,
      ← eq_pushText_pushFound]
    exact .tag (tagless_of_forall_plugin_eq_none never) taken (splits_cut rest)
termination_by text.length

end Tags

namespace Parsing

variable {ε : Type}

/-- What a handler has given for a tag, and the protected texts that it left. -/
structure Answer where
  tag : PluginCall
  output : Text
  behind : Protection

namespace Answer

/-- What takes the place of the tag: the placeholder of a new entry in cumulative
mode, the output itself otherwise. -/
def shown (answer : Answer) : Text :=
  if answer.behind.cumulative then answer.behind.placeholder answer.behind.entries.length
  else answer.output

/-- The protected texts when the answer has been put in its place. -/
def settled (answer : Answer) : Protection :=
  if answer.behind.cumulative then answer.behind.extend [answer.output] else answer.behind

end Answer

/-- A handler is called for one tag after another, and gives these answers. -/
inductive Answers (handler : Option (Handler ε)) :
    List Answer → Protection × ε → Protection × ε → Prop where
  | none (state : Protection × ε) : Answers handler [] state state
  | next {answer : Answer} {answers : List Answer} {state after : Protection × ε} {account : ε}
      (called : outcome (call handler answer.tag) state = (.ok answer.output, (answer.behind, account)))
      (others : Answers handler answers (answer.settled, account) after) :
      Answers handler (answer :: answers) state after

/-- The texts between the tags of a division, with the answers in place of the tags. -/
def filledIn (pieces : List (Text × PluginCall)) (answers : List Answer) (rest : Text) : Text :=
  (⟨(pieces.map Prod.fst).zip answers, rest⟩ : Cut Answer).fill Answer.shown

theorem filledIn_cons (before : Text) (tag : PluginCall) (pieces : List (Text × PluginCall))
    (answer : Answer) (answers : List Answer) (rest : Text) :
    filledIn ((before, tag) :: pieces) (answer :: answers) rest =
      before ++ answer.shown ++ filledIn pieces answers rest := by
  simp [filledIn, Cut.fill]

section Expansion

variable {handler : Option (Handler ε)} {state after : Protection × ε} {account : ε}
  {before output : Text} {tag : PluginCall} {pieces : List (Text × PluginCall)} {error : TemplateError}

theorem outcome_expandPieces_cons_of_error (failed : outcome (call handler tag) state = (.error error, after)) :
    outcome (expandPieces handler ((before, tag) :: pieces)) state = (.error error, after) :=
  outcome_bind_of_error failed _

theorem outcome_expandPieces_cons {answer : Answer}
    (called : outcome (call handler answer.tag) state = (.ok answer.output, (answer.behind, account))) :
    outcome (expandPieces handler ((before, answer.tag) :: pieces)) state =
      outcome (do return before ++ answer.shown ++ (← expandPieces handler pieces)) (answer.settled, account) := by
  rw [expandPieces, outcome_bind_of_ok called, outcome_bind_of_ok (outcome_isCumulative _ account),
    Answer.shown, Answer.settled]
  cases answer.behind.cumulative with
  | true => exact outcome_bind_of_ok (outcome_withProtection _ _ account) _
  | false => rfl

/-- The pieces of a text are filled in with the answers of the handler, or the handler fails
at one of the tags and is not called again. -/
theorem outcome_expandPieces_cases (handler : Option (Handler ε)) (pieces : List (Text × PluginCall))
    (state : Protection × ε) :
    (∃ answers after, answers.map Answer.tag = pieces.map Prod.snd ∧ Answers handler answers state after ∧
      outcome (expandPieces handler pieces) state = (.ok (filledIn pieces answers []), after)) ∨
    ∃ answers tag later between error after,
      pieces.map Prod.snd = answers.map Answer.tag ++ tag :: later ∧ Answers handler answers state between ∧
      outcome (call handler tag) between = (.error error, after) ∧
      outcome (expandPieces handler pieces) state = (.error error, after) := by
  induction pieces generalizing state with
  | nil => exact .inl ⟨[], state, rfl, .none state, rfl⟩
  | cons piece pieces ih =>
      obtain ⟨before, tag⟩ := piece
      cases called : outcome (call handler tag) state with
      | mk result between =>
      obtain ⟨behind, account⟩ := between
      cases result with
      | error error =>
          exact .inr ⟨[], tag, pieces.map Prod.snd, state, error, (behind, account), rfl, .none state, called,
            outcome_expandPieces_cons_of_error called⟩
      | ok output =>
          let answer : Answer := ⟨tag, output, behind⟩
          have isAnswer :
              outcome (call handler answer.tag) state = (.ok answer.output, (answer.behind, account)) := called
          have stepped : outcome (expandPieces handler ((before, tag) :: pieces)) state = _ :=
            outcome_expandPieces_cons isAnswer
          rcases ih (answer.settled, account) with
            ⟨answers, after, tags, answered, done⟩ |
            ⟨answers, other, later, between, error, after, tags, answered, failed, stopped⟩
          · refine .inl ⟨answer :: answers, after, congrArg (tag :: ·) tags, .next called answered, ?_⟩
            rw [stepped, outcome_bind_of_ok done, outcome_pure, filledIn_cons]
          · refine .inr ⟨answer :: answers, other, later, between, error, after, congrArg (tag :: ·) tags,
              .next called answered, failed, ?_⟩
            rw [stepped, outcome_bind_of_error stopped]

/-- Where a handler never changes the mode, it leaves it as it found it at each tag. -/
theorem Answers.cumulative_eq {answers : List Answer} (answered : Answers handler answers state after)
    (keeps : ∀ tag state, (outcome (call handler tag) state).2.1.cumulative = state.1.cumulative) :
    ∀ answer ∈ answers, answer.behind.cumulative = state.1.cumulative := by
  induction answered with
  | none state => exact fun answer member => absurd member List.not_mem_nil
  | @next answer answers state after account called others ih =>
      have kept : answer.behind.cumulative = state.1.cumulative := by
        rw [← keeps answer.tag state, called]
      have settled : answer.settled.cumulative = answer.behind.cumulative := by
        rw [Answer.settled]
        split <;> rfl
      intro other member
      rcases List.mem_cons.mp member with rfl | behind
      · exact kept
      · exact (ih other behind).trans (settled.trans kept)

/-- Replacing the plugin tags of a text loses nothing and repeats nothing.  The text is
divided at its tags; the handler is called for each tag in turn, and what is between
the tags stays around its answers, or else its first error is the error of the whole
and it is called no more. -/
theorem exists_splits_outcome_expand (handler : Option (Handler ε)) (content : Text)
    (state : Protection × ε) :
    ∃ pieces rest, Splits content pieces rest ∧
      ((∃ answers after, answers.map Answer.tag = pieces.map Prod.snd ∧ Answers handler answers state after ∧
          ((∀ tag state, (outcome (call handler tag) state).2.1.cumulative = state.1.cumulative) →
            ∀ answer ∈ answers, answer.behind.cumulative = state.1.cumulative) ∧
          outcome (expand handler content) state = (.ok (filledIn pieces answers rest), after)) ∨
        ∃ answers tag later between error after,
          pieces.map Prod.snd = answers.map Answer.tag ++ tag :: later ∧ Answers handler answers state between ∧
          outcome (call handler tag) between = (.error error, after) ∧
          outcome (expand handler content) state = (.error error, after)) := by
  refine ⟨_, _, splits_cut content, ?_⟩
  rcases outcome_expandPieces_cases handler (cut plugin content).pieces state with
    ⟨answers, after, tags, answered, done⟩ |
    ⟨answers, tag, later, between, error, after, tags, answered, failed, stopped⟩
  · refine .inl ⟨answers, after, tags, answered, answered.cumulative_eq, ?_⟩
    rw [expand, outcome_bind_of_ok done, outcome_pure]
    simp [filledIn, Cut.fill]
  · refine .inr ⟨answers, tag, later, between, error, after, tags, answered, failed, ?_⟩
    rw [expand, outcome_bind_of_error stopped]

end Expansion

end Parsing

end ThemedViews
