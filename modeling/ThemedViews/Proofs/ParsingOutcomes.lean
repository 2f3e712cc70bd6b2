import ThemedViews.Proofs.Outcomes
import ThemedViews.Proofs.PlaceholderRestoration
import ThemedViews.Proofs.PrintedForests
import ThemedViews.Tags.Parser

/-!
# What a parse comes to

A parse is a computation that may fail and that changes the protected texts.
Its outcome from a given state is a result and a state; the laws here say how
outcomes of steps make up the outcome of an expansion in cumulative mode, where
the output of each tag becomes an entry and leaves a placeholder.
-/

namespace ThemedViews

open Text Tags

theorem Template.contains_pair_eq_false {first second : Char} {text : Text}
    (absent : first ∉ text) : Text.contains [first, second] text = false := by
  refine Bool.eq_false_iff.mpr fun occurs => absent ?_
  exact (Text.contains_iff_isInfix.mp occurs).subset List.mem_cons_self

/-- A text without an opening brace is its own rendering. -/
theorem Template.renderTags_of_not_mem {text : Text} (closed : '{' ∉ text) (data : Scope) :
    Template.renderTags text data = .ok text := by
  have noTags : Template.hasTags text = false := by
    have expression : "\x7b\x7b".toList = ['{', '{'] := rfl
    have statement : "\x7b%".toList = ['{', '%'] := rfl
    have comment : "\x7b#".toList = ['{', '#'] := rfl
    rw [Template.hasTags, expression, statement, comment]
    simp only [contains_pair_eq_false closed, Bool.or_self]
  rw [Template.renderTags, noTags]
  rfl

namespace Protection

theorem IsNonce.open_not_mem_placeholderOf {nonce : Text} (isNonce : IsNonce nonce) (index : Nat) :
    '{' ∉ placeholderOf nonce index := by
  have notStart : '{' ∉ markStart := by decide
  have notNonce : '{' ∉ nonce := by
    intro member
    have isDigit := isNonce.digits '{' member
    contradiction
  have notDigit : '{' ∉ Nat.toDigits 10 index := by
    intro member
    have isDigit : Char.isDigit '{' = true :=
      Nat.isDigit_of_mem_toDigits (by omega) (by omega) member
    contradiction
  rw [placeholderOf_eq]
  simp [notStart, notNonce, notDigit]

end Protection

namespace Parsing

variable {ε α β : Type}

theorem outcome_withProtection (change : Protection → α × Protection) (protection : Protection)
    (account : ε) :
    outcome (withProtection change) (protection, account) =
      (.ok (change protection).1, ((change protection).2, account)) :=
  rfl

theorem outcome_isCumulative (protection : Protection) (account : ε) :
    outcome isCumulative (protection, account) =
      (.ok protection.cumulative, (protection, account)) :=
  rfl

/-- Replaces the plugin tags of a text that has been cut at them. -/
def expandCut (handler : Option (Handler ε)) (pieces : Cut PluginCall) : Parsing ε Text := do
  return (← expandPieces handler pieces.pieces) ++ pieces.rest

theorem expand_eq_expandCut (handler : Option (Handler ε)) (content : Text) :
    expand handler content = expandCut handler (cut plugin content) :=
  rfl

theorem expandCut_pushText (handler : Option (Handler ε)) (pieces : Cut PluginCall) (text : Text) :
    expandCut handler (pieces.pushText text) =
      (do return text ++ (← expandCut handler pieces)) := by
  obtain ⟨_ | ⟨⟨before, found⟩, others⟩, rest⟩ := pieces
  · rfl
  · simp only [expandCut, expandPieces, Cut.pushText, bind_assoc]
    refine bind_congr fun output => bind_congr fun cumulative => ?_
    cases cumulative <;> simp [List.append_assoc]

theorem expandCut_pushFound (handler : Option (Handler ε)) (pieces : Cut PluginCall)
    (tag : PluginCall) :
    expandCut handler (pieces.pushFound tag) =
      (do
        let output ← call handler tag
        let shown ← if ← isCumulative then withProtection (Protection.protect output) else pure output
        return shown ++ (← expandCut handler pieces)) := by
  simp only [expandCut, expandPieces, Cut.pushFound, bind_assoc]
  refine bind_congr fun output => bind_congr fun cumulative => ?_
  cases cumulative <;> simp [List.append_assoc]

section Expansion

variable {handler : Handler ε} {pieces : Cut PluginCall} {tag : PluginCall}
  {state after : Protection × ε} {protection : Protection} {account : ε}
  {output : Text} {error : TemplateError}

theorem outcome_expandCut_nil (handler : Handler ε) (rest : Text) (state : Protection × ε) :
    outcome (expandCut handler ⟨[], rest⟩) state = (.ok rest, state) :=
  rfl

theorem outcome_expandCut_pushText (text : Text)
    (expanded : outcome (expandCut handler pieces) state = (.ok output, after)) :
    outcome (expandCut handler (pieces.pushText text)) state = (.ok (text ++ output), after) := by
  rw [expandCut_pushText, outcome_bind_of_ok expanded, outcome_pure]

theorem outcome_expandCut_pushText_of_error (text : Text)
    (failed : outcome (expandCut handler pieces) state = (.error error, after)) :
    outcome (expandCut handler (pieces.pushText text)) state = (.error error, after) := by
  rw [expandCut_pushText, outcome_bind_of_error failed]

theorem outcome_expandCut_pushFound_of_call_error
    (failed : outcome (handler tag) state = (.error error, after)) :
    outcome (expandCut handler (pieces.pushFound tag)) state = (.error error, after) := by
  rw [expandCut_pushFound]
  exact outcome_bind_of_error failed _

/-- The output of a tag becomes an entry, and its placeholder stands for the tag. -/
theorem outcome_expandCut_pushFound
    (called : outcome (handler tag) state = (.ok output, (protection, account)))
    (cumulative : protection.cumulative = true) :
    outcome (expandCut handler (pieces.pushFound tag)) state =
      outcome (expandCut handler (pieces.pushText
          (Protection.placeholderOf protection.nonce protection.entries.length)))
        (protection.extend [output], account) := by
  have calledTag : outcome (call handler tag) state = (.ok output, (protection, account)) := called
  rw [expandCut_pushFound, outcome_bind_of_ok calledTag,
    outcome_bind_of_ok (outcome_isCumulative protection account), cumulative, if_pos rfl,
    outcome_bind_of_ok (outcome_withProtection _ protection account), expandCut_pushText]
  rfl

end Expansion

/-- What comes behind the tags of a text: it is rendered, and outside cumulative mode
everything is put back. -/
def concluded (data : Scope) (expanded : Except TemplateError Text) (ended : Protection) :
    Except TemplateError Text × Protection :=
  match expanded.bind fun text => Template.renderTags text data with
  | .error error => (.error error, ended)
  | .ok rendered =>
      if ended.cumulative then (.ok rendered, ended)
      else (.ok (ended.inject rendered).1, (ended.inject rendered).2)

theorem nonces_concluded (data : Scope) (expanded : Except TemplateError Text) (ended : Protection) :
    (concluded data expanded ended).2.nonces = ended.nonces := by
  unfold concluded
  split
  · rfl
  · split <;> rfl

section Parse

variable {content marked : Text} {protection started : Protection} {account : ε}
  (protected_ : Protection.protectBlocks content protection = (marked, started))

include protected_

/-- Nothing but the tags of a text asks for the handler. -/
theorem outcome_parse_of_expand {handler : Option (Handler ε)} {ended : Protection} {later : ε}
    {expanded : Except TemplateError Text}
    (ran : outcome (expand handler marked) (started, account) = (expanded, (ended, later))) (data : Scope) :
    outcome (parse handler content data) (protection, account) =
      ((concluded data expanded ended).1, ((concluded data expanded ended).2, later)) := by
  have blocksKept : outcome (withProtection (Protection.protectBlocks content)) (protection, account) =
      (.ok marked, (started, account)) := by
    rw [outcome_withProtection, protected_]
  rw [parse, outcome_bind_of_ok blocksKept]
  cases expanded with
  | error error => exact outcome_bind_of_error ran _
  | ok text =>
      have handed : outcome (ExceptT.mk (pure (Template.renderTags text data)) : Parsing ε Text) (ended, later) =
          (Template.renderTags text data, (ended, later)) := rfl
      rw [outcome_bind_of_ok ran, concluded, Except.bind]
      cases rendered : Template.renderTags text data with
      | error error =>
          rw [rendered] at handed
          exact outcome_bind_of_error handed _
      | ok output =>
          rw [rendered] at handed
          rw [outcome_bind_of_ok handed, outcome_bind_of_ok (outcome_isCumulative ended later)]
          cases ended.cumulative <;> rfl

variable {handler : Handler ε}

/-- In cumulative mode a parse renders what the expansion of its tags gives. -/
theorem outcome_parse_of_expanded {output : Text} {ended : Protection} {later : ε}
    (expanded : outcome (expandCut handler (cut plugin marked)) (started, account) =
      (.ok output, (ended, later)))
    (cumulative : ended.cumulative = true) (data : Scope) :
    outcome (parse handler content data) (protection, account) =
      (Template.renderTags output data, (ended, later)) := by
  rw [← expand_eq_expandCut] at expanded
  rw [outcome_parse_of_expand protected_ expanded, concluded, Except.bind]
  cases Template.renderTags output data with
  | error error => rfl
  | ok rendered => simp only [cumulative, if_true]

/-- In cumulative mode an expansion without an opening brace is what a parse
gives. -/
theorem outcome_parse {output : Text} {ended : Protection} {later : ε}
    (expanded : outcome (expandCut handler (cut plugin marked)) (started, account) =
      (.ok output, (ended, later)))
    (cumulative : ended.cumulative = true) (closed : '{' ∉ output) (data : Scope) :
    outcome (parse handler content data) (protection, account) = (.ok output, (ended, later)) := by
  rw [outcome_parse_of_expanded protected_ expanded cumulative, Template.renderTags_of_not_mem closed]

theorem outcome_parse_of_error {error : TemplateError} {after : Protection × ε}
    (failed : outcome (expandCut handler (cut plugin marked)) (started, account) =
      (.error error, after)) (data : Scope) :
    outcome (parse handler content data) (protection, account) = (.error error, after) := by
  rw [← expand_eq_expandCut] at failed
  exact outcome_parse_of_expand protected_ failed data

end Parse

end Parsing

end ThemedViews
