import ThemedViews.Proofs.AddedEntries
import ThemedViews.Proofs.MarkedReaders
import ThemedViews.Proofs.NestedRendering

/-!
# Texts that the template language is handed

A parse hands on the text that it is given, with placeholders in place of its
noparse blocks and of its plugin tags.  Before that it does the same with the
contents of the tags.  An error of a template is told about the text that was
handed on when it came up; no such text has more lines than the template.
-/

namespace ThemedViews

open Text Tags Protection Parsing

section Recognition

variable {text rest : Text}

theorem isSuffix_of_isPrefixOf? {needle : Text} (found : needle.isPrefixOf? text = some rest) :
    rest <:+ text :=
  ⟨needle, (isPrefixOf?_eq_some_iff.mp found).symm⟩

theorem isSuffix_of_pluginName? {name : Text} (found : pluginName? text = some (name, rest)) :
    rest <:+ text := by
  obtain ⟨-, rfl⟩ := Prod.mk.inj (Option.some.inj (Option.ite_none_right_eq_some.mp found).2)
  exact List.dropWhile_suffix _

theorem isSuffix_of_afterName? (found : afterName? text = some rest) : rest <:+ text := by
  obtain rfl := Option.some.inj (Option.ite_none_left_eq_some.mp found).2
  exact List.dropWhile_suffix _

theorem isSuffix_of_quotedValue? (found : (quotedValue? text).map Prod.snd = some rest) : rest <:+ text := by
  cases text with
  | nil => cases found
  | cons quote text =>
      rw [map_snd_quotedValue?_cons] at found
      obtain ⟨-, closed⟩ := Option.ite_none_right_eq_some.mp found
      obtain rfl := Option.some.inj (Option.ite_none_left_eq_some.mp closed).2
      exact ((List.drop_suffix 1 _).trans (List.dropWhile_suffix _)).trans (List.suffix_cons quote text)

theorem isSuffix_of_keyValue? (found : (keyValue? text).map Prod.snd = some rest) : rest <:+ text := by
  rw [map_snd_keyValue?] at found
  simp only [Option.bind_eq_some_iff, Option.some.injEq, exists_eq_left'] at found
  obtain ⟨behindName, named, behindSign, signed, quoted⟩ := found
  exact (isSuffix_of_quotedValue? quoted).trans ((List.dropWhile_suffix _).trans
    ((isSuffix_of_isPrefixOf? signed).trans ((List.dropWhile_suffix _).trans (isSuffix_of_afterName? named))))

theorem isSuffix_afterAttributes (limit : Nat) (text : Text) : afterAttributes limit text <:+ text := by
  induction limit generalizing text with
  | zero => exact List.suffix_rfl
  | succ limit ih =>
      rw [afterAttributes]
      split
      · split
        · next pair behind found =>
            have isSuffix := isSuffix_of_keyValue? (congrArg (Option.map Prod.snd) found)
            exact (ih behind).trans (isSuffix.trans (List.dropWhile_suffix _))
        · exact List.suffix_rfl
      · exact List.suffix_rfl

/-- What an opening tag leaves stands behind its two braces. -/
theorem exists_inside_of_opening? {name attributes left : Text}
    (found : opening? text = some (name, attributes, left)) :
    ∃ inside, text = opener ++ inside ∧ left <:+ inside := by
  have read := map_opening? text
  rw [found] at read
  obtain ⟨inside, opened, readInside⟩ := Option.bind_eq_some_iff.mp read.symm
  simp only [restOfOpening?, Option.bind_eq_some_iff, Option.some.injEq, exists_eq_left',
    Option.map_eq_some_iff]
    at readInside
  obtain ⟨⟨word, behindName⟩, named, behind, closed, same⟩ := readInside
  obtain ⟨-, rfl⟩ := Prod.mk.inj same
  exact ⟨inside, isPrefixOf?_eq_some_iff.mp opened, (isSuffix_of_isPrefixOf? closed).trans
    ((List.dropWhile_suffix _).trans ((isSuffix_afterAttributes _ _).trans
      ((isSuffix_of_pluginName? named).trans (List.dropWhile_suffix _))))⟩

theorem isSuffix_of_opening? {name attributes left : Text}
    (found : opening? text = some (name, attributes, left)) :
    left <:+ text := by
  obtain ⟨inside, rfl, isSuffix⟩ := exists_inside_of_opening? found
  exact isSuffix.trans (List.suffix_append opener inside)

/-- The body of a tag is read in front of its closing tag. -/
theorem isPrefix_of_untilClosingTag? {name body behind : Text} {passed depth : Nat}
    (found : untilClosingTag? name passed depth text = some (body, behind)) : body <+: text := by
  induction text generalizing passed depth body with
  | nil => cases found
  | cons first text ih =>
      have further {passed depth : Nat}
          (found : (untilClosingTag? name passed depth text).map (prependBody [first]) =
            some (body, behind)) : body <+: first :: text := by
        obtain ⟨⟨inner, left⟩, searched, same⟩ := Option.map_eq_some_iff.mp found
        obtain ⟨rfl, rfl⟩ := Prod.mk.inj same
        exact (List.prefix_cons_inj first).mpr (ih searched)
      cases passed with
      | succ passed => exact further found
      | zero =>
          rw [untilClosingTag?] at found
          split at found
          · exact further found
          · split at found
            · cases found
            · split at found
              · exact further found
              · exact further found
              · obtain ⟨rfl, -⟩ := Prod.mk.inj (Option.some.inj found)
                exact List.nil_prefix
              · exact further found

theorem content_isInfix_of_plugin {call : PluginCall} {length : Nat}
    (found : plugin text = some (call, length)) :
    call.content <:+: text := by
  simp only [plugin, Option.bind_eq_bind, Option.bind_eq_some_iff, Option.pure_def,
    Option.some.injEq] at found
  obtain ⟨⟨name, attributes, left⟩, opened, same⟩ := found
  obtain ⟨rfl, -⟩ := Prod.mk.inj same
  refine List.IsInfix.trans ?_ (isSuffix_of_opening? opened).isInfix
  cases closed : findClosingTag left name with
  | none => exact List.nil_infix
  | some parts => exact (isPrefix_of_untilClosingTag? closed).isInfix

theorem found_push {α : Type} (first : Char) (cut : Cut α) : (cut.push first).found = cut.found := by
  rw [← Cut.pushText_nil cut, ← Cut.pushText_cons, Cut.found_pushText, Cut.pushText_nil]

section Cut

variable {α : Type} {recognise : Text → Option (α × Nat)}

/-- What is found in a text is recognised in front of one of its ends. -/
theorem exists_suffix_of_mem_found_cutAfter {found : α} {passed : Nat}
    (member : found ∈ (cutAfter recognise passed text).found) :
    ∃ suffix length, suffix <:+ text ∧ recognise suffix = some (found, length) := by
  induction text generalizing passed with
  | nil => cases passed <;> cases member
  | cons first text ih =>
      have further {passed : Nat} (member : found ∈ (cutAfter recognise passed text).found) :
          ∃ suffix length, suffix <:+ first :: text ∧ recognise suffix = some (found, length) := by
        obtain ⟨suffix, length, isSuffix, recognised⟩ := ih member
        exact ⟨suffix, length, isSuffix.trans (List.suffix_cons first text), recognised⟩
      cases passed with
      | succ passed => exact further member
      | zero =>
          rw [cutAfter] at member
          split at member
          · next here length recognised =>
              rcases List.mem_cons.mp member with rfl | behind
              · exact ⟨first :: text, length, List.suffix_rfl, recognised⟩
              · exact further behind
          · rw [found_push] at member
            exact further member

/-- What is left of a text without what was found in it. -/
theorem fill_cutAfter_sublist (passed : Nat) (text : Text) :
    ((cutAfter recognise passed text).fill fun _ => []).Sublist text := by
  induction text generalizing passed with
  | nil => cases passed <;> exact List.Sublist.refl []
  | cons first text ih =>
      cases passed with
      | succ passed => exact (ih passed).cons first
      | zero =>
          rw [cutAfter]
          split
          · rw [Cut.fill_pushFound]
            exact (ih _).cons first
          · next =>
              have pushed := Cut.fill_pushText (fun _ : α => []) [first] (cutAfter recognise 0 text)
              rw [Cut.pushText_cons, Cut.pushText_nil] at pushed
              rw [pushed]
              exact (ih 0).cons_cons first

end Cut

theorem content_isInfix_of_mem_found {call : PluginCall} (member : call ∈ (cut plugin text).found) :
    call.content <:+: text := by
  obtain ⟨suffix, length, isSuffix, found⟩ := exists_suffix_of_mem_found_cutAfter member
  exact (content_isInfix_of_plugin found).trans isSuffix.isInfix

end Recognition

/-- A text that has been cut, with placeholders of some entries in place of what
was found. -/
inductive Marked {α : Type} (nonce rest : Text) : List (Text × α) → Text → Prop where
  | ends : Marked nonce rest [] rest
  | behind {before text : Text} {found : α} {pieces : List (Text × α)} (index : Nat)
      (marked : Marked nonce rest pieces text) :
      Marked nonce rest ((before, found) :: pieces) (before ++ (placeholderOf nonce index ++ text))

/-- The texts that the template language is handed during a parse, with their data:
the text itself with placeholders for its blocks and its tags, and those of the
contents of the tags. -/
inductive Hands (nonce : Text) : Text → Scope → Text → Scope → Prop where
  | whole {content marked expanded : Text} {data : Scope}
      (blocks : Marked nonce (cut noparseBlock content).rest (cut noparseBlock content).pieces marked)
      (tags : Marked nonce (cut plugin marked).rest (cut plugin marked).pieces expanded) :
      Hands nonce content data expanded data
  | inside {content marked text : Text} {data scope : Scope} {tag : PluginCall}
      (blocks : Marked nonce (cut noparseBlock content).rest (cut noparseBlock content).pieces marked)
      (member : tag ∈ (cut plugin marked).found) (hands : Hands nonce tag.content [] text scope) :
      Hands nonce content data text scope

section Lines

variable {nonce content text : Text} {data scope : Scope}

theorem newline_not_mem_placeholderOf (oneLine : '\n' ∉ nonce) (index : Nat) :
    '\n' ∉ placeholderOf nonce index := by
  have notStart : '\n' ∉ markStart := by decide
  have notDigit : '\n' ∉ Nat.toDigits 10 index := by
    intro member
    have isDigit : Char.isDigit '\n' = true := Nat.isDigit_of_mem_toDigits (by omega) (by omega) member
    contradiction
  rw [placeholderOf_eq]
  simp [notStart, oneLine, notDigit]

theorem Marked.count_eq {α : Type} {rest : Text} {pieces : List (Text × α)} {character : Char}
    (marked : Marked nonce rest pieces text) (absent : ∀ index, character ∉ placeholderOf nonce index) :
    text.count character = ((⟨pieces, rest⟩ : Cut α).fill fun _ => []).count character := by
  induction marked with
  | ends => simp [Cut.fill]
  | behind index marked ih =>
      have nowhere := List.count_eq_zero.mpr (absent index)
      simp only [List.count_append, nowhere, ih]
      simp [Cut.fill]

/-- Placeholders bring no character into a text that they do not have themselves. -/
theorem Marked.count_le {α : Type} {recognise : Text → Option (α × Nat)} {character : Char}
    (marked : Marked nonce (cut recognise content).rest (cut recognise content).pieces text)
    (absent : ∀ index, character ∉ placeholderOf nonce index) :
    text.count character ≤ content.count character := by
  rw [marked.count_eq absent]
  exact (fill_cutAfter_sublist 0 content).count_le character

/-- No text that is handed on has more lines than the template. -/
theorem Hands.count_newline_le (hands : Hands nonce content data text scope) (oneLine : '\n' ∉ nonce) :
    text.count '\n' ≤ content.count '\n' := by
  induction hands with
  | whole blocks tags =>
      have absent := newline_not_mem_placeholderOf oneLine
      exact Nat.le_trans (tags.count_le absent) (blocks.count_le absent)
  | inside blocks member hands ih =>
      have within := (content_isInfix_of_mem_found member).sublist.count_le '\n'
      exact Nat.le_trans ih (Nat.le_trans within (blocks.count_le (newline_not_mem_placeholderOf oneLine)))

theorem Marked.eq_of_nil {α : Type} {rest : Text} (marked : Marked nonce rest ([] : List (Text × α)) text) :
    text = rest := by
  cases marked
  rfl

/-- Without blocks and tags nothing but the template is handed on. -/
theorem Hands.eq_of_uncut (hands : Hands nonce content data text scope)
    (noBlocks : cut noparseBlock content = ⟨[], content⟩) (noTags : cut plugin content = ⟨[], content⟩) :
    text = content ∧ scope = data := by
  cases hands with
  | whole blocks tags =>
      rw [noBlocks] at blocks
      obtain rfl := blocks.eq_of_nil
      rw [noTags] at tags
      exact ⟨tags.eq_of_nil, rfl⟩
  | inside blocks member hands =>
      rw [noBlocks] at blocks
      obtain rfl := blocks.eq_of_nil
      rw [noTags] at member
      cases member

end Lines

section Parses

variable {ε : Type} {account : ε} {protection : Protection} {error : TemplateError}

theorem marked_standIns {α : Type} (nonce rest : Text) (next : Nat) (pieces : List (Text × α)) :
    Marked nonce rest pieces (standIns nonce rest next pieces) := by
  induction pieces generalizing next with
  | nil => exact .ends
  | cons piece pieces ih => exact .behind next (ih (next + 1))

theorem eq_pushText_pushFound {α : Type} (before rest : Text) (found : α) (pieces : List (Text × α)) :
    (⟨(before, found) :: pieces, rest⟩ : Cut α) =
      ((⟨pieces, rest⟩ : Cut α).pushFound found).pushText before := by
  simp [Cut.pushFound, Cut.pushText]

/-- Tags are replaced by placeholders, or the handler fails at one of them. -/
theorem outcome_expandCut_cases {handler : Handler ε} (adds : ∀ tag, AddsEntries (handler tag))
    (pieces : List (Text × PluginCall)) (rest : Text) (protection : Protection)
    (cumulative : protection.cumulative = true) (account : ε) :
    (∃ output added, outcome (expandCut (some handler) ⟨pieces, rest⟩) (protection, account) =
        (.ok output, (protection.extend added, account)) ∧
      Marked protection.nonce rest pieces output) ∨
    ∃ error after, outcome (expandCut (some handler) ⟨pieces, rest⟩) (protection, account) =
        (.error error, after) ∧
      ∃ tag ∈ pieces.map Prod.snd, ∃ added ended,
        outcome (handler tag) (protection.extend added, account) = (.error error, ended) := by
  induction pieces generalizing protection with
  | nil => exact .inl ⟨rest, [], by rw [extend_nil]; rfl, .ends⟩
  | cons piece pieces ih =>
      obtain ⟨before, tag⟩ := piece
      let behind : Cut PluginCall := ⟨pieces, rest⟩
      rw [eq_pushText_pushFound]
      obtain ⟨found, added, ran⟩ := adds tag protection.nonce protection.entries
      have called := ran protection account cumulative rfl rfl
      cases found with
      | error error =>
          have failed : outcome (expandCut (some handler) (behind.pushFound tag)) (protection, account) = _ :=
            outcome_expandCut_pushFound_of_call_error called
          refine .inr ⟨error, _, outcome_expandCut_pushText_of_error before failed, tag,
            List.mem_cons_self, [],
            (protection.extend added, account), ?_⟩
          rw [extend_nil]
          exact called
      | ok output =>
          have stood : outcome (expandCut (some handler) (behind.pushFound tag)) (protection, account) = _ :=
            outcome_expandCut_pushFound called cumulative
          rcases ih ((protection.extend added).extend [output]) cumulative with
            ⟨expanded, more, done, marked⟩ | ⟨error, after, failed, other, member, more, ended, here⟩
          · have doneHere :=
              outcome_expandCut_pushText before (stood.trans (outcome_expandCut_pushText _ done))
            rw [extend_extend, extend_extend] at doneHere
            exact .inl ⟨_, _, doneHere, .behind (protection.extend added).entries.length marked⟩
          · have failedHere := stood.trans (outcome_expandCut_pushText_of_error _ failed)
            refine .inr ⟨error, _, outcome_expandCut_pushText_of_error before failedHere, other,
              List.mem_cons_of_mem _ member, added ++ ([output] ++ more), ended, ?_⟩
            simpa using here

/-- The template language fails for a text that it is handed, and the error is
told about that text. -/
def FailsOn (nonce content : Text) (data : Scope) (error : TemplateError) : Prop :=
  ∃ text scope failure, Hands nonce content data text scope ∧
    Template.renderText text scope = .error failure ∧ error = Template.diagnose text scope failure

theorem exists_failure_of_renderTags {text : Text} {data : Scope}
    (failed : Template.renderTags text data = .error error) :
    ∃ failure, Template.renderText text data = .error failure ∧
      error = Template.diagnose text data failure := by
  rw [Template.renderTags] at failed
  split at failed
  · cases rendered : Template.renderText text data with
    | ok output =>
        rw [rendered] at failed
        cases failed
    | error failure =>
        rw [rendered] at failed
        exact ⟨failure, rfl, (Except.error.inj failed).symm⟩
  · cases failed

/-- A parse that fails does so for the text with placeholders, or in one of its tags. -/
theorem failsOn_or_of_outcome_parse {handler : Handler ε} (adds : ∀ tag, AddsEntries (handler tag))
    {content : Text} {data : Scope} {after : Protection × ε} (cumulative : protection.cumulative = true)
    (failed : outcome (parse (some handler) content data) (protection, account) = (.error error, after)) :
    FailsOn protection.nonce content data error ∨
    ∃ marked,
      Marked protection.nonce (cut noparseBlock content).rest (cut noparseBlock content).pieces marked ∧
      ∃ tag ∈ (cut plugin marked).found, ∃ added ended,
        outcome (handler tag) (protection.extend added, account) = (.error error, ended) := by
  have protectEq := protectBlocks_eq content protection
  have blocks := marked_standIns protection.nonce (cut noparseBlock content).rest protection.entries.length
    (cut noparseBlock content).pieces
  generalize standIns protection.nonce (cut noparseBlock content).rest protection.entries.length
    (cut noparseBlock content).pieces = marked at protectEq blocks
  rcases outcome_expandCut_cases adds (cut plugin marked).pieces (cut plugin marked).rest
      (protection.extend (cut noparseBlock content).found) cumulative account with
    ⟨expanded, added, done, tags⟩ | ⟨other, ended, stopped, tag, member, added, inside, called⟩
  · rw [outcome_parse_of_expanded protectEq done cumulative data] at failed
    obtain ⟨failure, rendered, errorEq⟩ := exists_failure_of_renderTags (Prod.mk.inj failed).1
    exact .inl ⟨expanded, data, failure, .whole blocks tags, rendered, errorEq⟩
  · rw [outcome_parse_of_error protectEq stopped data] at failed
    obtain rfl := Except.error.inj (Prod.mk.inj failed).1
    rw [extend_extend] at called
    exact .inr ⟨marked, blocks, tag, member, _, inside, called⟩

/-- A parse that fails has opened too many tags inside of each other, or the
template language fails for a text that it is handed. -/
theorem failsOn_of_outcome_parse {levels : Nat} {content : Text} {data : Scope} {after : Protection × ε}
    (cumulative : protection.cumulative = true)
    (failed : outcome (parse (some (bridge levels)) content data) (protection, account) =
      (.error error, after)) :
    (∃ name depth, error = .depthExceeded name depth) ∨ FailsOn protection.nonce content data error := by
  induction levels generalizing content data protection after with
  | zero =>
      rcases failsOn_or_of_outcome_parse (addsEntries_bridge 0) cumulative failed with
        here | ⟨marked, blocks, tag, member, added, ended, called⟩
      · exact .inr here
      · cases called
        exact .inl ⟨_, _, rfl⟩
  | succ levels ih =>
      rcases failsOn_or_of_outcome_parse (addsEntries_bridge (levels + 1)) cumulative failed with
        here | ⟨marked, blocks, tag, member, added, ended, called⟩
      · exact .inr here
      · rcases ih (protection.cumulative_extend added ▸ cumulative) called with
          deep | ⟨text, scope, failure, hands, rendered, errorEq⟩
        · exact .inl deep
        · exact .inr ⟨text, scope, failure, .inside blocks member hands, rendered, errorEq⟩

end Parses

end ThemedViews
