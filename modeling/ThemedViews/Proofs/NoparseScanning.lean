import ThemedViews.Proofs.PrintedTags
import ThemedViews.Tags.Protection

/-!
# The scan for noparse blocks

A noparse block is found exactly where it is printed.  Inside of a plugin tag
and in a text without an opening brace none begins, whatever text follows; a
block ends at its own closing tag, since no closing tag can reach from its
content into that tag.
-/

namespace ThemedViews.Tags

open Text

/-- No noparse block begins within a text, whatever follows it. -/
def Quiet (text : Text) : Prop :=
  ∀ rest suffix, suffix ≠ [] → suffix <:+ text → afterOpening? (suffix ++ rest) = none

theorem quiet_nil : Quiet [] := by
  intro rest suffix nonempty isSuffix
  exact absurd (List.suffix_nil.mp isSuffix) nonempty

theorem Quiet.append {first second : Text} (firstQuiet : Quiet first) (secondQuiet : Quiet second) :
    Quiet (first ++ second) := by
  rintro rest suffix nonempty ⟨front, equal⟩
  rcases List.append_eq_append_iff.mp equal with ⟨inner, firstEq, suffixEq⟩ | ⟨inner, _, secondEq⟩
  · cases inner with
    | nil =>
        rw [List.nil_append] at suffixEq
        rw [suffixEq] at nonempty ⊢
        exact secondQuiet rest second nonempty List.suffix_rfl
    | cons character inner =>
        rw [suffixEq, List.append_assoc]
        exact firstQuiet (second ++ rest) (character :: inner) (List.cons_ne_nil _ _)
          ⟨front, firstEq.symm⟩
  · exact secondQuiet rest suffix nonempty ⟨inner, secondEq.symm⟩

theorem afterTag?_eq_none_of_ne (word : Text) {first : Char} (other : first ≠ '{') (rest : Text) :
    afterTag? word (first :: rest) = none := by
  have noOpener : opener.isPrefixOf? (first :: rest) = none := by
    rw [isPrefixOf?_eq_none_iff, opener_eq, List.cons_prefix_cons]
    exact fun isPrefix => other isPrefix.1.symm
  rw [afterTag?, noOpener]
  rfl

theorem quiet_of_not_mem {text : Text} (closed : '{' ∉ text) : Quiet text := by
  intro rest suffix nonempty isSuffix
  cases suffix with
  | nil => contradiction
  | cons first suffix =>
      apply afterTag?_eq_none_of_ne
      rintro rfl
      exact closed (isSuffix.subset List.mem_cons_self)

/-- At the second brace of a tag nothing begins. -/
theorem afterTag?_second_brace (word : Text) {inside : Text} (closed : '{' ∉ inside)
    (nonempty : inside ≠ []) (rest : Text) : afterTag? word ('{' :: (inside ++ rest)) = none := by
  cases inside with
  | nil => contradiction
  | cons first inside =>
      rw [List.mem_cons, not_or] at closed
      have noOpener : opener.isPrefixOf? ('{' :: (first :: inside ++ rest)) = none := by
        rw [isPrefixOf?_eq_none_iff, opener_eq, List.cons_prefix_cons, List.cons_append,
          List.cons_prefix_cons]
        exact fun isPrefix => closed.1 isPrefix.2.1
      rw [afterTag?, noOpener]
      rfl

theorem quiet_opener_append {inside : Text} (closed : '{' ∉ inside) (nonempty : inside ≠ [])
    (noOpening : ∀ rest, afterOpening? (opener ++ (inside ++ rest)) = none) :
    Quiet (opener ++ inside) := by
  intro rest suffix suffixNonempty isSuffix
  rw [opener_eq, List.cons_append, List.cons_append, List.nil_append] at isSuffix
  rcases List.suffix_cons_iff.mp isSuffix with whole | shorter
  · rw [whole]
    exact noOpening rest
  · rcases List.suffix_cons_iff.mp shorter with whole | inner
    · rw [whole]
      exact afterTag?_second_brace _ closed nonempty rest
    · exact quiet_of_not_mem closed rest suffix suffixNonempty inner

theorem PluginName.colon_mem (name : PluginName) : ':' ∈ name.text := by
  by_cases member : ':' ∈ name.text
  · exact member
  · have two_words := name.two_words
    rw [List.splitOn_eq_singleton member, List.length_singleton] at two_words
    omega

/-- A plugin tag is not an opening noparse tag, although its name may begin
with that word. -/
theorem quiet_print (tag : PluginTag) : Quiet tag.print := by
  apply quiet_opener_append tag.open_not_mem_printInside
  · simp [AnyTag.printInside, closer_eq]
  · intro rest
    have nameAhead : afterBlanks (tag.printInside ++ rest) =
        tag.name.text ++ (AnyAttribute.printAll tag.attributes ++ (tag.behind.text ++ (closer ++ rest))) := by
      simp only [AnyTag.printInside, List.append_assoc]
      exact afterBlanks_append tag.before (tag.name.stops_isBlank_append _)
    have noColon : ':' ∉ "noparse".toList := by decide
    simp only [afterOpening?, afterTag?, isPrefixOf?_opener, Option.bind_eq_bind, Option.bind_some,
      nameAhead]
    cases found : "noparse".toList.isPrefixOf? (tag.name.text ++ (AnyAttribute.printAll tag.attributes ++
        (tag.behind.text ++ (closer ++ rest)))) with
    | none => rfl
    | some behind =>
        rw [Option.bind_some]
        rcases List.append_eq_append_iff.mp (isPrefixOf?_eq_some_iff.mp found) with
          ⟨more, wordEq, _⟩ | ⟨more, nameEq, behindEq⟩
        · exact absurd (by rw [wordEq]; exact List.mem_append_left _ tag.name.colon_mem) noColon
        · cases more with
          | nil =>
              rw [List.append_nil] at nameEq
              exact absurd (by rw [← nameEq]; exact tag.name.colon_mem) noColon
          | cons first more =>
              have joined := tag.name.joined first (by simp [nameEq])
              have solid : Stops isBlank behind := by
                rw [behindEq]
                exact isBlank_eq_false_of_isJoinedChar joined
              rw [afterBlanks, dropWhile_eq_self_of_stops solid, behindEq, isPrefixOf?_eq_none_iff,
                closer_eq, List.cons_append, List.cons_prefix_cons]
              rintro ⟨rfl, _⟩
              contradiction

theorem quiet_closing (closing : ClosingTag) (name : PluginName) : Quiet (closing.print name) := by
  apply quiet_opener_append (closing.open_not_mem_printInside name)
  · simp [ClosingTag.printInside, closer_eq]
  · intro rest
    have slashAhead : afterBlanks (closing.printInside name ++ rest) =
        '/' :: (closing.behindSlash.text ++ (name.text ++ (closing.behind.text ++ (closer ++ rest)))) := by
      simp only [ClosingTag.printInside, List.append_assoc, List.cons_append]
      exact afterBlanks_append closing.before (stops_cons.mpr (by decide))
    have noWord : "noparse".toList.isPrefixOf? ('/' :: (closing.behindSlash.text ++ (name.text ++
        (closing.behind.text ++ (closer ++ rest))))) = none :=
      rfl
    simp only [afterOpening?, afterTag?, isPrefixOf?_opener, Option.bind_eq_bind, Option.bind_some,
      slashAhead, noWord, Option.bind_none]

section Word

variable {word : Text}

/-- A tag with one word is read to its end. -/
theorem afterTag?_print_append (before behind : Blanks) (solid : ∀ rest, Stops isBlank (word ++ rest))
    (rest : Text) :
    afterTag? word (opener ++ (before.text ++ (word ++ (behind.text ++ (closer ++ rest))))) =
      some rest := by
  have wordAhead := afterBlanks_append before (solid (behind.text ++ (closer ++ rest)))
  have closerAhead : afterBlanks (behind.text ++ (closer ++ rest)) = closer ++ rest :=
    afterBlanks_append behind (stops_cons.mpr (by decide))
  simp only [afterTag?, Option.bind_eq_bind, Option.bind_some, wordAhead, isPrefixOf?_append,
    closerAhead]

theorem exists_blanks_append_afterBlanks (text : Text) :
    ∃ blanks : Blanks, text = blanks.text ++ afterBlanks text := by
  refine ⟨⟨text.takeWhile isBlank, ?_⟩, List.takeWhile_append_dropWhile.symm⟩
  intro character member
  exact List.all_eq_true.mp List.all_takeWhile character member

/-- What is read is a tag as it is printed. -/
theorem exists_eq_of_afterTag?_eq_some {text rest : Text} (read : afterTag? word text = some rest) :
    ∃ before behind : Blanks,
      text = opener ++ (before.text ++ (word ++ (behind.text ++ (closer ++ rest)))) := by
  simp only [afterTag?, Option.bind_eq_bind, Option.bind_eq_some_iff] at read
  obtain ⟨inside, insideFound, behindWord, wordFound, closerFound⟩ := read
  obtain ⟨before, insideEq⟩ := exists_blanks_append_afterBlanks inside
  obtain ⟨behind, behindEq⟩ := exists_blanks_append_afterBlanks behindWord
  refine ⟨before, behind, ?_⟩
  rw [isPrefixOf?_eq_some_iff.mp insideFound, insideEq, isPrefixOf?_eq_some_iff.mp wordFound, behindEq,
    isPrefixOf?_eq_some_iff.mp closerFound]

/-- Two opening braces behind the beginning of a tag are not within that tag. -/
theorem opener_not_within_tag {inside text reached rest left : Text} (closed : '{' ∉ inside)
    (insideNonempty : inside ≠ []) (nonempty : text ≠ []) (reachedNonempty : reached ≠ [])
    (tagEq : opener ++ inside = text ++ reached) : opener ++ rest ≠ reached ++ left := by
  intro openerEq
  cases reached with
  | nil => contradiction
  | cons brace reached =>
      rcases text with _ | ⟨first, _ | ⟨second, text⟩⟩
      · contradiction
      · simp only [opener_eq, List.cons_append, List.nil_append, List.cons.injEq] at tagEq openerEq
        cases inside with
        | nil => contradiction
        | cons character inside =>
            rw [← tagEq.2.2, List.cons_append, List.cons.injEq] at openerEq
            apply closed
            rw [openerEq.2.1]
            exact List.mem_cons_self
      · simp only [opener_eq, List.cons_append, List.nil_append, List.cons.injEq] at tagEq openerEq
        apply closed
        rw [tagEq.2.2, openerEq.1]
        exact List.mem_append_right _ List.mem_cons_self

/-- A tag with one word that begins in a text and is not read in it reaches into what stands behind. -/
theorem exists_reached_of_afterTag?_append (solid : ∀ rest, Stops isBlank (word ++ rest)) {text rest left : Text}
    (unread : afterTag? word text = none) (read : afterTag? word (text ++ rest) = some left) :
    ∃ (before behind : Blanks) (reached : Text), reached ≠ [] ∧ rest = reached ++ left ∧
      opener ++ (before.text ++ (word ++ (behind.text ++ closer))) = text ++ reached := by
  obtain ⟨before, behind, whole⟩ := exists_eq_of_afterTag?_eq_some read
  have readTag (more : Text) : afterTag? word
      (opener ++ (before.text ++ (word ++ (behind.text ++ closer))) ++ more) = some more := by
    rw [← afterTag?_print_append before behind solid more]
    simp only [List.append_assoc]
  have regrouped : text ++ rest =
      opener ++ (before.text ++ (word ++ (behind.text ++ closer))) ++ left := by
    rw [whole]
    simp only [List.append_assoc]
  rcases List.append_eq_append_iff.mp regrouped with ⟨reached, tagEq, restEq⟩ | ⟨more, textEq, _⟩
  · refine ⟨before, behind, reached, ?_, restEq, tagEq⟩
    rintro rfl
    have readNothing := readTag []
    rw [tagEq, List.append_nil, List.append_nil, unread] at readNothing
    contradiction
  · rw [textEq, readTag more] at unread
    contradiction

/-- A tag with one word cannot begin in a text and end in a tag that follows
the text. -/
theorem afterTag?_append_opener (solid : ∀ rest, Stops isBlank (word ++ rest))
    (closed : '{' ∉ word) {text : Text} (nonempty : text ≠ []) (unread : afterTag? word text = none)
    (rest : Text) : afterTag? word (text ++ (opener ++ rest)) = none := by
  cases read : afterTag? word (text ++ (opener ++ rest)) with
  | none => rfl
  | some left =>
      obtain ⟨before, behind, reached, reachedNonempty, openerEq, tagEq⟩ :=
        exists_reached_of_afterTag?_append solid unread read
      have notBlank : isBlank '{' = false := by decide
      have insideClosed : '{' ∉ before.text ++ (word ++ (behind.text ++ closer)) := by
        simp [closer_eq, before.not_mem notBlank, behind.not_mem notBlank, closed]
      have insideNonempty : before.text ++ (word ++ (behind.text ++ closer)) ≠ [] := by
        simp [closer_eq]
      exact absurd openerEq (opener_not_within_tag insideClosed insideNonempty nonempty reachedNonempty tagEq)

end Word

theorem stops_isBlank_opening (rest : Text) : Stops isBlank ("noparse".toList ++ rest) := by
  have notBlank : isBlank 'n' = false := by decide
  exact notBlank

theorem stops_isBlank_closing (rest : Text) : Stops isBlank ("/noparse".toList ++ rest) := by
  have notBlank : isBlank '/' = false := by decide
  exact notBlank

theorem untilClosing?_append {content text behind : Text} (nonempty : text ≠ [])
    (unclosed : untilClosing? content = none) (read : afterClosing? text = some behind)
    (separate : ∀ suffix, suffix ≠ [] → afterClosing? suffix = none →
      afterClosing? (suffix ++ text) = none) :
    untilClosing? (content ++ text) = some (content, behind) := by
  induction content with
  | nil =>
      cases text with
      | nil => contradiction
      | cons first text => rw [List.nil_append, untilClosing?, read]
  | cons first content ih =>
      rw [untilClosing?] at unclosed
      cases atFirst : afterClosing? (first :: content) with
      | some _ =>
          rw [atFirst] at unclosed
          contradiction
      | none =>
          rw [atFirst] at unclosed
          have further := ih (Option.map_eq_none_iff.mp unclosed)
          have notHere : afterClosing? (first :: (content ++ text)) = none :=
            separate (first :: content) (List.cons_ne_nil _ _) atFirst
          rw [List.cons_append, untilClosing?, notHere, further]
          rfl

namespace NoparseBlock

variable (block : NoparseBlock) (rest : Text)

theorem afterClosing?_printClosing_append : afterClosing? (block.printClosing ++ rest) = some rest := by
  simp only [printClosing, List.append_assoc]
  exact afterTag?_print_append block.beforeClosing block.behindClosing stops_isBlank_closing rest

theorem untilClosing?_content_append :
    untilClosing? (block.content ++ (block.printClosing ++ rest)) = some (block.content, rest) := by
  have closed : '{' ∉ "/noparse".toList := by decide
  apply untilClosing?_append
  · simp [printClosing, opener_eq]
  · exact block.unclosed
  · exact block.afterClosing?_printClosing_append rest
  · intro suffix nonempty unread
    simp only [printClosing, List.append_assoc]
    exact afterTag?_append_opener stops_isBlank_closing closed nonempty unread _

theorem print_ne_nil : block.print ≠ [] := by
  simp [print, opener_eq]

/-- A block is found with its content and taken whole. -/
theorem noparseBlock_print_append :
    noparseBlock (block.print ++ rest) = some (block.content, block.print.length) := by
  have opened : afterOpening? (block.print ++ rest) =
      some (block.content ++ (block.printClosing ++ rest)) := by
    simp only [print, List.append_assoc]
    exact afterTag?_print_append block.beforeOpening block.behindOpening stops_isBlank_opening _
  rw [noparseBlock, opened]
  simp [block.untilClosing?_content_append]

end NoparseBlock

end ThemedViews.Tags

namespace ThemedViews.Protection

open Tags

theorem protectBlocks_append_of_quiet {text : Text} (quiet : Quiet text) (rest : Text)
    (protection : Protection) :
    protectBlocks (text ++ rest) protection =
      (text ++ (protectBlocks rest protection).1, (protectBlocks rest protection).2) := by
  have copied : Text.cut noparseBlock (text ++ rest) =
      (Text.cut noparseBlock rest).pushText text := by
    apply Text.cut_append_of_forall_none
    intro suffix nonempty isSuffix
    rw [noparseBlock, quiet rest suffix nonempty isSuffix]
    rfl
  rw [protectBlocks, protectBlocks, copied]
  obtain ⟨_ | ⟨⟨before, found⟩, pieces⟩, left⟩ := Text.cut noparseBlock rest
  · simp [Text.Cut.pushText, protectPieces]
  · simp [Text.Cut.pushText, protectPieces, List.append_assoc]

theorem protectBlocks_block_append (block : NoparseBlock) (rest : Text) (protection : Protection) :
    protectBlocks (block.print ++ rest) protection =
      ((protection.protect block.content).1 ++
          (protectBlocks rest (protection.protect block.content).2).1,
        (protectBlocks rest (protection.protect block.content).2).2) := by
  have taken := Text.cut_append_of_eq_some block.print_ne_nil (block.noparseBlock_print_append rest)
  rw [protectBlocks, protectBlocks, taken]
  simp [Text.Cut.pushFound, protectPieces, List.append_assoc]

end ThemedViews.Protection
