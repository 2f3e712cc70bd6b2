import ThemedViews.Proofs.PrintedTags

/-!
# The search for a closing tag

The search for the closing tag of a name counts the tags with this name that
are open.  It takes a tag by what stands before the first two closing braces,
which may be part of an attribute value; the rest of the tag has no opening
brace and is passed over, so that the count changes once for each tag.
-/

namespace ThemedViews.Tags

open Text

/-- A character that is not a blank. -/
def isSolid (character : Char) : Bool :=
  !isBlank character

theorem isSolid_eq_false_of_isBlank {character : Char} (blank : isBlank character = true) :
    isSolid character = false := by
  simp [isSolid, blank]

theorem Blanks.stops_isSolid (blanks : Blanks) : Stops isSolid blanks.text := by
  rw [← List.append_nil blanks.text]
  exact blanks.stops_append (fun _ => isSolid_eq_false_of_isBlank) trivial

/-- What a search has found, with a text in front of the body. -/
def prependBody (text : Text) (found : Text × Text) : Text × Text :=
  (text ++ found.1, found.2)

@[simp]
theorem prependBody_nil : prependBody [] = id := by
  funext found
  rfl

theorem map_prependBody_append (first second : Text) (found : Option (Text × Text)) :
    (found.map (prependBody second)).map (prependBody first) =
      found.map (prependBody (first ++ second)) := by
  cases found with
  | none => rfl
  | some found => simp [prependBody, List.append_assoc]

namespace PluginName

variable (name : PluginName)

/-- The last character of a name is not a blank. -/
theorem exists_text_eq_append : ∃ leading last, name.text = leading ++ [last] ∧
    isBlank last = false := by
  refine ⟨name.text.dropLast, name.text.getLast name.text_ne_nil, ?_, ?_⟩
  · exact (List.dropLast_concat_getLast name.text_ne_nil).symm
  · exact isBlank_eq_false_of_isJoinedChar (name.joined _ (List.getLast_mem name.text_ne_nil))

/-- Trimming keeps a name and leaves what follows it behind a blank. -/
theorem exists_trimEndOf_text_append {more : Text} (stops : Stops isSolid more) (leading : Text) :
    ∃ kept, Stops isSolid kept ∧
      trimEndOf isBlank (leading ++ (name.text ++ more)) = leading ++ (name.text ++ kept) := by
  obtain ⟨front, last, textEq, solid⟩ := name.exists_text_eq_append
  obtain ⟨kept, isPrefix, trimmed⟩ := exists_trimEndOf_append last solid (leading ++ front) more
  refine ⟨kept, ?_, ?_⟩
  · obtain ⟨_, rfl⟩ := isPrefix
    cases kept with
    | nil => trivial
    | cons first kept => exact stops
  · simpa [textEq] using trimmed

theorem takeWhile_text_append {kept : Text} (stops : Stops isSolid kept) :
    (name.text ++ kept).takeWhile (fun character => !isBlank character) = name.text := by
  apply takeWhile_append_of_stops
  · intro character member
    simp [isBlank_eq_false_of_isJoinedChar (name.joined character member)]
  · exact stops

theorem exists_text_eq_cons : ∃ first rest, name.text = first :: rest ∧ first ≠ '/' := by
  cases textEq : name.text with
  | nil => exact absurd textEq name.text_ne_nil
  | cons first rest =>
      refine ⟨first, rest, rfl, ?_⟩
      rintro rfl
      have absent : '/' ∉ name.text := name.not_mem (by decide)
      exact absent (by simp [textEq])

/-- A tag that begins with another name than is sought is none of the search. -/
theorem tagRole_opening (sought : Text) (before : Blanks) {more : Text}
    (stops : Stops isSolid more) :
    tagRole sought (before.text ++ (name.text ++ more)) =
      if name.text = sought then .opens else .other := by
  have trimmedStart : trimStartOf isBlank (before.text ++ (name.text ++ more)) = name.text ++ more :=
    afterBlanks_append before (name.stops_isBlank_append more)
  obtain ⟨kept, keptStops, trimmedEnd⟩ := name.exists_trimEndOf_text_append stops []
  rw [List.nil_append, List.nil_append] at trimmedEnd
  have taken := name.takeWhile_text_append keptStops
  obtain ⟨first, rest, textEq, noSlash⟩ := name.exists_text_eq_cons
  rw [tagRole, trimmedStart, trimmedEnd]
  rw [textEq, List.cons_append] at taken ⊢
  simp [noSlash, taken]

theorem tagRole_closing (sought : Text) (before behindSlash : Blanks) {more : Text}
    (stops : Stops isSolid more) :
    tagRole sought (before.text ++ ('/' :: (behindSlash.text ++ (name.text ++ more)))) =
      if name.text = sought then .closes else .other := by
  have trimmedStart :
      trimStartOf isBlank (before.text ++ ('/' :: (behindSlash.text ++ (name.text ++ more)))) =
        '/' :: (behindSlash.text ++ (name.text ++ more)) :=
    afterBlanks_append before (stops_cons.mpr (by decide))
  obtain ⟨kept, keptStops, trimmedEnd⟩ :=
    name.exists_trimEndOf_text_append stops ('/' :: behindSlash.text)
  rw [List.cons_append, List.cons_append] at trimmedEnd
  have nameAhead := afterBlanks_append behindSlash (name.stops_isBlank_append kept)
  have taken := name.takeWhile_text_append keptStops
  rw [tagRole, trimmedStart, trimmedEnd]
  simp [nameAhead, taken, name.text_ne_nil]

end PluginName

section Search

variable (sought : Text) (depth : Nat)

theorem untilClosingTag?_succ_cons (passed : Nat) (first : Char) (rest : Text) :
    untilClosingTag? sought (passed + 1) depth (first :: rest) =
      (untilClosingTag? sought passed depth rest).map (prependBody [first]) :=
  rfl

theorem untilClosingTag?_cons_of_eq_none {first : Char} {rest : Text}
    (noOpener : opener.isPrefixOf? (first :: rest) = none) :
    untilClosingTag? sought 0 depth (first :: rest) =
      (untilClosingTag? sought 0 depth rest).map (prependBody [first]) := by
  rw [untilClosingTag?, noOpener]
  rfl

theorem untilClosingTag?_cons_of_ne {first : Char} (other : first ≠ '{') (rest : Text) :
    untilClosingTag? sought 0 depth (first :: rest) =
      (untilClosingTag? sought 0 depth rest).map (prependBody [first]) := by
  apply untilClosingTag?_cons_of_eq_none
  rw [isPrefixOf?_eq_none_iff, opener_eq, List.cons_prefix_cons]
  exact fun isPrefix => other isPrefix.1.symm

/-- A known number of characters is passed over. -/
theorem untilClosingTag?_length_append (text rest : Text) :
    untilClosingTag? sought text.length depth (text ++ rest) =
      (untilClosingTag? sought 0 depth rest).map (prependBody text) := by
  induction text with
  | nil => simp
  | cons first text ih =>
      rw [List.cons_append, List.length_cons, untilClosingTag?_succ_cons, ih,
        map_prependBody_append, List.singleton_append]

/-- A text without an opening brace is passed over. -/
theorem untilClosingTag?_append_of_not_mem {text : Text} (closed : '{' ∉ text) (rest : Text) :
    untilClosingTag? sought 0 depth (text ++ rest) =
      (untilClosingTag? sought 0 depth rest).map (prependBody text) := by
  induction text with
  | nil => simp
  | cons first text ih =>
      rw [List.mem_cons, not_or] at closed
      rw [List.cons_append, untilClosingTag?_cons_of_ne sought depth (Ne.symm closed.1),
        ih closed.2, map_prependBody_append, List.singleton_append]

/-- The search ends at a tag without an end. -/
theorem untilClosingTag?_opener_of_eq_none {text : Text} (unended : splitOnce? closer text = none) :
    untilClosingTag? sought 0 depth (opener ++ text) = none := by
  have isOpener : opener.isPrefixOf? ('{' :: '{' :: text) = some text := isPrefixOf?_opener text
  have unfolded : opener ++ text = '{' :: '{' :: text := rfl
  rw [unfolded, untilClosingTag?, isOpener]
  simp only [unended]

/-- At two opening braces the role of the tag decides. -/
theorem untilClosingTag?_opener {text inner behind : Text}
    (split : splitOnce? closer text = some (inner, behind)) :
    untilClosingTag? sought 0 depth (opener ++ text) =
      match tagRole sought inner, depth with
      | .other, _ => (untilClosingTag? sought 1 depth ('{' :: text)).map (prependBody ['{'])
      | .opens, _ => (untilClosingTag? sought (inner.length + 3) (depth + 1) ('{' :: text)).map
          (prependBody ['{'])
      | .closes, 0 => some ([], behind)
      | .closes, depth + 1 => (untilClosingTag? sought (inner.length + 3) depth ('{' :: text)).map
          (prependBody ['{']) := by
  have isOpener : opener.isPrefixOf? ('{' :: '{' :: text) = some text := isPrefixOf?_opener text
  have unfolded : opener ++ text = '{' :: '{' :: text := rfl
  rw [unfolded]
  conv =>
    lhs
    rw [untilClosingTag?, isOpener]
  simp only [split]
  rfl

theorem untilClosingTag?_passed_braces {inside : Text} (closed : '{' ∉ inside) (rest : Text) :
    (untilClosingTag? sought 1 depth ('{' :: (inside ++ rest))).map (prependBody ['{']) =
      (untilClosingTag? sought 0 depth rest).map (prependBody (opener ++ inside)) := by
  rw [untilClosingTag?_succ_cons, untilClosingTag?_append_of_not_mem sought depth closed,
    map_prependBody_append, map_prependBody_append]
  rfl

/-- A tag of which the inner text is known is passed over. -/
theorem untilClosingTag?_known_tag (inner behind : Text) :
    (untilClosingTag? sought (inner.length + 3) depth ('{' :: (inner ++ (closer ++ behind)))).map
        (prependBody ['{']) =
      (untilClosingTag? sought 0 depth behind).map (prependBody (opener ++ (inner ++ closer))) := by
  have passedLength : inner.length + 3 = ('{' :: (inner ++ closer)).length := by
    simp [closer_eq]
  have text : '{' :: (inner ++ (closer ++ behind)) = '{' :: (inner ++ closer) ++ behind := by
    simp only [List.append_assoc, List.cons_append]
  rw [text, passedLength, untilClosingTag?_length_append, map_prependBody_append]
  rfl

/-- What follows the inner text of a tag is passed over: its closing braces at
once, and the rest because it has no opening brace. -/
theorem untilClosingTag?_passed_tag {inside inner tail : Text} (closed : '{' ∉ inside)
    (whole : inner ++ (closer ++ tail) = inside) (rest : Text) :
    (untilClosingTag? sought (inner.length + 3) depth ('{' :: (inside ++ rest))).map
        (prependBody ['{']) =
      (untilClosingTag? sought 0 depth rest).map (prependBody (opener ++ inside)) := by
  have passedLength : inner.length + 3 = ('{' :: (inner ++ closer)).length := by
    simp [closer_eq]
  have text : '{' :: (inside ++ rest) = '{' :: (inner ++ closer) ++ (tail ++ rest) := by
    rw [← whole]
    simp only [List.append_assoc, List.cons_append]
  have tailClosed : '{' ∉ tail := by
    intro member
    apply closed
    rw [← whole]
    simp [member]
  rw [text, passedLength, untilClosingTag?_length_append,
    untilClosingTag?_append_of_not_mem sought depth tailClosed, map_prependBody_append,
    map_prependBody_append, ← whole]
  simp only [opener_eq, List.append_assoc, List.cons_append, List.nil_append]

/-- Between the name of a tag and the first closing braces there is nothing, or
a blank first. -/
theorem exists_tag_inner {word stuff : Text} (unclosed : '}' ∉ word)
    (stops : Stops isSolid stuff) (rest : Text) :
    ∃ more tail, splitOnce? closer (word ++ (stuff ++ (closer ++ rest))) =
        some (word ++ more, tail ++ rest) ∧
      Stops isSolid more ∧ (word ++ more) ++ (closer ++ tail) = word ++ (stuff ++ closer) := by
  have nonempty : closer ≠ [] := by decide
  obtain ⟨inner, tail, split, ⟨left, innerEq⟩, whole⟩ :=
    exists_splitOnce?_eq_some closer (word ++ stuff) rest nonempty
  rw [List.append_assoc] at split
  rcases List.append_eq_append_iff.mp innerEq with ⟨missing, wordEq, leftEq⟩ | ⟨more, rfl, rfl⟩
  · cases missing with
    | nil =>
        rw [List.append_nil] at wordEq
        subst wordEq
        exact ⟨[], tail, by simpa using split, trivial, by simpa using whole⟩
    | cons first missing =>
        rw [wordEq, List.append_assoc, List.append_assoc, List.append_cancel_left_eq,
          closer_eq] at whole
        have isBrace : '}' = first := (List.cons.inj whole).1
        have isMember : '}' ∈ word := by
          rw [wordEq, isBrace]
          exact List.mem_append_right _ List.mem_cons_self
        exact absurd isMember unclosed
  · refine ⟨more, tail, split, ?_, by simpa using whole⟩
    cases more with
    | nil => trivial
    | cons first more => exact stops

/-- The opening of a tag counts if it has the name that is sought. -/
theorem untilClosingTag?_print_append (tag : PluginTag) (rest : Text) :
    untilClosingTag? sought 0 depth (tag.print ++ rest) =
      (untilClosingTag? sought 0 (depth + if tag.name.text = sought then 1 else 0) rest).map
        (prependBody tag.print) := by
  have unclosed : '}' ∉ tag.before.text ++ tag.name.text := by
    rw [List.mem_append, not_or]
    exact ⟨tag.before.not_mem (by decide), tag.name.not_mem (by decide)⟩
  have stops : Stops isSolid (AnyAttribute.printAll tag.attributes ++ tag.behind.text) := by
    apply AnyAttribute.stops_printAll_append tag.attributes
    · exact fun _ => isSolid_eq_false_of_isBlank
    · exact tag.behind.stops_isSolid
  obtain ⟨more, tail, split, moreStops, whole⟩ := exists_tag_inner unclosed stops rest
  have insideEq : tag.before.text ++ tag.name.text ++ (AnyAttribute.printAll tag.attributes ++
      tag.behind.text ++ closer) = tag.printInside := by
    simp only [AnyTag.printInside, List.append_assoc]
  have splitInside : splitOnce? closer (tag.printInside ++ rest) =
      some (tag.before.text ++ tag.name.text ++ more, tail ++ rest) := by
    rw [← split, ← insideEq]
    simp only [List.append_assoc]
  rw [insideEq] at whole
  have role := tag.name.tagRole_opening sought tag.before moreStops
  rw [← List.append_assoc] at role
  have closed := tag.open_not_mem_printInside
  rw [AnyTag.print, List.append_assoc, untilClosingTag?_opener sought depth splitInside, role]
  by_cases same : tag.name.text = sought
  · rw [if_pos same, if_pos same]
    exact untilClosingTag?_passed_tag sought (depth + 1) closed whole rest
  · rw [if_neg same, if_neg same]
    exact untilClosingTag?_passed_braces sought depth closed rest

section Closing

variable (closing : ClosingTag) (name : PluginName) (rest : Text)

theorem splitOnce?_closing_append :
    splitOnce? closer (closing.printInside name ++ rest) =
      some (closing.before.text ++ ('/' :: (closing.behindSlash.text ++
        (name.text ++ closing.behind.text))), rest) := by
  have notBlank : isBlank '}' = false := by decide
  have notJoined : isJoinedChar '}' = false := by decide
  have unclosed : '}' ∉ closing.before.text ++ ('/' :: (closing.behindSlash.text ++
      (name.text ++ closing.behind.text))) := by
    simp [closing.before.not_mem notBlank, closing.behindSlash.not_mem notBlank,
      name.not_mem notJoined, closing.behind.not_mem notBlank]
  have split := splitOnce?_append ['}'] rest unclosed
  rw [← closer_eq] at split
  rw [← split, ClosingTag.printInside]
  simp only [List.append_assoc, List.cons_append]

theorem tagRole_closing_inner :
    tagRole sought (closing.before.text ++ ('/' :: (closing.behindSlash.text ++
        (name.text ++ closing.behind.text)))) =
      if name.text = sought then .closes else .other := by
  exact name.tagRole_closing sought closing.before closing.behindSlash closing.behind.stops_isSolid

/-- A closing tag is passed over if it has another name or closes a tag that has
been counted. -/
theorem untilClosingTag?_closing_append :
    untilClosingTag? sought 0 (depth + if name.text = sought then 1 else 0)
        (closing.print name ++ rest) =
      (untilClosingTag? sought 0 depth rest).map (prependBody (closing.print name)) := by
  have closed := closing.open_not_mem_printInside name
  have whole : (closing.before.text ++ ('/' :: (closing.behindSlash.text ++
      (name.text ++ closing.behind.text)))) ++ (closer ++ []) = closing.printInside name := by
    simp [ClosingTag.printInside]
  rw [ClosingTag.print, List.append_assoc,
    untilClosingTag?_opener sought _ (splitOnce?_closing_append closing name rest),
    tagRole_closing_inner]
  by_cases same : name.text = sought
  · rw [if_pos same, if_pos same]
    exact untilClosingTag?_passed_tag sought depth closed whole rest
  · rw [if_neg same, if_neg same]
    exact untilClosingTag?_passed_braces sought depth closed rest

/-- The search ends at the closing tag of its name when nothing is open. -/
theorem untilClosingTag?_own_closing :
    untilClosingTag? name.text 0 0 (closing.print name ++ rest) = some ([], rest) := by
  rw [ClosingTag.print, List.append_assoc,
    untilClosingTag?_opener name.text 0 (splitOnce?_closing_append closing name rest),
    tagRole_closing_inner, if_pos rfl]

end Closing

end Search

end ThemedViews.Tags
