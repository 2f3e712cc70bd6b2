import Mathlib.Data.List.Infix
import ThemedViews.Proofs.ClosingTagSearch

/-!
# Closing tags of nested elements

A text is built of elements of one name, nested and beside each other, with a
text before each tag in which no two opening braces stand beside each other.
The search for the closing tag behind such a text counts its tags.  A tag that
stands directly behind an opening brace is not among them: the search takes that
brace and the first one of the tag for the beginning of another tag, and goes on
behind both.  So the closing tag is found if and only if the tags that are seen
are balanced, and it is seen itself.
-/

namespace ThemedViews.Tags

open Text

/-- A text in which no two opening braces stand beside each other. -/
structure LooseText where
  text : Text
  loose : ¬ opener <:+: text

/-- Elements of one name, with a text before each tag and one at the end. -/
inductive Nest (name : PluginName) where
  | last (plain : LooseText)
  | element (plain : LooseText) (tag : PluginTag) (named : tag.name = name) (children : Nest name)
      (closing : ClosingTag) (rest : Nest name)

namespace LooseText

variable (plain : LooseText)

/-- Whether a tag that follows stands directly behind an opening brace. -/
def hides : Bool :=
  plain.text.getLast? = some '{'

/-- The number of open tags behind an opening tag that follows. -/
def opened (depth : Nat) : Nat :=
  if plain.hides then depth else depth + 1

/-- The number of open tags behind a closing tag that follows, unless it closes
what is searched. -/
def closed? (depth : Nat) : Option Nat :=
  if plain.hides then some depth else if depth = 0 then none else some (depth - 1)

theorem not_ends (seen : plain.hides = false) : plain.text.getLast? ≠ some '{' := by
  simpa [hides] using seen

section Counting

variable {plain : LooseText}

theorem opened_of_hides (hidden : plain.hides = true) (depth : Nat) : plain.opened depth = depth := by
  simp [opened, hidden]

theorem opened_of_seen (seen : plain.hides = false) (depth : Nat) :
    plain.opened depth = depth + 1 := by
  simp [opened, seen]

theorem closed?_of_hides (hidden : plain.hides = true) (depth : Nat) :
    plain.closed? depth = some depth := by
  simp [closed?, hidden]

theorem closed?_eq_none_iff {depth : Nat} :
    plain.closed? depth = none ↔ depth = 0 ∧ plain.hides = false := by
  cases hidden : plain.hides <;> simp [closed?, hidden]

theorem closed?_succ (seen : plain.hides = false) (depth : Nat) :
    plain.closed? (depth + 1) = some depth := by
  simp [closed?, seen]

end Counting

end LooseText

namespace Nest

variable {name : PluginName}

def print : Nest name → Text
  | last plain => plain.text
  | element plain tag _ children closing rest =>
      plain.text ++ (tag.print ++ (children.print ++ (closing.print name ++ rest.print)))

/-- The text behind the last tag. -/
def behind : Nest name → LooseText
  | last plain => plain
  | element _ _ _ _ _ rest => rest.behind

/-- What is printed up to the last tag. -/
def front : Nest name → Text
  | last _ => []
  | element plain tag _ children closing rest =>
      plain.text ++ (tag.print ++ (children.front ++ (children.behind.text ++
        (closing.print name ++ rest.front))))

/-- The number of open tags behind a nest; none if a closing tag in it closes what
is searched. -/
def counted : Nest name → (depth : Nat) → Option Nat
  | last _, depth => some depth
  | element plain _ _ children _ rest, depth => do
      let inside ← children.counted (plain.opened depth)
      rest.counted (← children.behind.closed? inside)

/-- No tag stands directly behind an opening brace, and none can follow so. -/
def SetOff : Nest name → Prop
  | last plain => plain.hides = false
  | element plain _ _ children _ rest => plain.hides = false ∧ children.SetOff ∧ rest.SetOff

theorem print_eq (nest : Nest name) : nest.print = nest.front ++ nest.behind.text := by
  induction nest with
  | last plain => rfl
  | element plain tag named children closing rest childrenIh ih =>
      simp only [print, front, behind, childrenIh, ih, List.append_assoc]

theorem SetOff.behind_hides {nest : Nest name} (setOff : nest.SetOff) : nest.behind.hides = false := by
  induction nest with
  | last plain => exact setOff
  | element plain tag named children closing rest childrenIh ih => exact ih setOff.2.2

/-- Tags that are all seen are balanced. -/
theorem SetOff.counted_eq {nest : Nest name} (setOff : nest.SetOff) (depth : Nat) :
    nest.counted depth = some depth := by
  induction nest generalizing depth with
  | last plain => rfl
  | element plain tag named children closing rest childrenIh ih =>
      obtain ⟨seen, childrenSetOff, restSetOff⟩ := setOff
      have closes := LooseText.closed?_succ childrenSetOff.behind_hides depth
      rw [counted, LooseText.opened_of_seen seen, childrenIh childrenSetOff]
      simpa [closes] using ih restSetOff depth

end Nest

section Search

variable {name : PluginName} (depth : Nat)

/-- A tag whose text begins with a brace has no name. -/
theorem tagRole_brace (inner : Text) : tagRole name.text ('{' :: inner) = .other := by
  have notBlank : isBlank '{' = false := by decide
  have started : trimStartOf isBlank ('{' :: inner) = '{' :: inner :=
    dropWhile_eq_self_of_stops (stops_cons.mpr notBlank)
  obtain ⟨kept, -, trimmed⟩ := exists_trimEndOf_append '{' notBlank [] inner
  rw [List.nil_append, List.nil_append] at trimmed
  have unnamed : ('{' :: kept).takeWhile (fun character => !isBlank character) ≠ name.text := by
    intro same
    have absent : '{' ∉ name.text := name.not_mem (by decide)
    exact absent (by simp [← same, notBlank])
  rw [tagRole, started, trimmed]
  simp [unnamed]

/-- A loose text is passed over, up to a brace at its end. -/
theorem untilClosingTag?_loose_append {text rest : Text} (loose : ¬ opener <:+: text)
    (apart : text.getLast? = some '{' → rest.head? ≠ some '{') :
    untilClosingTag? name.text 0 depth (text ++ rest) =
      (untilClosingTag? name.text 0 depth rest).map (prependBody text) := by
  induction text with
  | nil => simp
  | cons first text ih =>
      have noOpener : opener.isPrefixOf? (first :: (text ++ rest)) = none := by
        rw [isPrefixOf?_eq_none_iff]
        intro isPrefix
        cases text with
        | nil =>
            cases rest with
            | nil => simp [opener_eq] at isPrefix
            | cons second rest =>
                simp only [opener_eq, List.nil_append, List.cons_prefix_cons, List.nil_prefix,
                  and_true] at isPrefix
                obtain ⟨rfl, rfl⟩ := isPrefix
                exact apart rfl rfl
        | cons second text =>
            refine loose ?_
            simp only [opener_eq, List.cons_append, List.cons_prefix_cons, List.nil_prefix,
              and_true] at isPrefix
            obtain ⟨rfl, rfl⟩ := isPrefix
            exact ⟨[], text, rfl⟩
      have looseBehind : ¬ opener <:+: text := fun occurs =>
        loose (occurs.trans (List.infix_cons List.infix_rfl))
      have apartBehind : text.getLast? = some '{' → rest.head? ≠ some '{' := by
        intro ends
        refine apart ?_
        cases text with
        | nil => cases ends
        | cons second text => simpa using ends
      rw [List.cons_append, untilClosingTag?_cons_of_eq_none name.text depth noOpener,
        ih looseBehind apartBehind, map_prependBody_append, List.singleton_append]

/-- A tag directly behind an opening brace is passed over. -/
theorem untilClosingTag?_hidden {plain : LooseText} (hides : plain.hides = true) {inside core : Text}
    (ended : inside = core ++ closer) (closed : '{' ∉ inside) (rest : Text) :
    untilClosingTag? name.text 0 depth (plain.text ++ (opener ++ (inside ++ rest))) =
      (untilClosingTag? name.text 0 depth rest).map
        (prependBody (plain.text ++ (opener ++ inside))) := by
  obtain ⟨leading, textEq⟩ : ∃ leading, plain.text = leading ++ ['{'] :=
    List.getLast?_eq_some_iff.mp (by simpa [LooseText.hides] using hides)
  have loose : ¬ opener <:+: leading := fun occurs =>
    plain.loose (textEq ▸ occurs.trans (List.infix_append' [] leading _))
  have single : leading.getLast? ≠ some '{' := by
    intro ends
    obtain ⟨before, rfl⟩ := List.getLast?_eq_some_iff.mp ends
    exact plain.loose (textEq ▸ ⟨before, [], by simp [opener_eq]⟩)
  -- The search takes the brace and the first one of the tag for the beginning of a tag.
  obtain ⟨inner, tail, split, -, whole⟩ :=
    exists_splitOnce?_eq_some closer ('{' :: core) rest (by decide)
  obtain ⟨named, rfl⟩ : ∃ named, inner = '{' :: named := by
    cases inner with
    | nil => simp [closer_eq] at whole
    | cons first named => exact ⟨named, by rw [(List.cons.inj whole).1]⟩
  have splitInside : splitOnce? closer ('{' :: (inside ++ rest)) = some ('{' :: named, tail ++ rest) := by
    rw [← split, ended]
    simp only [List.append_assoc, List.cons_append]
  have noOpener : opener.isPrefixOf? ('{' :: (inside ++ rest)) = none := by
    rw [isPrefixOf?_eq_none_iff]
    intro isPrefix
    cases inside with
    | nil => simp [closer_eq] at ended
    | cons first inside =>
        simp only [opener_eq, List.cons_append, List.cons_prefix_cons, List.nil_prefix, and_true,
          true_and] at isPrefix
        subst isPrefix
        exact closed List.mem_cons_self
  have text : plain.text ++ (opener ++ (inside ++ rest)) =
      leading ++ (opener ++ ('{' :: (inside ++ rest))) := by
    simp [textEq, opener_eq]
  rw [text, untilClosingTag?_loose_append depth loose fun ends => absurd ends single,
    untilClosingTag?_opener name.text depth splitInside, tagRole_brace]
  simp only []
  rw [untilClosingTag?_succ_cons, untilClosingTag?_cons_of_eq_none name.text depth noOpener,
    untilClosingTag?_append_of_not_mem name.text depth closed]
  simp only [map_prependBody_append, textEq, opener_eq, List.append_assoc, List.cons_append,
    List.nil_append]

/-- An opening tag counts unless it is hidden. -/
theorem untilClosingTag?_opened (plain : LooseText) {tag : PluginTag} (named : tag.name = name)
    (rest : Text) :
    untilClosingTag? name.text 0 depth (plain.text ++ (tag.print ++ rest)) =
      (untilClosingTag? name.text 0 (plain.opened depth) rest).map
        (prependBody (plain.text ++ tag.print)) := by
  subst named
  cases hides : plain.hides with
  | true =>
      have ended : tag.printInside = tag.before.text ++ (tag.name.text ++
          (AnyAttribute.printAll tag.attributes ++ tag.behind.text)) ++ closer := by
        simp only [AnyTag.printInside, List.append_assoc]
      rw [LooseText.opened_of_hides hides, AnyTag.print, List.append_assoc]
      exact untilClosingTag?_hidden depth hides ended tag.open_not_mem_printInside rest
  | false =>
      rw [untilClosingTag?_loose_append depth plain.loose fun ends => absurd ends (plain.not_ends hides),
        untilClosingTag?_print_append, if_pos rfl, map_prependBody_append,
        LooseText.opened_of_seen hides]

theorem untilClosingTag?_closed (plain : LooseText) (closing : ClosingTag) (rest : Text) :
    untilClosingTag? name.text 0 depth (plain.text ++ (closing.print name ++ rest)) =
      match plain.closed? depth with
      | some fewer => (untilClosingTag? name.text 0 fewer rest).map
          (prependBody (plain.text ++ closing.print name))
      | none => some (plain.text, rest) := by
  cases hides : plain.hides with
  | true =>
      have ended : closing.printInside name = closing.before.text ++ ('/' :: (closing.behindSlash.text ++
          (name.text ++ closing.behind.text))) ++ closer := by
        simp only [ClosingTag.printInside, List.append_assoc, List.cons_append]
      rw [LooseText.closed?_of_hides hides, ClosingTag.print, List.append_assoc]
      exact untilClosingTag?_hidden depth hides ended (closing.open_not_mem_printInside name) rest
  | false =>
      rw [untilClosingTag?_loose_append depth plain.loose fun ends => absurd ends (plain.not_ends hides)]
      cases depth with
      | zero =>
          rw [untilClosingTag?_own_closing, LooseText.closed?_eq_none_iff.mpr ⟨rfl, hides⟩]
          simp [prependBody]
      | succ depth =>
          have passed := untilClosingTag?_closing_append name.text depth closing name rest
          rw [if_pos rfl] at passed
          rw [passed, map_prependBody_append, LooseText.closed?_succ hides]

end Search

namespace Nest

variable {name : PluginName} {nest : Nest name} {depth : Nat}

/-- Behind a nest the search goes on with as many open tags as are counted. -/
theorem untilClosingTag?_front_append {later : Nat} (counts : nest.counted depth = some later)
    (rest : Text) :
    untilClosingTag? name.text 0 depth (nest.front ++ rest) =
      (untilClosingTag? name.text 0 later rest).map (prependBody nest.front) := by
  induction nest generalizing depth later rest with
  | last plain =>
      cases counts
      simp [front]
  | element plain tag named children closing others childrenIh ih =>
      rw [counted] at counts
      obtain ⟨inside, insideCounts, counts⟩ := Option.bind_eq_some_iff.mp counts
      obtain ⟨between, closes, counts⟩ := Option.bind_eq_some_iff.mp counts
      simp only [front, List.append_assoc]
      rw [untilClosingTag?_opened depth plain named, childrenIh insideCounts,
        untilClosingTag?_closed, closes]
      simp only [ih counts, map_prependBody_append, List.append_assoc]

/-- If a closing tag of a nest closes what is searched, the search ends before it. -/
theorem exists_untilClosingTag?_front_append (counts : nest.counted depth = none) (rest : Text) :
    ∃ body behind, untilClosingTag? name.text 0 depth (nest.front ++ rest) = some (body, behind) ∧
      body.length < nest.front.length := by
  induction nest generalizing depth rest with
  | last plain => cases counts
  | element plain tag named children closing others childrenIh ih =>
      simp only [front, List.append_assoc]
      rw [untilClosingTag?_opened depth plain named]
      rw [counted] at counts
      cases insideCounts : children.counted (plain.opened depth) with
      | none =>
          obtain ⟨body, behind, found, shorter⟩ := childrenIh insideCounts
            (children.behind.text ++ (closing.print name ++ (others.front ++ rest)))
          refine ⟨plain.text ++ tag.print ++ body, behind, by rw [found]; rfl, ?_⟩
          simp only [List.length_append]
          omega
      | some inside =>
          rw [untilClosingTag?_front_append insideCounts, untilClosingTag?_closed]
          cases closes : children.behind.closed? inside with
          | none =>
              have closingLength : 0 < (closing.print name).length := by
                simp [ClosingTag.print, opener_eq]
              refine ⟨plain.text ++ tag.print ++ (children.front ++ children.behind.text), _, rfl, ?_⟩
              simp only [List.length_append]
              omega
          | some between =>
              have othersCount : others.counted between = none := by
                rw [insideCounts, Option.bind_eq_bind, Option.bind_some, closes] at counts
                exact counts
              obtain ⟨body, behind, found, shorter⟩ := ih othersCount rest
              simp only [found]
              refine ⟨_, behind, rfl, ?_⟩
              simp only [prependBody, List.length_append]
              omega

/-- The closing tag behind a nest is found where no tag stands directly behind an
opening brace.  In general it is found if and only if the tags that are seen are
balanced, and it is seen itself. -/
theorem findClosingTag_nest (nest : Nest name) (closing : ClosingTag) (rest : Text) :
    (nest.SetOff → findClosingTag (nest.print ++ (closing.print name ++ rest)) name.text =
      some (nest.print, rest)) ∧
    (findClosingTag (nest.print ++ (closing.print name ++ rest)) name.text = some (nest.print, rest) ↔
      nest.counted 0 = some 0 ∧ nest.behind.hides = false) := by
  have exact : findClosingTag (nest.print ++ (closing.print name ++ rest)) name.text =
      some (nest.print, rest) ↔ nest.counted 0 = some 0 ∧ nest.behind.hides = false := by
    rw [findClosingTag, nest.print_eq, List.append_assoc]
    cases counts : nest.counted 0 with
    | none =>
        obtain ⟨body, behind, found, shorter⟩ := exists_untilClosingTag?_front_append counts
          (nest.behind.text ++ (closing.print name ++ rest))
        rw [found]
        constructor
        · intro same
          have bodyEq := congrArg (fun found => found.1.length) (Option.some.inj same)
          simp only [List.length_append] at bodyEq
          omega
        · rintro ⟨isZero, -⟩
          cases isZero
    | some depth =>
        rw [untilClosingTag?_front_append counts, untilClosingTag?_closed]
        cases closes : nest.behind.closed? depth with
        | none =>
            simp [prependBody, LooseText.closed?_eq_none_iff.mp closes]
        | some fewer =>
            have unbalanced : ¬ (some depth = some 0 ∧ nest.behind.hides = false) := by
              rintro ⟨isZero, seen⟩
              rw [LooseText.closed?_eq_none_iff.mpr ⟨Option.some.inj isZero, seen⟩] at closes
              cases closes
            refine iff_of_false (fun same => ?_) unbalanced
            -- A body that is found behind this closing tag holds it, so it is longer.
            rw [map_prependBody_append] at same
            obtain ⟨found, _, same⟩ := Option.map_eq_some_iff.mp same
            have bodyEq := congrArg (fun found => found.1.length) same
            have closingLength : 0 < (closing.print name).length := by
              simp [ClosingTag.print, opener_eq]
            simp only [prependBody, List.length_append] at bodyEq
            omega
  exact ⟨fun setOff => exact.mpr ⟨setOff.counted_eq 0, setOff.behind_hides⟩, exact⟩

section Instances

/-- The name `a:b`. -/
def shortName : PluginName :=
  ⟨['a', ':', 'b'], by decide, by decide, by decide, by decide⟩

/-- A tag with an attribute whose value looks like the end of a tag. -/
def endingTag : PluginTag :=
  { before := noBlanks
    name := shortName
    attributes := [⟨⟨[' '], by decide⟩, by decide, ['k'], by decide, by decide, noBlanks, noBlanks, '"', .inl rfl,
      ['}', '}'], by decide⟩]
    behind := noBlanks
    values_closed := by decide }

def bareClosing : ClosingTag :=
  ⟨noBlanks, noBlanks, noBlanks⟩

/-- Braces that stand alone, but not before a tag, disturb nothing. -/
theorem findClosingTag_nest_lone_braces :
    let nest : Nest shortName := .element ⟨['{', '}', 'x'], by decide⟩ endingTag rfl
      (.element ⟨['{', ' '], by decide⟩ endingTag rfl (.last ⟨['}', '}'], by decide⟩) bareClosing
        (.last ⟨['{', 'y'], by decide⟩)) bareClosing (.last ⟨['z'], by decide⟩)
    nest.SetOff ∧ findClosingTag (nest.print ++ (bareClosing.print shortName ++ ['{', '{'])) ['a', ':', 'b'] =
      some (nest.print, ['{', '{']) := by
  intro nest
  have setOff : nest.SetOff := ⟨rfl, ⟨rfl, rfl, rfl⟩, rfl⟩
  exact ⟨setOff, (findClosingTag_nest nest bareClosing ['{', '{']).1 setOff⟩

/-- A tag directly behind an opening brace is recognised where tags are replaced,
but it is not seen when its closing tag is searched: the closing tag of the inner
element is taken for that of the outer one. -/
theorem findClosingTag_brace_before_tag :
    let tag : PluginTag := ⟨⟨noBlanks, shortName, [], noBlanks⟩, nofun⟩
    let nest : Nest shortName := .element ⟨['{'], by decide⟩ tag rfl (.last ⟨['x'], by decide⟩) bareClosing
      (.last ⟨['y'], by decide⟩)
    cut plugin nest.print = ⟨[(['{'], tag.call ['x'])], ['y']⟩ ∧
      findClosingTag (nest.print ++ (bareClosing.print shortName ++ ['z'])) ['a', ':', 'b'] =
        some ('{' :: (tag.print ++ ['x']), 'y' :: (bareClosing.print shortName ++ ['z'])) ∧
      findClosingTag (nest.print ++ (bareClosing.print shortName ++ ['z'])) ['a', ':', 'b'] ≠
        some (nest.print, ['z']) := by
  intro tag nest
  have found : findClosingTag (nest.print ++ (bareClosing.print shortName ++ ['z'])) ['a', ':', 'b'] =
      some ('{' :: (tag.print ++ ['x']), 'y' :: (bareClosing.print shortName ++ ['z'])) := by
    decide +kernel
  refine ⟨by decide +kernel, found, ?_⟩
  rw [found]
  decide +kernel

end Instances

end Nest

end ThemedViews.Tags
