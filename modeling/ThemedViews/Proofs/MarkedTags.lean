import Mathlib.Data.List.DropRight
import ThemedViews.Proofs.MarkedReaders

/-!
# Cutting texts that have marks

The same plugin tags and noparse blocks are found in a text under every nonce
that does not occur in it: with the same names, the same bodies, and the same
text between them.
-/

namespace ThemedViews.Protection

open Text Tags

theorem trimEndOf_isBlank_write (nonce : Text) (symbols : List Symbol) :
    trimEndOf isBlank (write nonce symbols) =
      write nonce (symbols.rdropWhile (Symbol.meets isBlank)) := by
  have trimmed (text : Text) : trimEndOf isBlank text = text.rdropWhile isBlank := rfl
  induction symbols using List.reverseRecOn with
  | nil => rfl
  | append_singleton symbols symbol ih =>
      rw [trimmed] at ih
      rw [trimmed, write_append, List.rdropWhile_concat]
      cases symbol with
      | char last =>
          rw [Symbol.meets, write_char_cons, write_nil, List.rdropWhile_concat, ih]
          split <;> simp
      | mark index =>
          have solid : Symbol.meets isBlank (.mark index) = false := by
            change isBlank '_' = false
            decide
          have ending : write nonce [.mark index] =
              markStart ++ (nonce ++ ('_' :: (Nat.toDigits 10 index ++ ['_']))) ++ ['_'] := by
            simp [placeholderOf_eq]
          rw [ending, ← List.append_assoc, List.rdropWhile_concat_neg _ _ _ (by decide), solid,
            List.append_assoc, ← ending, ← write_append]
          rfl

theorem level_isSolid : Level isSolid := by
  intro character named
  exact congrArg (! ·) (level_isBlank character named)

/-- A tag has the name that is sought under every nonce, or under none. -/
theorem Suits.isNamed_write {nonce : Text} {name tag : List Symbol} (nameSuits : Suits nonce name)
    (suits : Suits nonce tag) :
    (decide ((write nonce tag).takeWhile isSolid = write nonce name) && !(write nonce tag).isEmpty) =
      (decide (tag.takeWhile (Symbol.meets isSolid) = name) && !tag.isEmpty) := by
  have wordSuits : Suits nonce (tag.takeWhile (Symbol.meets isSolid)) :=
    suits.mono (List.takeWhile_prefix _).isInfix
  have sameName : write nonce (tag.takeWhile (Symbol.meets isSolid)) = write nonce name ↔
      tag.takeWhile (Symbol.meets isSolid) = name :=
    ⟨wordSuits.eq_of_write_eq nameSuits, congrArg (write nonce)⟩
  have sameEmpty : (write nonce tag).isEmpty = tag.isEmpty := by
    rw [Bool.eq_iff_iff, List.isEmpty_iff, List.isEmpty_iff, write_eq_nil_iff]
  rw [suits.isNonce.takeWhile_write level_isSolid, sameEmpty]
  simp only [sameName]

theorem exists_tagRole_write (name inner : List Symbol) :
    ∃ role, ∀ nonce, Suits nonce name → Suits nonce inner →
      tagRole (write nonce name) (write nonce inner) = role := by
  let trimmed := (inner.dropWhile (Symbol.meets isBlank)).rdropWhile (Symbol.meets isBlank)
  have isInfix : trimmed <:+: inner :=
    (List.rdropWhile_prefix _ _).isInfix.trans (List.dropWhile_suffix _).isInfix
  have trimmedEq (nonce : Text) (suits : Suits nonce inner) :
      trimEndOf isBlank (trimStartOf isBlank (write nonce inner)) = write nonce trimmed := by
    rw [trimStartOf, suits.isNonce.dropWhile_write level_isBlank, trimEndOf_isBlank_write]
  have opening (none : ∀ rest, trimmed ≠ .char '/' :: rest) (nonce : Text)
      (suits : Suits nonce inner) : tagRole (write nonce name) (write nonce inner) =
      if (write nonce trimmed).takeWhile isSolid = write nonce name && !(write nonce trimmed).isEmpty
      then .opens else .other := by
    rw [tagRole, trimmedEq nonce suits]
    rcases trimmed with _ | ⟨⟨first⟩ | ⟨index⟩, rest⟩
    · rfl
    · have noSlash : first ≠ '/' := fun isSlash => none rest (by rw [isSlash])
      have solidEq : isSolid = fun character => !isBlank character := rfl
      simp [noSlash, solidEq]
    · rfl
  let named (tag : List Symbol) : Bool :=
    decide (tag.takeWhile (Symbol.meets isSolid) = name) && !tag.isEmpty
  by_cases closes : ∃ rest, trimmed = .char '/' :: rest
  · obtain ⟨rest, trimmedIs⟩ := closes
    have tagInfix : rest.dropWhile (Symbol.meets isBlank) <:+: inner :=
      ((List.dropWhile_suffix _).trans (List.suffix_cons _ rest)).isInfix.trans (trimmedIs ▸ isInfix)
    refine ⟨if named (rest.dropWhile (Symbol.meets isBlank)) then .closes else .other,
      fun nonce nameSuits suits => ?_⟩
    have tagEq : afterBlanks (write nonce rest) =
        write nonce (rest.dropWhile (Symbol.meets isBlank)) :=
      suits.isNonce.dropWhile_write level_isBlank rest
    rw [tagRole, trimmedEq nonce suits, trimmedIs, write_char_cons]
    simp only [tagEq, if_true]
    exact congrArg (fun found : Bool => if found then TagRole.closes else .other)
      (nameSuits.isNamed_write (suits.mono tagInfix))
  · rw [not_exists] at closes
    refine ⟨if named trimmed then .opens else .other, fun nonce nameSuits suits => ?_⟩
    rw [opening closes nonce suits, nameSuits.isNamed_write (suits.mono isInfix)]

/-- The body before the closing tag of a name and what is left behind that tag do
not depend on the nonce. -/
def SearchesAlike (name : List Symbol) (depth : Nat) (symbols : List Symbol) : Prop :=
  ∃ found : Option (List Symbol × List Symbol),
    (∀ body behind, found = some (body, behind) → body <+: symbols ∧ behind <:+ symbols) ∧
    ∀ nonce, Suits nonce name → Suits nonce symbols →
      untilClosingTag? (write nonce name) 0 depth (write nonce symbols) =
        found.map (Prod.map (write nonce) (write nonce))

theorem SearchesAlike.passOver {name rest : List Symbol} {depth deeper : Nat}
    (searches : SearchesAlike name deeper rest) (passed : List Symbol)
    (stepped : ∀ nonce, Suits nonce name → Suits nonce (passed ++ rest) →
      untilClosingTag? (write nonce name) 0 depth (write nonce (passed ++ rest)) =
        (untilClosingTag? (write nonce name) 0 deeper (write nonce rest)).map
          (prependBody (write nonce passed))) :
    SearchesAlike name depth (passed ++ rest) := by
  obtain ⟨found, within, searched⟩ := searches
  refine ⟨found.map fun parts => (passed ++ parts.1, parts.2), ?_, fun nonce nameSuits suits => ?_⟩
  · intro body behind isFound
    obtain ⟨parts, foundEq, same⟩ := Option.map_eq_some_iff.mp isFound
    obtain ⟨rfl, rfl⟩ := Prod.mk.inj same
    obtain ⟨isPrefix, isSuffix⟩ := within parts.1 parts.2 foundEq
    exact ⟨(List.prefix_append_right_inj passed).mpr isPrefix,
      isSuffix.trans (List.suffix_append passed rest)⟩
  · have restSuits := suits.mono (List.suffix_append passed rest).isInfix
    rw [stepped nonce nameSuits suits, searched nonce nameSuits restSuits, Option.map_map,
      Option.map_map]
    congr 1
    funext parts
    simp [prependBody]

/-- A search goes on behind two opening braces as the role of the tag says. -/
theorem searchesAlike_opener {name inside : List Symbol} (depth : Nat)
    (shorter : ∀ (rest : List Symbol) (depth : Nat), rest.length ≤ inside.length →
      SearchesAlike name depth rest) :
    SearchesAlike name depth (opener.map Symbol.char ++ inside) := by
  obtain ⟨split, wholeOf, splitEq⟩ := exists_splitOnce?_closer_write inside
  have opened (nonce : Text) :
      write nonce (opener.map Symbol.char ++ inside) = opener ++ write nonce inside := by
    rw [write_append, write_map_char]
  have insideSuits {nonce : Text} (suits : Suits nonce (opener.map Symbol.char ++ inside)) :
      Suits nonce inside := suits.mono (List.suffix_append _ inside).isInfix
  cases split with
  | none =>
      refine ⟨none, by simp, fun nonce _ suits => ?_⟩
      rw [opened, untilClosingTag?_opener_of_eq_none _ depth (splitEq nonce (insideSuits suits))]
      rfl
  | some parts =>
      obtain ⟨inner, behind⟩ := parts
      have whole := wholeOf inner behind rfl
      obtain ⟨role, roleEq⟩ := exists_tagRole_write name inner
      have stepped (nonce : Text) (nameSuits : Suits nonce name)
          (suits : Suits nonce (opener.map Symbol.char ++ inside)) :=
        untilClosingTag?_opener (write nonce name) depth (splitEq nonce (insideSuits suits))
      have roleHere (nonce : Text) (nameSuits : Suits nonce name)
          (suits : Suits nonce (opener.map Symbol.char ++ inside)) :
          tagRole (write nonce name) (write nonce inner) = role :=
        roleEq nonce nameSuits ((insideSuits suits).mono
          (whole ▸ (List.prefix_append inner _).isInfix))
      -- A tag of the name is passed over as a whole.
      have known (deeper : Nat)
          (counted : ∀ nonce, Suits nonce name → Suits nonce (opener.map Symbol.char ++ inside) →
            untilClosingTag? (write nonce name) 0 depth (opener ++ write nonce inside) =
              (untilClosingTag? (write nonce name) ((write nonce inner).length + 3) deeper
                ('{' :: write nonce inside)).map (prependBody ['{'])) :
          SearchesAlike name depth (opener.map Symbol.char ++ inside) := by
        have atMost : behind.length ≤ inside.length := by
          rw [whole, List.length_append, List.length_append]
          omega
        have regrouped : opener.map Symbol.char ++ inside =
            opener.map Symbol.char ++ (inner ++ closer.map Symbol.char) ++ behind := by
          rw [whole]
          simp only [List.append_assoc]
        rw [regrouped]
        refine (shorter behind deeper atMost).passOver _ fun nonce nameSuits suits => ?_
        rw [← regrouped] at suits ⊢
        rw [opened, counted nonce nameSuits suits, whole, write_append, write_append, write_map_char,
          untilClosingTag?_known_tag, write_append, write_append, write_map_char, write_map_char]
      cases role with
      | other =>
          refine (shorter inside depth (Nat.le_refl _)).passOver _ fun nonce nameSuits suits => ?_
          rw [opened, stepped nonce nameSuits suits, roleHere nonce nameSuits suits, write_map_char,
            untilClosingTag?_succ_cons, map_prependBody_append]
          rfl
      | opens =>
          refine known (depth + 1) fun nonce nameSuits suits => ?_
          rw [stepped nonce nameSuits suits, roleHere nonce nameSuits suits]
      | closes =>
          cases depth with
          | zero =>
              refine ⟨some ([], behind), ?_, fun nonce nameSuits suits => ?_⟩
              · rintro body left ⟨⟩
                refine ⟨List.nil_prefix, ?_⟩
                rw [whole, ← List.append_assoc, ← List.append_assoc]
                exact List.suffix_append _ behind
              · rw [opened, stepped nonce nameSuits suits, roleHere nonce nameSuits suits]
                rfl
          | succ depth =>
              refine known depth fun nonce nameSuits suits => ?_
              rw [stepped nonce nameSuits suits, roleHere nonce nameSuits suits]

theorem searchesAlike (name : List Symbol) (depth : Nat) (symbols : List Symbol) :
    SearchesAlike name depth symbols := by
  induction sizeEq : symbols.length using Nat.strongRecOn generalizing symbols depth with
  | ind size ih =>
      rcases symbols with _ | ⟨⟨first⟩ | ⟨index⟩, rest⟩
      · exact ⟨none, by simp, fun _ _ _ => rfl⟩
      · have further := ih rest.length (by rw [← sizeEq]; simp) depth rest rfl
        by_cases opens : opener.map Symbol.char <+: .char first :: rest
        · obtain ⟨inside, whole⟩ := opens
          rw [← whole] at sizeEq ⊢
          refine searchesAlike_opener depth fun rest depth atMost => ih rest.length ?_ depth rest rfl
          rw [← sizeEq, List.length_append, List.length_map, opener_eq, List.length_cons]
          omega
        · refine further.passOver [.char first] fun nonce _ suits => ?_
          have noOpener : opener.isPrefixOf? (first :: write nonce rest) = none := by
            rw [← write_char_cons, isPrefixOf?_write (by decide) nonce, Option.map_eq_none_iff,
              Option.eq_none_iff_forall_not_mem]
            exact fun inside found => opens ⟨inside, List.isPrefixOf?_eq_some_iff_append_eq.mp found⟩
          exact untilClosingTag?_cons_of_eq_none _ depth noOpener
      · have further := ih rest.length (by rw [← sizeEq]; simp) depth rest rfl
        refine further.passOver [.mark index] fun nonce _ suits => ?_
        have closed := suits.isNonce.not_mem_placeholderOf (by decide : isNameChar '{' = false) index
        rw [write_append, write_mark_cons, write_nil, List.append_nil,
          untilClosingTag?_append_of_not_mem _ depth closed]

section Cut

variable {α β A : Type}

/-- A text of symbols that has been divided at some stretches, each of which is
kept with what has been found there and the text before it. -/
structure MarkedCut (A : Type) where
  pieces : List (List Symbol × A × List Symbol)
  rest : List Symbol

/-- A divided text with a view of what has been found. -/
def viewed (view : α → β) (cut : Cut α) : Cut β :=
  ⟨cut.pieces.map (Prod.map id view), cut.rest⟩

theorem viewed_pushText (view : α → β) (text : Text) (cut : Cut α) :
    viewed view (cut.pushText text) = (viewed view cut).pushText text := by
  obtain ⟨_ | ⟨⟨before, found⟩, pieces⟩, rest⟩ := cut <;> rfl

theorem viewed_pushFound (view : α → β) (found : α) (cut : Cut α) :
    viewed view (cut.pushFound found) = (viewed view cut).pushFound (view found) :=
  rfl

namespace MarkedCut

/-- The text that has been divided. -/
def whole (cut : MarkedCut A) : List Symbol :=
  cut.pieces.flatMap (fun (before, _, taken) => before ++ taken) ++ cut.rest

/-- What has been found, in order. -/
def found (cut : MarkedCut A) : List A :=
  cut.pieces.map fun (_, item, _) => item

/-- A divided text as it is written under a nonce. -/
def write (image : Text → A → β) (nonce : Text) (cut : MarkedCut A) : Cut β :=
  ⟨cut.pieces.map fun (before, item, _) => (Protection.write nonce before, image nonce item),
    Protection.write nonce cut.rest⟩

def pushText (symbols : List Symbol) : MarkedCut A → MarkedCut A
  | ⟨[], rest⟩ => ⟨[], symbols ++ rest⟩
  | ⟨(before, piece) :: pieces, rest⟩ => ⟨(symbols ++ before, piece) :: pieces, rest⟩

def pushFound (item : A) (taken : List Symbol) (cut : MarkedCut A) : MarkedCut A :=
  ⟨([], item, taken) :: cut.pieces, cut.rest⟩

theorem whole_pushText (symbols : List Symbol) (cut : MarkedCut A) :
    (cut.pushText symbols).whole = symbols ++ cut.whole := by
  obtain ⟨_ | ⟨⟨before, piece⟩, pieces⟩, rest⟩ := cut <;> simp [whole, pushText]

theorem found_pushText (symbols : List Symbol) (cut : MarkedCut A) :
    (cut.pushText symbols).found = cut.found := by
  obtain ⟨_ | ⟨⟨before, piece⟩, pieces⟩, rest⟩ := cut <;> rfl

theorem write_pushText (image : Text → A → β) (nonce : Text) (symbols : List Symbol)
    (cut : MarkedCut A) :
    (cut.pushText symbols).write image nonce =
      (cut.write image nonce).pushText (Protection.write nonce symbols) := by
  obtain ⟨_ | ⟨⟨before, piece⟩, pieces⟩, rest⟩ := cut <;> simp [write, pushText, Cut.pushText]

end MarkedCut

/-- What a recogniser sees at the front of a text, and how much of it that takes,
do not depend on the nonce. -/
def Recognises (view : α → β) (image : Text → A → β) (within : A → List Symbol → Prop)
    (recognise : Text → Option (α × Nat)) : Prop :=
  ∀ symbols, ∃ found : Option (A × List Symbol × List Symbol),
    (∀ item taken rest, found = some (item, taken, rest) →
      symbols = taken ++ rest ∧ taken ≠ [] ∧ within item symbols) ∧
    ∀ nonce, Suits nonce symbols →
      (recognise (write nonce symbols)).map (Prod.map view id) =
        found.map fun parts => (image nonce parts.1, (write nonce parts.2.1).length)

/-- The stretches of a text are the same under every nonce. -/
def DividesAlike (view : α → β) (image : Text → A → β) (within : A → List Symbol → Prop)
    (recognise : Text → Option (α × Nat)) (symbols : List Symbol) : Prop :=
  ∃ divided : MarkedCut A, divided.whole = symbols ∧ (∀ item ∈ divided.found, within item symbols) ∧
    ∀ nonce, Suits nonce symbols →
      viewed view (cut recognise (write nonce symbols)) = divided.write image nonce

section Divide

variable {view : α → β} {image : Text → A → β} {within : A → List Symbol → Prop}
  {recognise : Text → Option (α × Nat)}
  (within_mono : ∀ item part symbols, within item part → part <:+: symbols → within item symbols)

include within_mono

theorem DividesAlike.pushText {rest : List Symbol}
    (divides : DividesAlike view image within recognise rest) (passed : List Symbol)
    (never : ∀ nonce, Suits nonce (passed ++ rest) → ∀ suffix, suffix ≠ [] →
      suffix <:+ write nonce passed → recognise (suffix ++ write nonce rest) = none) :
    DividesAlike view image within recognise (passed ++ rest) := by
  obtain ⟨divided, wholeEq, inside, cutEq⟩ := divides
  have isInfix := (List.suffix_append passed rest).isInfix
  refine ⟨divided.pushText passed, ?_, fun item member => ?_, fun nonce suits => ?_⟩
  · rw [MarkedCut.whole_pushText, wholeEq]
  · rw [MarkedCut.found_pushText] at member
    exact within_mono item rest _ (inside item member) isInfix
  · rw [write_append, cut_append_of_forall_none (never nonce suits), viewed_pushText,
      cutEq nonce (suits.mono isInfix), MarkedCut.write_pushText]

theorem DividesAlike.pushFound {rest taken : List Symbol} {item : A}
    (divides : DividesAlike view image within recognise rest) (nonempty : taken ≠ [])
    (itemWithin : within item (taken ++ rest))
    (seen : ∀ nonce, Suits nonce (taken ++ rest) →
      (recognise (write nonce (taken ++ rest))).map (Prod.map view id) =
        some (image nonce item, (write nonce taken).length)) :
    DividesAlike view image within recognise (taken ++ rest) := by
  obtain ⟨divided, wholeEq, inside, cutEq⟩ := divides
  have isInfix := (List.suffix_append taken rest).isInfix
  refine ⟨divided.pushFound item taken, ?_, fun other member => ?_, fun nonce suits => ?_⟩
  · simpa [MarkedCut.whole, MarkedCut.pushFound] using wholeEq
  · rcases List.mem_cons.mp member with rfl | later
    · exact itemWithin
    · exact within_mono other rest _ (inside other later) isInfix
  · obtain ⟨⟨found, length⟩, recognised, same⟩ := Option.map_eq_some_iff.mp (seen nonce suits)
    obtain ⟨viewEq, rfl⟩ := Prod.mk.inj same
    have writtenNonempty : write nonce taken ≠ [] := fun isNil =>
      nonempty ((write_eq_nil_iff nonce taken).mp isNil)
    rw [write_append] at recognised ⊢
    rw [cut_append_of_eq_some writtenNonempty recognised, viewed_pushFound,
      cutEq nonce (suits.mono isInfix), viewEq]
    rfl

theorem Recognises.dividesAlike (recognises : Recognises view image within recognise)
    (solid : ∀ first rest, isNameChar first = true → recognise (first :: rest) = none)
    (symbols : List Symbol) : DividesAlike view image within recognise symbols := by
  induction sizeEq : symbols.length using Nat.strongRecOn generalizing symbols with
  | ind size ih =>
      rcases symbols with _ | ⟨⟨first⟩ | ⟨index⟩, rest⟩
      · exact ⟨⟨[], []⟩, rfl, by simp [MarkedCut.found], fun _ _ => rfl⟩
      · obtain ⟨seen, within_seen, recognised⟩ := recognises (.char first :: rest)
        cases seen with
        | none =>
            have further := ih rest.length (by rw [← sizeEq]; simp) rest rfl
            refine further.pushText within_mono [.char first] fun nonce suits suffix nonempty isSuffix => ?_
            have unseen := Option.map_eq_none_iff.mp (recognised nonce suits)
            rcases List.suffix_cons_iff.mp isSuffix with rfl | inNil
            · exact unseen
            · exact absurd (List.suffix_nil.mp inNil) nonempty
        | some parts =>
            obtain ⟨item, taken, left⟩ := parts
            obtain ⟨whole, nonempty, itemWithin⟩ := within_seen item taken left rfl
            rw [whole] at recognised itemWithin sizeEq ⊢
            have shorter : left.length < size := by
              have := List.length_pos_iff.mpr nonempty
              rw [← sizeEq, List.length_append]
              omega
            exact (ih left.length shorter left rfl).pushFound within_mono nonempty itemWithin recognised
      · have further := ih rest.length (by rw [← sizeEq]; simp) rest rfl
        refine further.pushText within_mono [.mark index] fun nonce suits suffix nonempty isSuffix => ?_
        cases suffix with
        | nil => contradiction
        | cons first suffix =>
            apply solid
            apply suits.isNonce.isNameChar_of_mem_placeholderOf
            simpa using isSuffix.subset List.mem_cons_self

end Divide

end Cut

theorem Suits.length_sub {nonce : Text} {symbols taken rest : List Symbol}
    (whole : symbols = taken ++ rest) :
    (write nonce symbols).length - (write nonce rest).length = (write nonce taken).length := by
  rw [whole, write_append, List.length_append]
  omega

theorem recognises_noparseBlock :
    Recognises id write (fun content symbols => content <:+: symbols) noparseBlock := by
  intro symbols
  obtain ⟨found, within, read⟩ := readsParts_restOfBlock?.exists_taken symbols
  refine ⟨found, within, fun nonce suits => ?_⟩
  rw [noparseBlock_eq, read nonce suits, Option.map_map, Option.map_map]
  cases found with
  | none => rfl
  | some parts =>
      obtain ⟨content, taken, rest⟩ := parts
      have whole := (within content taken rest rfl).1
      simp [Suits.length_sub whole]

theorem noparseBlock_eq_none_of_isNameChar (first : Char) (rest : Text)
    (named : isNameChar first = true) : noparseBlock (first :: rest) = none := by
  rw [noparseBlock, afterOpening?, afterTag?_eq_none_of_isNameChar _ named]
  rfl

/-- The noparse blocks of a text are the same under every nonce. -/
theorem dividesAlike_noparseBlock (symbols : List Symbol) :
    DividesAlike id write (fun content symbols => content <:+: symbols) noparseBlock symbols :=
  recognises_noparseBlock.dividesAlike (fun _ _ _ inside isInfix => inside.trans isInfix)
    noparseBlock_eq_none_of_isNameChar symbols

/-- A tag without its attributes. -/
def bareCall (tag : PluginCall) : PluginCall :=
  { tag with attributes := [] }

/-- The tag with a name and a body. -/
def writeCall (nonce : Text) (parts : List Symbol × List Symbol) : PluginCall :=
  ⟨String.ofList (write nonce parts.1), [], write nonce parts.2⟩

theorem recognises_plugin :
    Recognises bareCall writeCall
      (fun parts symbols => parts.1 <:+: symbols ∧ parts.2 <:+: symbols) plugin := by
  intro symbols
  obtain ⟨opened, within, read⟩ := readsParts_restOfOpening?.exists_taken symbols
  cases opened with
  | none =>
      refine ⟨none, by simp, fun nonce suits => ?_⟩
      have unopened : opening? (write nonce symbols) = none := by
        have := read nonce suits
        rw [← map_opening?] at this
        exact Option.map_eq_none_iff.mp this
      rw [plugin, unopened]
      rfl
  | some parts =>
      obtain ⟨name, taken, left⟩ := parts
      obtain ⟨whole, nonempty, nameInfix⟩ := within name taken left rfl
      have leftInfix : left <:+: symbols := whole ▸ (List.suffix_append taken left).isInfix
      obtain ⟨closed, withinLeft, searched⟩ := searchesAlike name 0 left
      let body := (closed.getD ([], left)).1
      let rest := (closed.getD ([], left)).2
      have bodyInfix : body <:+: left := by
        cases closed with
        | none => exact List.nil_infix
        | some parts => exact (withinLeft parts.1 parts.2 rfl).1.isInfix
      obtain ⟨between, leftIs⟩ : rest <:+ left := by
        cases closed with
        | none => exact List.suffix_rfl
        | some parts => exact (withinLeft parts.1 parts.2 rfl).2
      have regrouped : symbols = taken ++ between ++ rest := by
        rw [whole, ← leftIs, List.append_assoc]
      refine ⟨some ((name, body), taken ++ between, rest), ?_, fun nonce suits => ?_⟩
      · rintro _ _ _ ⟨⟩
        exact ⟨regrouped, by simp [nonempty], nameInfix, bodyInfix.trans leftInfix⟩
      · obtain ⟨⟨foundName, attributes, foundLeft⟩, openingEq, same⟩ := Option.map_eq_some_iff.mp
          ((map_opening? (write nonce symbols)).trans (read nonce suits))
        obtain ⟨rfl, rfl⟩ := Prod.mk.inj same
        have closing : (findClosingTag (write nonce left) (write nonce name)).getD
            ([], write nonce left) = (write nonce body, write nonce rest) := by
          rw [findClosingTag, searched nonce (suits.mono nameInfix) (suits.mono leftInfix)]
          cases closed <;> rfl
        rw [plugin, openingEq]
        simp only [Option.bind_eq_bind, Option.bind_some, closing]
        simp [bareCall, writeCall, Suits.length_sub regrouped]

theorem plugin_eq_none_of_isNameChar (first : Char) (rest : Text)
    (named : isNameChar first = true) : plugin (first :: rest) = none := by
  have noOpener : opener.isPrefixOf? (first :: rest) = none := by
    rw [isPrefixOf?_eq_none_iff, opener_eq, List.cons_prefix_cons]
    rintro ⟨rfl, _⟩
    contradiction
  rw [plugin, opening?, noOpener]
  rfl

/-- The plugin tags of a text are the same under every nonce, apart from their
attributes. -/
theorem dividesAlike_plugin (symbols : List Symbol) :
    DividesAlike bareCall writeCall
      (fun parts symbols => parts.1 <:+: symbols ∧ parts.2 <:+: symbols) plugin symbols :=
  recognises_plugin.dividesAlike
    (fun _ _ _ inside isInfix => ⟨inside.1.trans isInfix, inside.2.trans isInfix⟩)
    plugin_eq_none_of_isNameChar symbols

end ThemedViews.Protection
