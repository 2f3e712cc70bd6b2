import ThemedViews.Proofs.HandedTexts

/-!
# Reading tags with more text behind

What a recogniser of tags has read from a text it reads again when more text
stands behind, and the more text is what it leaves in addition.  So a text in
which no opening tag is found at a place holds none there either when it is cut off.
-/

namespace ThemedViews.Tags

open Text

variable {text rest : Text} (more : Text)

theorem isPrefixOf?_append_of_eq_some {needle : Text} (found : needle.isPrefixOf? text = some rest) :
    needle.isPrefixOf? (text ++ more) = some (rest ++ more) := by
  rw [isPrefixOf?_eq_some_iff.mp found, List.append_assoc]
  exact isPrefixOf?_append needle (rest ++ more)

theorem dropWhile_append_of_ne_nil {class_ : Char → Bool} (ends : text.dropWhile class_ ≠ []) :
    (text ++ more).dropWhile class_ = text.dropWhile class_ ++ more := by
  rw [List.dropWhile_append, if_neg (by simpa using ends)]

theorem takeWhile_append_of_ne_nil {class_ : Char → Bool} (ends : text.dropWhile class_ ≠ []) :
    (text ++ more).takeWhile class_ = text.takeWhile class_ := by
  have stops : Stops class_ (text.dropWhile class_ ++ more) := by
    cases dropped : text.dropWhile class_ with
    | nil => contradiction
    | cons first behind =>
        have isOther := List.head?_dropWhile_not class_ text
        rw [dropped] at isOther
        simpa using isOther
  have divided : text ++ more = text.takeWhile class_ ++ (text.dropWhile class_ ++ more) := by
    rw [← List.append_assoc, List.takeWhile_append_dropWhile]
  rw [divided]
  exact takeWhile_append_of_stops (List.all_eq_true.mp List.all_takeWhile) stops

theorem run_append_of_ne_nil {class_ : Char → Bool} {taken : Text} (ran : run class_ text = (taken, rest))
    (ends : rest ≠ []) : run class_ (text ++ more) = (taken, rest ++ more) := by
  obtain ⟨rfl, rfl⟩ := Prod.mk.inj ran
  rw [run, takeWhile_append_of_ne_nil more ends, dropWhile_append_of_ne_nil more ends]

theorem afterBlanks_append_of_ne_nil (ends : afterBlanks text ≠ []) :
    afterBlanks (text ++ more) = afterBlanks text ++ more :=
  dropWhile_append_of_ne_nil more ends

theorem ne_nil_of_isPrefixOf? {needle : Text} (nonempty : needle ≠ [])
    (found : needle.isPrefixOf? text = some rest) : text ≠ [] := by
  rw [isPrefixOf?_eq_some_iff.mp found]
  exact List.append_ne_nil_of_left_ne_nil nonempty rest

theorem isPrefixOf?_afterBlanks_append {needle : Text} (nonempty : needle ≠ [])
    (found : needle.isPrefixOf? (afterBlanks text) = some rest) :
    needle.isPrefixOf? (afterBlanks (text ++ more)) = some (rest ++ more) := by
  rw [afterBlanks_append_of_ne_nil more (ne_nil_of_isPrefixOf? nonempty found)]
  exact isPrefixOf?_append_of_eq_some more found

theorem pluginName?_append_of_eq_some {name : Text} (found : pluginName? text = some (name, rest))
    (ends : rest ≠ []) : pluginName? (text ++ more) = some (name, rest ++ more) := by
  obtain ⟨isName, same⟩ := Option.ite_none_right_eq_some.mp found
  obtain ⟨rfl, rfl⟩ := Prod.mk.inj (Option.some.inj same)
  rw [pluginName?, run_append_of_ne_nil more rfl ends]
  exact if_pos isName

theorem quotedValue?_append_of_eq_some {value : Text} (found : quotedValue? text = some (value, rest)) :
    quotedValue? (text ++ more) = some (value, rest ++ more) := by
  cases text with
  | nil => cases found
  | cons quote text =>
      obtain ⟨isQuote, closed⟩ := Option.ite_none_right_eq_some.mp found
      obtain ⟨ends, same⟩ := Option.ite_none_left_eq_some.mp closed
      obtain ⟨rfl, rfl⟩ := Prod.mk.inj (Option.some.inj same)
      have nonempty : text.dropWhile (· ≠ quote) ≠ [] := fun isNil => ends (List.isEmpty_iff.mpr isNil)
      have behind : (text.dropWhile (· ≠ quote) ++ more).drop 1 = (text.dropWhile (· ≠ quote)).drop 1 ++ more :=
        List.drop_append_of_le_length (List.length_pos_iff.mpr nonempty)
      rw [List.cons_append, quotedValue?, if_pos isQuote, run_append_of_ne_nil more rfl nonempty, ← behind]
      exact if_neg fun isEmpty => nonempty (List.append_eq_nil_iff.mp (List.isEmpty_iff.mp isEmpty)).1

theorem keyValue?_append_of_eq_some {pair : Text × Text} (found : keyValue? text = some (pair, rest)) :
    keyValue? (text ++ more) = some (pair, rest ++ more) := by
  simp only [keyValue?, Option.bind_eq_bind, Option.bind_none] at found ⊢
  obtain ⟨isKey, found⟩ := Option.ite_none_left_eq_some.mp found
  obtain ⟨behind, signed, found⟩ := Option.bind_eq_some_iff.mp found
  obtain ⟨⟨value, left⟩, quoted, same⟩ := Option.bind_eq_some_iff.mp found
  obtain ⟨rfl, rfl⟩ := Prod.mk.inj (Option.some.inj same)
  have keyEnds : (run isNameChar text).2 ≠ [] := by
    intro isNil
    rw [isNil] at signed
    cases signed
  have valueEnds : afterBlanks behind ≠ [] := by
    intro isNil
    rw [isNil] at quoted
    cases quoted
  rw [run_append_of_ne_nil more (Prod.eta (run isNameChar text)).symm keyEnds, if_neg isKey,
    isPrefixOf?_afterBlanks_append more (List.cons_ne_nil _ _) signed, Option.bind_some,
    afterBlanks_append_of_ne_nil more valueEnds, quotedValue?_append_of_eq_some more quoted]
  rfl

theorem afterAttributes_append_of_closer {limit : Nat}
    (closed : closer.isPrefixOf? (afterBlanks text) = some rest) :
    afterAttributes limit (text ++ more) = text ++ more := by
  obtain ⟨blanks, textEq⟩ := exists_blanks_append_afterBlanks text
  rw [textEq, isPrefixOf?_eq_some_iff.mp closed, List.append_assoc, List.append_assoc]
  exact afterAttributes_blanks_closer limit blanks (rest ++ more)

/-- The attributes of a tag end where they ended before. -/
theorem afterAttributes_append {limit bound : Nat} (enough : limit ≤ bound)
    (closed : closer.isPrefixOf? (afterBlanks (afterAttributes limit text)) = some rest) :
    afterAttributes bound (text ++ more) = afterAttributes limit text ++ more := by
  induction limit generalizing text bound with
  | zero => exact afterAttributes_append_of_closer more closed
  | succ limit ih =>
      obtain ⟨bound, rfl⟩ : ∃ less, bound = less + 1 := ⟨bound - 1, by omega⟩
      by_cases separated : text.head?.any isBlank = true
      · rw [afterAttributes, if_pos separated] at closed
        cases read : keyValue? (afterBlanks text) with
        | none =>
            have stopped : afterAttributes (limit + 1) text = text := by
              rw [afterAttributes, if_pos separated, read]
            rw [read] at closed
            rw [stopped]
            exact afterAttributes_append_of_closer more closed
        | some found =>
            obtain ⟨pair, behind⟩ := found
            have ahead : afterBlanks text ≠ [] := by
              intro isNil
              rw [isNil] at read
              cases read
            have nonempty : text ≠ [] := fun isNil => ahead (by rw [isNil]; rfl)
            have separatedHere : (text ++ more).head?.any isBlank = true := by
              rwa [List.head?_append_of_ne_nil _ nonempty]
            have passed : afterAttributes (limit + 1) text = afterAttributes limit behind := by
              rw [afterAttributes, if_pos separated, read]
            rw [read] at closed
            rw [passed, afterAttributes, if_pos separatedHere, afterBlanks_append_of_ne_nil more ahead,
              keyValue?_append_of_eq_some more read]
            exact ih (by omega) closed
      · have stopped : afterAttributes (limit + 1) text = text := by
          rw [afterAttributes, if_neg separated]
        rw [stopped] at closed ⊢
        exact afterAttributes_append_of_closer more closed

/-- What is an opening tag stays one whatever follows it. -/
theorem opening?_append_of_eq_some {name attributes : Text}
    (found : opening? text = some (name, attributes, rest)) :
    opening? (text ++ more) = some (name, attributes, rest ++ more) := by
  simp only [opening?, Option.bind_eq_bind, Option.bind_eq_some_iff] at found
  obtain ⟨inside, opened, ⟨word, behindName⟩, named, left, closed, same⟩ := found
  obtain ⟨rfl, rest⟩ := Prod.mk.inj (Option.some.inj same)
  obtain ⟨rfl, rfl⟩ := Prod.mk.inj rest
  have closerAhead := ne_nil_of_isPrefixOf? (by simp [closer_eq]) closed
  have isSuffix := isSuffix_afterAttributes behindName.length behindName
  have behindEnds : behindName ≠ [] := by
    rintro rfl
    exact closerAhead rfl
  have nameEnds : afterBlanks inside ≠ [] := by
    intro isNil
    rw [isNil] at named
    cases named
  have longer : behindName.length ≤ (behindName ++ more).length := by simp
  have passed := afterAttributes_append more longer closed
  have kept : (behindName ++ more).take ((behindName ++ more).length -
      (afterAttributes behindName.length behindName ++ more).length) =
      behindName.take (behindName.length - (afterAttributes behindName.length behindName).length) := by
    rw [List.length_append, List.length_append, Nat.add_sub_add_right]
    exact List.take_append_of_le_length (Nat.sub_le _ _)
  simp only [opening?, Option.bind_eq_bind, isPrefixOf?_append_of_eq_some more opened, Option.bind_some,
    afterBlanks_append_of_ne_nil more nameEnds, pluginName?_append_of_eq_some more named behindEnds, passed,
    isPrefixOf?_afterBlanks_append more (by simp [closer_eq]) closed, kept]
  rfl

end ThemedViews.Tags
