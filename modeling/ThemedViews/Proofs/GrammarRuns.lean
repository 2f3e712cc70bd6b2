import ThemedViews.Template.Peg

/-!
# Runs of a grammar

What a run comes to is told one operator at a time, together with a number of
nested steps that is enough for it.  A run that fails has often seen no more than
the first characters: an expression that is looked at with these alone fails
whatever stands behind them, and one that begins with a rule fails where the rule
does.
-/

namespace ThemedViews.Template.Grammar

variable {R : Type} {grammar : Grammar R} {mode : Mode} {sight : Sight}
  {expression first second inner : Peg R} {cursor middle behind : Cursor} {outcome : Outcome R}
  {trees left right : List (Tree R)} {steps more : Nat}

/-- In a number of nested steps matching an expression comes to an outcome,
whatever has been noted before. -/
def Settles (grammar : Grammar R) (steps : Nat) (mode : Mode) (sight : Sight) (expression : Peg R)
    (cursor : Cursor) (outcome : Outcome R) : Prop :=
  ∀ fuel furthest, ∃ later,
    grammar.run (fuel + steps) mode sight expression cursor furthest = (outcome, later)

theorem Settles.mono (settles : grammar.Settles steps mode sight expression cursor outcome)
    (enough : steps ≤ more) : grammar.Settles more mode sight expression cursor outcome := by
  intro fuel furthest
  obtain ⟨spare, rfl⟩ := Nat.exists_eq_add_of_le' enough
  rw [← Nat.add_assoc]
  exact settles (fuel + spare) furthest

section Operators

-- The equations of a run are made here, once for all operators.
attribute [local simp] run

theorem settles_nothing : grammar.Settles 1 mode sight .nothing cursor (.matched [] cursor) :=
  fun _ furthest => ⟨furthest, rfl⟩

theorem settles_any {character : Char} {rest : Text} {passed : Nat} :
    grammar.Settles 1 mode sight .any ⟨character :: rest, passed⟩ (.matched [] ⟨rest, passed + 1⟩) :=
  fun _ furthest => ⟨furthest, rfl⟩

theorem settles_any_end {passed : Nat} : grammar.Settles 1 mode sight .any ⟨[], passed⟩ .failed :=
  fun _ furthest => ⟨furthest, rfl⟩

theorem settles_exactly (text rest : Text) (passed : Nat) :
    grammar.Settles 1 mode sight (.exactly text) ⟨text ++ rest, passed⟩
      (.matched [] ⟨rest, passed + text.length⟩) := by
  intro fuel furthest
  refine ⟨furthest, ?_⟩
  simp [Cursor.advance]

theorem settles_exactly_failed {text : Text} (differs : ¬ text <+: cursor.rest) :
    grammar.Settles 1 mode sight (.exactly text) cursor .failed := by
  intro fuel furthest
  refine ⟨furthest, ?_⟩
  simp [differs]

theorem settles_between {low high character : Char} {rest : Text} {passed : Nat}
    (within : (low ≤ character && character ≤ high) = true) :
    grammar.Settles 1 mode sight (.between low high) ⟨character :: rest, passed⟩
      (.matched [] ⟨rest, passed + 1⟩) := by
  intro fuel furthest
  refine ⟨furthest, ?_⟩
  rw [run]
  exact if_pos within

theorem settles_between_failed {low high : Char}
    (outside : ∀ character, cursor.rest.head? = some character →
      (low ≤ character && character ≤ high) = false) :
    grammar.Settles 1 mode sight (.between low high) cursor .failed := by
  intro fuel furthest
  refine ⟨furthest, ?_⟩
  rw [run]
  cases ahead : cursor.rest.head? with
  | none => rfl
  | some character =>
      have isOutside := outside character ahead
      simp only [isOutside, Bool.false_eq_true, if_false]

theorem Settles.followedBy {fewer : Nat}
    (isFirst : grammar.Settles fewer mode sight first cursor (.matched left middle))
    (isSecond : grammar.Settles more mode sight second (grammar.skipped mode middle)
      (.matched right behind)) :
    grammar.Settles (max fewer more + 1) mode sight (.followedBy first second) cursor
      (.matched (left ++ right) behind) := by
  intro fuel furthest
  obtain ⟨between, firstRun⟩ := isFirst.mono (Nat.le_max_left fewer more) fuel furthest
  obtain ⟨later, secondRun⟩ := isSecond.mono (Nat.le_max_right fewer more) fuel between
  refine ⟨later, ?_⟩
  rw [← Nat.add_assoc, run]
  simp only [firstRun, secondRun]

theorem Settles.followedBy_failed (fails : grammar.Settles steps mode sight first cursor .failed) :
    grammar.Settles (steps + 1) mode sight (.followedBy first second) cursor .failed := by
  intro fuel furthest
  obtain ⟨later, firstRun⟩ := fails fuel furthest
  refine ⟨later, ?_⟩
  rw [← Nat.add_assoc, run]
  simp only [firstRun]

theorem Settles.followedBy_second_failed {fewer : Nat}
    (isFirst : grammar.Settles fewer mode sight first cursor (.matched left middle))
    (fails : grammar.Settles more mode sight second (grammar.skipped mode middle) .failed) :
    grammar.Settles (max fewer more + 1) mode sight (.followedBy first second) cursor .failed := by
  intro fuel furthest
  obtain ⟨between, firstRun⟩ := isFirst.mono (Nat.le_max_left fewer more) fuel furthest
  obtain ⟨later, secondRun⟩ := fails.mono (Nat.le_max_right fewer more) fuel between
  refine ⟨later, ?_⟩
  rw [← Nat.add_assoc, run]
  simp only [firstRun, secondRun]

theorem Settles.orElse (isFirst : grammar.Settles steps mode sight first cursor (.matched trees behind)) :
    grammar.Settles (steps + 1) mode sight (.orElse first second) cursor (.matched trees behind) := by
  intro fuel furthest
  obtain ⟨later, firstRun⟩ := isFirst fuel furthest
  refine ⟨later, ?_⟩
  rw [← Nat.add_assoc, run]
  simp only [firstRun]

theorem Settles.orElse_second {fewer : Nat} (fails : grammar.Settles fewer mode sight first cursor .failed)
    (isSecond : grammar.Settles more mode sight second cursor outcome) :
    grammar.Settles (max fewer more + 1) mode sight (.orElse first second) cursor outcome := by
  intro fuel furthest
  obtain ⟨between, firstRun⟩ := fails.mono (Nat.le_max_left fewer more) fuel furthest
  obtain ⟨later, secondRun⟩ := isSecond.mono (Nat.le_max_right fewer more) fuel between
  refine ⟨later, ?_⟩
  rw [← Nat.add_assoc, run]
  simp only [firstRun, secondRun]

/-- The place where another round of a repetition begins. -/
def roundStart (grammar : Grammar R) (mode : Mode) (again : Bool) (cursor : Cursor) : Cursor :=
  if again then grammar.skipped mode cursor else cursor

theorem Settles.repeated {again : Bool} {fewer : Nat}
    (round : grammar.Settles fewer mode sight inner (grammar.roundStart mode again cursor)
      (.matched left middle))
    (others : grammar.Settles more mode sight (.repeated true inner) middle (.matched right behind)) :
    grammar.Settles (max fewer more + 1) mode sight (.repeated again inner) cursor
      (.matched (left ++ right) behind) := by
  intro fuel furthest
  obtain ⟨between, firstRun⟩ := round.mono (Nat.le_max_left fewer more) fuel furthest
  obtain ⟨later, otherRuns⟩ := others.mono (Nat.le_max_right fewer more) fuel between
  rw [roundStart] at firstRun
  refine ⟨later, ?_⟩
  rw [← Nat.add_assoc, run]
  simp only [firstRun, otherRuns]

theorem Settles.repeated_done {again : Bool}
    (fails : grammar.Settles steps mode sight inner (grammar.roundStart mode again cursor) .failed) :
    grammar.Settles (steps + 1) mode sight (.repeated again inner) cursor (.matched [] cursor) := by
  intro fuel furthest
  obtain ⟨later, firstRun⟩ := fails fuel furthest
  rw [roundStart] at firstRun
  refine ⟨later, ?_⟩
  rw [← Nat.add_assoc, run]
  simp only [firstRun]

theorem Settles.absent (fails : grammar.Settles steps mode sight.inverted inner cursor .failed) :
    grammar.Settles (steps + 1) mode sight (.absent inner) cursor (.matched [] cursor) := by
  intro fuel furthest
  obtain ⟨later, innerRun⟩ := fails fuel furthest
  refine ⟨later, ?_⟩
  rw [← Nat.add_assoc, run]
  simp only [innerRun]

theorem Settles.absent_failed
    (isThere : grammar.Settles steps mode sight.inverted inner cursor (.matched trees behind)) :
    grammar.Settles (steps + 1) mode sight (.absent inner) cursor .failed := by
  intro fuel furthest
  obtain ⟨later, innerRun⟩ := isThere fuel furthest
  refine ⟨later, ?_⟩
  rw [← Nat.add_assoc, run]
  simp only [innerRun]

/-- What a rule leaves of its text and of the trees of its body. -/
def leaving (grammar : Grammar R) (mode : Mode) (sight : Sight) (rule : R) (text : Text)
    (trees : List (Tree R)) : List (Tree R) :=
  if seenIn (grammar.kind rule) mode ≠ .atomic ∧ sight = .forward then [.node rule text trees] else trees

theorem Settles.call {rule : R}
    (isBody : grammar.Settles steps (bodyMode (grammar.kind rule) mode) sight (grammar.body rule) cursor
      (.matched trees behind)) :
    grammar.Settles (steps + 1) mode sight (.call rule) cursor
      (.matched (grammar.leaving mode sight rule (cursor.rest.take (behind.passed - cursor.passed)) trees)
        behind) := by
  intro fuel furthest
  obtain ⟨later, bodyRun⟩ := isBody fuel furthest
  refine ⟨noted (seenIn (grammar.kind rule) mode) sight true cursor.passed later, ?_⟩
  rw [← Nat.add_assoc, run]
  simp [bodyRun, leaving]

theorem Settles.call_failed {rule : R}
    (fails : grammar.Settles steps (bodyMode (grammar.kind rule) mode) sight (grammar.body rule) cursor
      .failed) :
    grammar.Settles (steps + 1) mode sight (.call rule) cursor .failed := by
  intro fuel furthest
  obtain ⟨later, bodyRun⟩ := fails fuel furthest
  refine ⟨noted (seenIn (grammar.kind rule) mode) sight false cursor.passed later, ?_⟩
  rw [← Nat.add_assoc, run]
  simp only [bodyRun]

end Operators

section Skipping

/-- A place at which no blanks are skipped. -/
def Steady (grammar : Grammar R) (rest : Text) : Prop :=
  ∀ character, rest.head? = some character → grammar.isBlank character = false

theorem skipped_of_steady {rest : Text} (steady : grammar.Steady rest) (mode : Mode) (passed : Nat) :
    grammar.skipped mode ⟨rest, passed⟩ = ⟨rest, passed⟩ := by
  unfold skipped
  split
  · cases rest with
    | nil => rfl
    | cons character rest =>
        have notBlank := steady character rfl
        simp [Cursor.skip, Cursor.advance, notBlank]
  · rfl

theorem skipped_of_ne (notSpaced : mode ≠ .spaced) (cursor : Cursor) :
    grammar.skipped mode cursor = cursor :=
  if_neg notSpaced

theorem skipped_append {gap rest : Text} (blank : ∀ character ∈ gap, grammar.isBlank character = true)
    (steady : grammar.Steady rest) (passed : Nat) :
    grammar.skipped .spaced ⟨gap ++ rest, passed⟩ = ⟨rest, passed + gap.length⟩ := by
  have noneLeft : rest.takeWhile grammar.isBlank = [] := by
    cases rest with
    | nil => rfl
    | cons character rest => simp [steady character rfl]
  have taken : (gap ++ rest).takeWhile grammar.isBlank = gap := by
    rw [List.takeWhile_append_of_pos blank, noneLeft, List.append_nil]
  simp [skipped, Cursor.skip, Cursor.advance, taken]

theorem roundStart_of_ne (notSpaced : mode ≠ .spaced) (again : Bool) (cursor : Cursor) :
    grammar.roundStart mode again cursor = cursor := by
  cases again with
  | false => rfl
  | true => exact skipped_of_ne notSpaced cursor

end Skipping

section Glances

/-- Whether two texts differ before one of them ends. -/
def clash : Text → Text → Bool
  | first :: known, other :: text => first ≠ other || clash known text
  | _, _ => false

theorem not_prefix_of_clash {known text : Text} (differs : clash known text = true) (rest : Text) :
    ¬ text <+: known ++ rest := by
  induction known generalizing text with
  | nil => simp [clash] at differs
  | cons first known ih =>
      cases text with
      | nil => simp [clash] at differs
      | cons other text =>
          rw [clash, Bool.or_eq_true, decide_eq_true_eq] at differs
          rw [List.cons_append, List.cons_prefix_cons]
          rintro ⟨same, isPrefix⟩
          rcases differs with unequal | later
          · exact unequal same.symm
          · exact ih later isPrefix

/-- Whether blanks may be skipped at a place of which the first characters are known. -/
def maySkip (grammar : Grammar R) (known : Text) : Bool :=
  known.head?.all grammar.isBlank

theorem steady_of_not_maySkip {known : Text} (still : grammar.maySkip known = false) (rest : Text) :
    grammar.Steady (known ++ rest) := by
  cases known with
  | nil => cases still
  | cons character known =>
      rintro _ ⟨⟩
      simpa [maySkip] using still

/-- What the first characters of a text alone say of an expression: that it fails,
that it matches the empty text and leaves nothing, or none of both. -/
def glance (grammar : Grammar R) : (steps : Nat) → Peg R → (known : Text) → Option Bool
  | 0, _, _ => none
  | steps + 1, expression, known =>
      match expression with
      | .nothing => some true
      | .exactly text => if clash known text then some false else none
      | .between low high =>
          if known.head?.any fun character => !(low ≤ character && character ≤ high) then some false else none
      | .followedBy first second =>
          match grammar.glance steps first known with
          | some true => if grammar.maySkip known then none else grammar.glance steps second known
          | found => found
      | .orElse first second =>
          match grammar.glance steps first known with
          | some false => grammar.glance steps second known
          | found => found
      | .repeated false inner => if grammar.glance steps inner known = some false then some true else none
      | .absent inner => (grammar.glance steps inner known).map Bool.not
      | .call rule => if grammar.glance steps (grammar.body rule) known = some false then some false else none
      | _ => none

/-- What a glance says of a place. -/
def saying (cursor : Cursor) (matchesNothing : Bool) : Outcome R :=
  if matchesNothing then .matched [] cursor else .failed

/-- What a glance says comes true whatever stands behind the known characters. -/
theorem settles_of_glance {known : Text} {matchesNothing : Bool}
    (told : grammar.glance steps expression known = some matchesNothing) (rest : Text) (passed : Nat) :
    grammar.Settles steps mode sight expression ⟨known ++ rest, passed⟩
      (saying ⟨known ++ rest, passed⟩ matchesNothing) := by
  induction steps generalizing mode sight expression matchesNothing with
  | zero => cases told
  | succ steps ih =>
      have enough : 1 ≤ steps + 1 := Nat.le_add_left 1 steps
      cases expression with
      | nothing =>
          cases told
          exact settles_nothing.mono enough
      | any => cases told
      | exactly text =>
          simp only [glance, Option.ite_none_right_eq_some, Option.some.injEq] at told
          obtain ⟨differs, rfl⟩ := told
          exact (settles_exactly_failed (not_prefix_of_clash differs rest)).mono enough
      | between low high =>
          simp only [glance, Option.ite_none_right_eq_some, Option.some.injEq] at told
          obtain ⟨outside, rfl⟩ := told
          refine (settles_between_failed fun found same => ?_).mono enough
          cases known with
          | nil => cases outside
          | cons character known =>
              cases same
              exact (Bool.not_eq_true' _).mp outside
      | followedBy first second =>
          simp only [glance] at told
          cases firstSays : grammar.glance steps first known with
          | none => simp [firstSays] at told
          | some isEmpty =>
              have isFirst : grammar.Settles steps mode sight first _ _ := ih firstSays
              cases isEmpty with
              | false =>
                  simp only [firstSays, Option.some.injEq] at told
                  subst told
                  exact isFirst.followedBy_failed
              | true =>
                  simp only [firstSays, Option.ite_none_left_eq_some, Bool.not_eq_true] at told
                  obtain ⟨still, secondSays⟩ := told
                  have isSecond : grammar.Settles steps mode sight second
                      (grammar.skipped mode ⟨known ++ rest, passed⟩)
                      (saying ⟨known ++ rest, passed⟩ matchesNothing) := by
                    rw [skipped_of_steady (steady_of_not_maySkip still rest)]
                    exact ih secondSays
                  rw [← Nat.max_self steps]
                  cases matchesNothing with
                  | false => exact isFirst.followedBy_second_failed isSecond
                  | true => exact isFirst.followedBy isSecond
      | orElse first second =>
          simp only [glance] at told
          cases firstSays : grammar.glance steps first known with
          | none => simp [firstSays] at told
          | some isEmpty =>
              have isFirst : grammar.Settles steps mode sight first _ _ := ih firstSays
              cases isEmpty with
              | false =>
                  simp only [firstSays] at told
                  rw [← Nat.max_self steps]
                  exact isFirst.orElse_second (ih told)
              | true =>
                  simp only [firstSays, Option.some.injEq] at told
                  subst told
                  exact isFirst.orElse
      | repeated again inner =>
          cases again with
          | true => cases told
          | false =>
              simp only [glance, Option.ite_none_right_eq_some, Option.some.injEq] at told
              obtain ⟨innerSays, rfl⟩ := told
              exact (ih innerSays).repeated_done
      | absent inner =>
          obtain ⟨isEmpty, innerSays, rfl⟩ := Option.map_eq_some_iff.mp told
          have isInner : grammar.Settles steps mode sight.inverted inner _ _ := ih innerSays
          cases isEmpty with
          | false => exact isInner.absent
          | true => exact isInner.absent_failed
      | call rule =>
          simp only [glance, Option.ite_none_right_eq_some, Option.some.injEq] at told
          obtain ⟨bodySays, rfl⟩ := told
          exact (ih bodySays).call_failed

end Glances

section Classes

/-- Whether an expression matches one character of a class. -/
def isClass : Peg R → Bool
  | .between _ _ => true
  | .exactly text => text.length = 1
  | .orElse first second => isClass first && isClass second
  | _ => false

/-- Whether a character is in the class of an expression. -/
def accepts (character : Char) : Peg R → Bool
  | .between low high => low ≤ character && character ≤ high
  | .exactly text => text = [character]
  | .orElse first second => accepts character first || accepts character second
  | _ => false

def choices : Peg R → Nat
  | .orElse first second => max (choices first) (choices second) + 1
  | _ => 1

variable {character : Char} {rest word : Text} {passed : Nat}

theorem settles_class_failed (class_ : isClass expression = true)
    (refused : ∀ character, rest.head? = some character → accepts character expression = false) :
    grammar.Settles (choices expression) mode sight expression ⟨rest, passed⟩ .failed := by
  induction expression with
  | between low high => exact settles_between_failed refused
  | exactly text =>
      obtain ⟨letter, rfl⟩ := List.length_eq_one_iff.mp (of_decide_eq_true class_)
      refine settles_exactly_failed fun isPrefix => ?_
      obtain ⟨behind, rfl⟩ := isPrefix
      have unequal := refused letter rfl
      simp [accepts] at unequal
  | orElse first second isFirst isSecond =>
      simp only [isClass, Bool.and_eq_true] at class_
      simp only [accepts, Bool.or_eq_false_iff] at refused
      exact (isFirst class_.1 fun character ahead => (refused character ahead).1).orElse_second
        (isSecond class_.2 fun character ahead => (refused character ahead).2)
  | _ => cases class_

theorem settles_class (class_ : isClass expression = true) (accepted : accepts character expression = true) :
    grammar.Settles (choices expression) mode sight expression ⟨character :: rest, passed⟩
      (.matched [] ⟨rest, passed + 1⟩) := by
  induction expression with
  | between low high => exact settles_between accepted
  | exactly text =>
      cases of_decide_eq_true accepted
      exact settles_exactly [character] rest passed
  | orElse first second isFirst isSecond =>
      simp only [isClass, Bool.and_eq_true] at class_
      cases acceptsFirst : accepts character first with
      | true =>
          exact (isFirst class_.1 acceptsFirst).orElse.mono
            (Nat.add_le_add_right (Nat.le_max_left ..) 1)
      | false =>
          rw [accepts, acceptsFirst, Bool.false_or] at accepted
          refine (settles_class_failed class_.1 fun found ahead => ?_).orElse_second
            (isSecond class_.2 accepted)
          cases ahead
          exact acceptsFirst
  | _ => cases class_

/-- Without blanks a repetition takes all characters of a class. -/
theorem settles_repeated_class (class_ : isClass inner = true) (notSpaced : mode ≠ .spaced)
    (accepted : ∀ character ∈ word, accepts character inner = true)
    (refused : ∀ character, rest.head? = some character → accepts character inner = false) (again : Bool) :
    grammar.Settles (choices inner + word.length + 1) mode sight (.repeated again inner)
      ⟨word ++ rest, passed⟩ (.matched [] ⟨rest, passed + word.length⟩) := by
  induction word generalizing again passed with
  | nil =>
      refine Settles.repeated_done ?_
      rw [roundStart_of_ne notSpaced]
      exact settles_class_failed class_ refused
  | cons character word ih =>
      obtain ⟨isAccepted, others⟩ := List.forall_mem_cons.mp accepted
      have round : grammar.Settles (choices inner) mode sight inner
          (grammar.roundStart mode again ⟨character :: (word ++ rest), passed⟩)
          (.matched [] ⟨word ++ rest, passed + 1⟩) := by
        rw [roundStart_of_ne notSpaced]
        exact settles_class class_ isAccepted
      have all := (round.repeated (ih others true)).mono
        (show _ ≤ choices inner + (character :: word).length + 1 by
          rw [List.length_cons]
          omega)
      have sum : passed + 1 + word.length = passed + (character :: word).length := by
        rw [List.length_cons]
        omega
      rw [sum] at all
      exact all

end Classes

section Openings

variable [DecidableEq R] {start : R}

/-- Whether an expression surely begins with a rule. -/
def opensWith (grammar : Grammar R) (start : R) : (steps : Nat) → Peg R → Bool
  | 0, _ => false
  | steps + 1, expression =>
      match expression with
      | .followedBy first _ => grammar.opensWith start steps first
      | .orElse first second => grammar.opensWith start steps first && grammar.opensWith start steps second
      | .call rule => rule = start || grammar.opensWith start steps (grammar.body rule)
      | _ => false

/-- Where a rule fails, everything fails that begins with it. -/
theorem settles_of_opensWith {known : Nat} (opens : grammar.opensWith start steps expression = true)
    (fails : ∀ mode, grammar.Settles known mode sight (.call start) cursor .failed) :
    grammar.Settles (steps + known) mode sight expression cursor .failed := by
  induction steps generalizing mode expression with
  | zero => cases opens
  | succ steps ih =>
      rw [Nat.succ_add]
      cases expression with
      | followedBy first second => exact (ih opens).followedBy_failed
      | orElse first second =>
          simp only [opensWith, Bool.and_eq_true] at opens
          rw [← Nat.max_self (steps + known)]
          exact (ih opens.1).orElse_second (ih opens.2)
      | call rule =>
          simp only [opensWith, Bool.or_eq_true, decide_eq_true_eq] at opens
          rcases opens with rfl | opens
          · exact (fails mode).mono (by omega)
          · exact (ih opens).call_failed
      | _ => cases opens

end Openings

end ThemedViews.Template.Grammar
