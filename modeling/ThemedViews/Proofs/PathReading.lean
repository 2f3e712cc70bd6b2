import ThemedViews.Proofs.GrammarRuns
import ThemedViews.Template.Reading

/-!
# Reading paths

What a part of a template is matched and read to is told one operator at a time.
A path in front of the end of a tag is read as an expression of its own: every
other form of expression is tried before, and each of them fails at the first
character of the path or behind the path.
-/

namespace ThemedViews.Template

open Grammar Rule
open Peg (word all oneOf optional many call)

variable {steps more : Nat} {mode : Mode} {sight : Sight} {expression first second inner : Peg Rule}
  {taken gap other rest : Text} {parts others : List Fragment}

/-- A text in front of another one is matched, and read into parts. -/
def Reads (steps : Nat) (mode : Mode) (expression : Peg Rule) (taken rest : Text)
    (parts : List Fragment) : Prop :=
  ∀ passed, ∃ trees,
    grammar.Settles steps mode .forward expression ⟨taken ++ rest, passed⟩
      (.matched trees ⟨rest, passed + taken.length⟩) ∧
    readAll readRule trees = .ok parts

def Fails (steps : Nat) (mode : Mode) (expression : Peg Rule) (rest : Text) : Prop :=
  ∀ passed, grammar.Settles steps mode .forward expression ⟨rest, passed⟩ .failed

/-- Blanks in front of a text are skipped between two parts of an expression. -/
def Skips (mode : Mode) (gap rest : Text) : Prop :=
  ∀ passed, grammar.skipped mode ⟨gap ++ rest, passed⟩ = ⟨rest, passed + gap.length⟩

theorem skips_nil (notSpaced : mode ≠ .spaced) (rest : Text) : Skips mode [] rest :=
  fun _ => skipped_of_ne notSpaced _

theorem skips_nil_of_steady (steady : grammar.Steady rest) (mode : Mode) : Skips mode [] rest :=
  skipped_of_steady steady mode

theorem skips_of_blank (blank : ∀ character ∈ gap, isBlank character = true)
    (steady : grammar.Steady rest) : Skips .spaced gap rest :=
  skipped_append blank steady

section Operators

theorem readAll_append {left right : List (Tree Rule)} (leftRead : readAll readRule left = .ok parts)
    (rightRead : readAll readRule right = .ok others) :
    readAll readRule (left ++ right) = .ok (parts ++ others) := by
  induction left generalizing parts with
  | nil =>
      cases leftRead
      exact rightRead
  | cons tree left ih =>
      rw [readAll] at leftRead
      rw [List.cons_append, readAll]
      cases treeRead : tree.read readRule with
      | error reason =>
          rw [treeRead] at leftRead
          cases leftRead
      | ok fragment =>
          rw [treeRead] at leftRead
          cases restRead : readAll readRule left with
          | error reason =>
              rw [restRead] at leftRead
              cases leftRead
          | ok fragments =>
              rw [restRead] at leftRead
              cases leftRead
              have behind := ih restRead
              simp only [behind]
              rfl

theorem Reads.mono (reads : Reads steps mode expression taken rest parts) (enough : steps ≤ more) :
    Reads more mode expression taken rest parts := by
  intro passed
  obtain ⟨trees, settles, read⟩ := reads passed
  exact ⟨trees, settles.mono enough, read⟩

theorem Fails.mono (fails : Fails steps mode expression rest) (enough : steps ≤ more) :
    Fails more mode expression rest :=
  fun passed => (fails passed).mono enough

theorem reads_nothing (mode : Mode) (rest : Text) : Reads 1 mode .nothing [] rest [] :=
  fun _ => ⟨[], settles_nothing, rfl⟩

theorem reads_word (text : String) (mode : Mode) (rest : Text) :
    Reads 1 mode (word text) text.toList rest [] :=
  fun passed => ⟨[], settles_exactly text.toList rest passed, rfl⟩

/-- An expression that does not look at anything in particular reads no parts. -/
theorem reads_of_settles (settles : ∀ passed, grammar.Settles steps mode .forward expression
    ⟨taken ++ rest, passed⟩ (.matched [] ⟨rest, passed + taken.length⟩)) :
    Reads steps mode expression taken rest [] :=
  fun passed => ⟨[], settles passed, rfl⟩

theorem fails_of_glance {known : Text} (told : grammar.glance steps expression known = some false)
    (mode : Mode) (rest : Text) : Fails steps mode expression (known ++ rest) :=
  settles_of_glance told rest

theorem reads_of_glance {known : Text} (told : grammar.glance steps expression known = some true)
    (mode : Mode) (rest : Text) : Reads steps mode expression [] (known ++ rest) [] :=
  fun passed => ⟨[], settles_of_glance told rest passed, rfl⟩

theorem Reads.followedBy (isFirst : Reads steps mode first taken (gap ++ (other ++ rest)) parts)
    (skips : Skips mode gap (other ++ rest)) (isSecond : Reads more mode second other rest others) :
    Reads (max steps more + 1) mode (.followedBy first second) (taken ++ (gap ++ other)) rest
      (parts ++ others) := by
  intro passed
  obtain ⟨left, leftSettles, leftRead⟩ := isFirst passed
  obtain ⟨right, rightSettles, rightRead⟩ := isSecond (passed + taken.length + gap.length)
  rw [← skips] at rightSettles
  have both := leftSettles.followedBy rightSettles
  simp only [List.append_assoc, List.length_append, ← Nat.add_assoc] at both ⊢
  exact ⟨left ++ right, both, readAll_append leftRead rightRead⟩

theorem Reads.next (isFirst : Reads steps mode first taken (other ++ rest) parts)
    (skips : Skips mode [] (other ++ rest)) (isSecond : Reads more mode second other rest others) :
    Reads (max steps more + 1) mode (.followedBy first second) (taken ++ other) rest (parts ++ others) :=
  isFirst.followedBy skips isSecond

theorem Fails.followedBy (fails : Fails steps mode first rest) :
    Fails (steps + 1) mode (.followedBy first second) rest :=
  fun passed => (fails passed).followedBy_failed

theorem Reads.followedBy_failed (isFirst : Reads steps mode first taken (gap ++ rest) parts)
    (skips : Skips mode gap rest) (fails : Fails more mode second rest) :
    Fails (max steps more + 1) mode (.followedBy first second) (taken ++ (gap ++ rest)) := by
  intro passed
  obtain ⟨left, leftSettles, _⟩ := isFirst passed
  have rightFails := fails (passed + taken.length + gap.length)
  rw [← skips] at rightFails
  exact leftSettles.followedBy_second_failed rightFails

theorem Reads.next_failed (isFirst : Reads steps mode first taken rest parts) (skips : Skips mode [] rest)
    (fails : Fails more mode second rest) :
    Fails (max steps more + 1) mode (.followedBy first second) (taken ++ rest) :=
  Reads.followedBy_failed isFirst skips fails

theorem Reads.orElse (isFirst : Reads steps mode first taken rest parts) :
    Reads (steps + 1) mode (.orElse first second) taken rest parts := by
  intro passed
  obtain ⟨trees, settles, read⟩ := isFirst passed
  exact ⟨trees, settles.orElse, read⟩

theorem Fails.orElse (fails : Fails steps mode first (taken ++ rest))
    (isSecond : Reads more mode second taken rest parts) :
    Reads (max steps more + 1) mode (.orElse first second) taken rest parts := by
  intro passed
  obtain ⟨trees, settles, read⟩ := isSecond passed
  exact ⟨trees, (fails passed).orElse_second settles, read⟩

theorem Fails.optional (fails : Fails steps mode inner rest) :
    Reads (steps + 2) mode (Peg.optional inner) [] rest [] := by
  have here : Fails steps mode inner ([] ++ rest) := fails
  exact (here.orElse (reads_nothing mode rest)).mono (by omega)

theorem Fails.orElse_failed (isFirst : Fails steps mode first rest) (isSecond : Fails more mode second rest) :
    Fails (max steps more + 1) mode (.orElse first second) rest :=
  fun passed => (isFirst passed).orElse_second (isSecond passed)

theorem Reads.repeated (round : Reads steps mode inner taken (other ++ rest) parts)
    (again : Reads more mode (.repeated true inner) other rest others) (notSpaced : mode ≠ .spaced)
    (notFirst : Bool) :
    Reads (max steps more + 1) mode (.repeated notFirst inner) (taken ++ other) rest (parts ++ others) := by
  intro passed
  obtain ⟨left, leftSettles, leftRead⟩ := round passed
  obtain ⟨right, rightSettles, rightRead⟩ := again (passed + taken.length)
  have stays : grammar.roundStart mode notFirst ⟨taken ++ (other ++ rest), passed⟩ = _ :=
    roundStart_of_ne notSpaced notFirst _
  rw [← stays] at leftSettles
  have both := leftSettles.repeated rightSettles
  rw [Nat.add_assoc, ← List.length_append, ← List.append_assoc] at both
  exact ⟨left ++ right, both, readAll_append leftRead rightRead⟩

theorem Fails.repeated (fails : Fails steps mode inner rest) (notSpaced : mode ≠ .spaced) (notFirst : Bool) :
    Reads (steps + 1) mode (.repeated notFirst inner) [] rest [] := by
  intro passed
  have innerFails := fails passed
  have stays : grammar.roundStart mode notFirst ⟨rest, passed⟩ = _ := roundStart_of_ne notSpaced notFirst _
  rw [← stays] at innerFails
  exact ⟨[], innerFails.repeated_done, rfl⟩

section Choices

variable {failing : List (Peg Rule)}

theorem oneOf_cons (first : Peg Rule) {alternatives : List (Peg Rule)} (more : alternatives ≠ []) :
    oneOf (first :: alternatives) = .orElse first (oneOf alternatives) := by
  cases alternatives with
  | nil => exact absurd rfl more
  | cons second alternatives => rfl

/-- What is read by the first of several alternatives that does not fail. -/
theorem reads_oneOf (fails : ∀ alternative ∈ failing, Fails steps mode alternative (taken ++ rest))
    (reads : Reads steps mode expression taken rest parts) (behind : List (Peg Rule)) :
    Reads (steps + failing.length + 1) mode (oneOf (failing ++ expression :: behind)) taken rest parts := by
  induction failing with
  | nil =>
      cases behind with
      | nil => exact reads.mono (by omega)
      | cons second behind => exact reads.orElse.mono (by simp)
  | cons first failing ih =>
      obtain ⟨firstFails, others⟩ := List.forall_mem_cons.mp fails
      rw [List.cons_append, oneOf_cons first (by simp)]
      refine (firstFails.orElse (ih others)).mono ?_
      rw [List.length_cons]
      omega

theorem fails_oneOf (fails : ∀ alternative ∈ failing, Fails steps mode alternative rest)
    (some : failing ≠ []) : Fails (steps + failing.length) mode (oneOf failing) rest := by
  induction failing with
  | nil => exact absurd rfl some
  | cons first failing ih =>
      obtain ⟨firstFails, others⟩ := List.forall_mem_cons.mp fails
      cases failing with
      | nil => exact firstFails.mono (by simp)
      | cons second failing =>
          refine (firstFails.orElse_failed (ih others (by simp))).mono ?_
          simp only [List.length_cons]
          omega

end Choices

variable {rule : Rule} {inside : Mode}

theorem Reads.call {fragment : Fragment} (isBody : Reads steps inside rule.body taken rest parts)
    (isInside : inside = bodyMode rule.kind mode) (isSeen : seenIn rule.kind mode ≠ .atomic)
    (read : readRule rule taken parts = .ok fragment) :
    Reads (steps + 1) mode (.call rule) taken rest [fragment] := by
  intro passed
  rw [isInside] at isBody
  obtain ⟨trees, settles, bodyRead⟩ := isBody passed
  have called := settles.call
  have length : passed + taken.length - passed = taken.length := Nat.add_sub_cancel_left passed taken.length
  have leaves : grammar.leaving mode .forward rule taken trees = [.node rule taken trees] :=
    if_pos ⟨isSeen, rfl⟩
  rw [length, List.take_left, leaves] at called
  refine ⟨_, called, ?_⟩
  rw [readAll, Tree.read, bodyRead]
  change (do let first ← readRule rule taken parts; _) = _
  rw [read]
  rfl

/-- Inside of an atomic rule a rule leaves no tree. -/
theorem Reads.call_hidden (isBody : Reads steps inside rule.body taken rest parts)
    (isInside : inside = bodyMode rule.kind mode) (hidden : seenIn rule.kind mode = .atomic) :
    Reads (steps + 1) mode (.call rule) taken rest parts := by
  intro passed
  rw [isInside] at isBody
  obtain ⟨trees, settles, read⟩ := isBody passed
  have called := settles.call
  have leaves (text : Text) : grammar.leaving mode .forward rule text trees = trees :=
    if_neg fun seen => seen.1 hidden
  rw [leaves] at called
  exact ⟨trees, called, read⟩

theorem Fails.call (fails : Fails steps inside rule.body rest)
    (isInside : inside = bodyMode rule.kind mode) : Fails (steps + 1) mode (.call rule) rest := by
  intro passed
  rw [isInside] at fails
  exact (fails passed).call_failed

end Operators

section Names

/-- A character that a name may begin with. -/
def isNameFirst (character : Char) : Bool :=
  ('a' ≤ character && character ≤ 'z') || ('A' ≤ character && character ≤ 'Z') || character = '_'

def isNamePart (character : Char) : Bool :=
  isNameFirst character || ('0' ≤ character && character ≤ '9')

/-- A name: a letter or an underscore, and behind it digits as well. -/
structure Name where
  first : Char
  others : Text
  starts : isNameFirst first = true
  goesOn : ∀ character ∈ others, isNamePart character = true

def Name.text (name : Name) : Text :=
  name.first :: name.others

/-- Names joined by dots. -/
structure DottedName where
  head : Name
  fields : List Name

namespace DottedName

/-- The fields with the dots before them. -/
def tail (fields : List Name) : Text :=
  fields.flatMap fun field => '.' :: field.text

def text (path : DottedName) : Text :=
  path.head.text ++ tail path.fields

end DottedName

theorem not_isBlank_of_isNameFirst {character : Char} (starts : isNameFirst character = true) :
    isBlank character = false := by
  refine Bool.eq_false_iff.mpr fun blank => ?_
  simp only [Rule.isBlank, Bool.or_eq_true, decide_eq_true_eq, or_assoc] at blank
  rcases blank with rfl | rfl | rfl | rfl <;> cases starts

theorem accepts_underscore (character : Char) :
    accepts character (word "_" : Peg Rule) = decide (character = '_') := by
  change decide (['_'] = [character]) = _
  simp [eq_comm]

theorem accepts_nameStart (character : Char) : accepts character nameStart = isNameFirst character := by
  simp only [nameStart, oneOf, accepts, accepts_underscore, isNameFirst, Bool.or_assoc]

theorem accepts_nameChar (character : Char) : accepts character nameChar = isNamePart character := by
  simp only [nameChar, oneOf, accepts, accepts_underscore, isNamePart, isNameFirst, Bool.or_assoc]

/-- A text before which a name ends. -/
def EndsName (rest : Text) : Prop :=
  ∀ character, rest.head? = some character → isNamePart character = false

theorem reads_nameStart {character : Char} (starts : isNameFirst character = true) (mode : Mode)
    (rest : Text) : Reads 3 mode nameStart [character] rest [] :=
  reads_of_settles fun _ => settles_class (by decide) ((accepts_nameStart character).trans starts)

theorem reads_nameChar {character : Char} (isPart : isNamePart character = true) (mode : Mode)
    (rest : Text) : Reads 4 mode nameChar [character] rest [] :=
  reads_of_settles fun _ => settles_class (by decide) ((accepts_nameChar character).trans isPart)

theorem reads_nameChars {letters : Text} (notSpaced : mode ≠ .spaced)
    (named : ∀ character ∈ letters, isNamePart character = true) (ends : EndsName rest) (notFirst : Bool) :
    Reads (letters.length + 5) mode (.repeated notFirst nameChar) letters rest [] := by
  refine reads_of_settles fun passed => ?_
  have settles : grammar.Settles _ mode .forward (.repeated notFirst nameChar) ⟨letters ++ rest, passed⟩ _ :=
    settles_repeated_class (by decide) notSpaced
      (fun character member => (accepts_nameChar character).trans (named character member))
      (fun character ahead => (accepts_nameChar character).trans (ends character ahead)) notFirst
  exact settles.mono (by simp [choices, nameChar, oneOf, word]; omega)

theorem reads_name (name : Name) (notSpaced : mode ≠ .spaced) (ends : EndsName rest) :
    Reads (name.others.length + 6) mode (all [nameStart, many nameChar]) name.text rest [] :=
  ((reads_nameStart name.starts mode _).next (skips_nil notSpaced _)
    (reads_nameChars notSpaced name.goesOn ends false)).mono (by omega)

theorem reads_ident (name : Name) (ends : EndsName rest) :
    Reads (name.others.length + 7) .spaced (call .ident) name.text rest
      [.name (String.ofList name.text)] := by
  have read : Reads _ .atomic (body .ident) name.text rest _ := reads_name name (by decide) ends
  exact read.call rfl (by decide) rfl

/-- A text before which a path ends. -/
def EndsPath (rest : Text) : Prop :=
  ∀ character, rest.head? = some character →
    isNamePart character = false ∧ character ≠ '.' ∧ character ≠ '['

theorem EndsPath.endsName (ends : EndsPath rest) : EndsName rest :=
  fun character ahead => (ends character ahead).1

theorem EndsPath.not_prefix {character : Char} {behind : Text} (ends : EndsPath rest)
    (isOpening : character = '.' ∨ character = '[') : ¬ character :: behind <+: rest := by
  rintro ⟨_, rfl⟩
  obtain ⟨-, notDot, notBracket⟩ := ends character rfl
  rcases isOpening with isDot | isBracket
  · exact notDot isDot
  · exact notBracket isBracket

theorem EndsPath.endsName_tail (ends : EndsPath rest) (fields : List Name) :
    EndsName (DottedName.tail fields ++ rest) := by
  cases fields with
  | nil => exact ends.endsName
  | cons field fields =>
      rintro _ ⟨⟩
      decide

/-- A dot and a name behind it. -/
def fieldPart : Peg Rule :=
  all [word ".", Peg.some nameChar]

theorem EndsPath.fails_fieldPart (ends : EndsPath rest) (mode : Mode) : Fails 2 mode fieldPart rest :=
  Fails.followedBy fun _ => settles_exactly_failed (ends.not_prefix (.inl rfl))

theorem EndsPath.fails_brackets (ends : EndsPath rest) (mode : Mode) : Fails 3 mode (call .brackets) rest :=
  Fails.call (Fails.followedBy fun _ => settles_exactly_failed (ends.not_prefix (.inr rfl))) rfl

theorem reads_fields (fields : List Name) (ends : EndsPath rest) (notSpaced : mode ≠ .spaced)
    (notFirst : Bool) :
    Reads ((DottedName.tail fields).length + 9) mode (.repeated notFirst fieldPart)
      (DottedName.tail fields) rest [] := by
  induction fields generalizing notFirst with
  | nil => exact ((ends.fails_fieldPart mode).repeated notSpaced notFirst).mono (by simp [DottedName.tail])
  | cons field fields ih =>
      have isPart : isNamePart field.first = true := by rw [isNamePart, field.starts, Bool.true_or]
      have noSpaces (rest : Text) : Skips mode [] rest := skips_nil notSpaced rest
      have letters := reads_nameChars notSpaced field.goesOn (ends.endsName_tail fields) false
      have round := (reads_word "." mode _).next (noSpaces _)
        ((reads_nameChar isPart mode _).next (noSpaces _) letters)
      refine (round.repeated (ih true) notSpaced notFirst).mono ?_
      simp only [DottedName.tail, List.flatMap_cons, List.length_append, List.length_cons, Name.text]
      omega

theorem reads_path (path : DottedName) (ends : EndsPath rest) :
    Reads (path.text.length + 20) .spaced (call .path) path.text rest
      [.operand (.path (String.ofList path.text))] := by
  have atomic : Mode.atomic ≠ .spaced := by decide
  have noSpaces (rest : Text) : Skips .atomic [] rest := skips_nil atomic rest
  have letters := reads_nameChars atomic path.head.goesOn (ends.endsName_tail path.fields) false
  have dotted : Reads _ .atomic (call .dottedIdent) _ rest _ :=
    ((reads_nameStart path.head.starts .atomic _).next (noSpaces _)
      (letters.next (noSpaces _) (reads_fields path.fields ends atomic false))).call_hidden rfl rfl
  have nothingMore : Reads _ .atomic (many (oneOf [fieldPart, call .brackets])) [] rest [] :=
    ((ends.fails_fieldPart .atomic).orElse_failed (ends.fails_brackets .atomic)).repeated atomic false
  have whole : Reads _ .atomic (body .path) _ rest _ := dotted.next (noSpaces _) nothingMore
  have textEq : [path.head.first] ++ (path.head.others ++ DottedName.tail path.fields) ++ [] = path.text := by
    simp [DottedName.text, Name.text]
  rw [textEq] at whole
  have called : Reads _ .spaced (call .path) path.text rest _ := whole.call rfl (by decide) rfl
  refine called.mono ?_
  simp only [DottedName.text, Name.text, List.length_append, List.length_cons]
  omega

end Names

section Paths

/-- Whether nothing but a path can begin with a character. -/
def onlyPath (first : Char) : Bool :=
  [word "(", call .boolean, call .opNot, call .float, call .int, call .string].all fun expression =>
    grammar.glance 12 expression [first] = some false

/-- What stands behind a path in a tag: blanks, and the end of the tag. -/
structure Ending where
  gap : Text
  blank : ∀ character ∈ gap, isBlank character = true
  behind : Text

namespace Ending

variable (ending : Ending)

def stop : Text :=
  ['}', '}'] ++ ending.behind

theorem steady_stop : grammar.Steady ending.stop := by
  rintro _ ⟨⟩
  decide

theorem skips_gap : Skips .spaced ending.gap ending.stop :=
  skips_of_blank ending.blank ending.steady_stop

theorem endsPath : EndsPath (ending.gap ++ ending.stop) := by
  obtain ⟨gap, blank, behind⟩ := ending
  cases gap with
  | nil =>
      rintro _ ⟨⟩
      decide
  | cons character gap =>
      rintro _ ⟨⟩
      have isBlank := blank character List.mem_cons_self
      simp only [Rule.isBlank, Bool.or_eq_true, decide_eq_true_eq, or_assoc] at isBlank
      rcases isBlank with rfl | rfl | rfl | rfl <;> decide

end Ending

variable {ending : Ending}

theorem fails_stop (told : grammar.glance 12 expression ['}', '}'] = some false) (mode : Mode) :
    Fails 12 mode expression ending.stop :=
  fails_of_glance told mode ending.behind

theorem reads_stop (told : grammar.glance 12 expression ['}', '}'] = some true) (mode : Mode) :
    Reads 12 mode expression [] ending.stop [] :=
  reads_of_glance told mode ending.behind

/-- What is optional behind a path is not there. -/
theorem Reads.ends (isFirst : Reads steps .spaced first taken (ending.gap ++ ending.stop) parts)
    (told : grammar.glance 12 second ['}', '}'] = some true) :
    Reads (max steps 12 + 1) .spaced (.followedBy first second) (taken ++ ending.gap) ending.stop parts := by
  have before : Reads steps .spaced first taken (ending.gap ++ ([] ++ ending.stop)) parts := isFirst
  have both := before.followedBy ending.skips_gap (reads_stop told .spaced)
  rwa [List.append_nil, List.append_nil] at both

theorem Reads.stops (isFirst : Reads steps .spaced first taken ending.stop parts)
    (told : grammar.glance 12 second ['}', '}'] = some true) :
    Reads (max steps 12 + 1) .spaced (.followedBy first second) taken ending.stop parts := by
  have before : Reads steps .spaced first taken ([] ++ ending.stop) parts := isFirst
  have both := before.next (skips_nil_of_steady ending.steady_stop _) (reads_stop told .spaced)
  rwa [List.append_nil, List.append_nil] at both

/-- What has to stand behind a path is not there. -/
theorem Reads.ends_failed (isFirst : Reads steps .spaced first taken (ending.gap ++ ending.stop) parts)
    (told : grammar.glance 12 second ['}', '}'] = some false) :
    Fails (max steps 12 + 1) .spaced (.followedBy first second)
      (taken ++ (ending.gap ++ ending.stop)) :=
  isFirst.followedBy_failed ending.skips_gap (fails_stop told .spaced)

theorem Reads.stops_failed (isFirst : Reads steps .spaced first taken ending.stop parts)
    (told : grammar.glance 12 second ['}', '}'] = some false) :
    Fails (max steps 12 + 1) .spaced (.followedBy first second) (taken ++ ending.stop) :=
  isFirst.next_failed (skips_nil_of_steady ending.steady_stop _) (fails_stop told .spaced)

/-- A name in front of a path does not begin a call. -/
theorem fails_afterIdent {path : DottedName} (ending : Ending)
    (atDot : grammar.glance 12 expression ['.'] = some false)
    (atStop : grammar.glance 12 expression ['}', '}'] = some false) :
    Fails (path.text.length + 12) .spaced (.followedBy (call .ident) expression)
      (path.text ++ (ending.gap ++ ending.stop)) := by
  obtain ⟨head, fields⟩ := path
  have ident := reads_ident head (ending.endsPath.endsName_tail fields)
  have short : head.others.length + 1 ≤ (DottedName.text ⟨head, fields⟩).length := by
    simp only [DottedName.text, Name.text, List.length_append, List.length_cons]
    omega
  cases fields with
  | nil =>
      have textEq : DottedName.text ⟨head, []⟩ = head.text := List.append_nil _
      rw [textEq] at short ⊢
      exact (ident.ends_failed atStop).mono (by omega)
  | cons field fields =>
      let behind := field.text ++ (DottedName.tail fields ++ (ending.gap ++ ending.stop))
      have atTail : DottedName.tail (field :: fields) ++ (ending.gap ++ ending.stop) = ['.'] ++ behind := by
        simp [DottedName.tail, behind]
      have steady : grammar.Steady (['.'] ++ behind) := by
        rintro _ ⟨⟩
        decide
      rw [DottedName.text, List.append_assoc, atTail]
      rw [atTail] at ident
      refine (ident.next_failed (skips_nil_of_steady steady _) (fails_of_glance atDot .spaced behind)).mono ?_
      rw [DottedName.text] at short
      omega

/-- A path in front of the end of a tag, which nothing but a path can begin with. -/
structure PathInTag extends Ending where
  path : DottedName
  alone : onlyPath path.head.first = true

namespace PathInTag

variable (tag : PathInTag)

def text : Text :=
  tag.path.text

/-- The path as an expression of its own. -/
def printed : Expr :=
  .plain (.path (String.ofList tag.text))

/-- The path is read in front of the blanks. -/
abbrev ReadsPath (more : Nat) (expression : Peg Rule) : Prop :=
  Reads (tag.text.length + more) .spaced expression tag.text (tag.gap ++ tag.stop)
    [.operand (.path (String.ofList tag.text))]

/-- The path is read together with the blanks behind it. -/
abbrev ReadsAll (more : Nat) (expression : Peg Rule) (fragment : Fragment) : Prop :=
  Reads (tag.text.length + more) .spaced expression (tag.text ++ tag.gap) tag.stop [fragment]

abbrev FailsHere (more : Nat) (expression : Peg Rule) : Prop :=
  Fails (tag.text.length + more) .spaced expression (tag.text ++ (tag.gap ++ tag.stop))

theorem fails_keyword {keyword : Peg Rule}
    (member : keyword ∈ [word "(", call .boolean, call .opNot, call .float, call .int, call .string]) :
    tag.FailsHere 12 keyword := by
  have told : grammar.glance 12 keyword [tag.path.head.first] = some false :=
    of_decide_eq_true (List.all_eq_true.mp tag.alone keyword member)
  have fails : Fails 12 .spaced keyword (tag.text ++ (tag.gap ++ tag.stop)) :=
    fails_of_glance told .spaced
      (tag.path.head.others ++ DottedName.tail tag.path.fields ++ (tag.gap ++ tag.stop))
  exact fails.mono (by omega)

theorem steady_text (rest : Text) : grammar.Steady (tag.text ++ rest) := by
  rintro _ ⟨⟩
  exact not_isBlank_of_isNameFirst tag.path.head.starts

theorem readsPath_path : tag.ReadsPath 20 (call .path) :=
  reads_path tag.path tag.endsPath

theorem fails_testNot : tag.FailsHere 22 (call .testNot) := by
  have fails : Fails _ .spaced (body .testNot) _ := tag.readsPath_path.ends_failed (by decide)
  exact (fails.call rfl).mono (by omega)

theorem fails_test : tag.FailsHere 22 (call .test) := by
  have fails : Fails _ .spaced (body .test) _ := tag.readsPath_path.ends_failed (by decide)
  exact (fails.call rfl).mono (by omega)

theorem fails_macroCall : tag.FailsHere 13 (call .macroCall) := by
  have fails : Fails _ .spaced (body .macroCall) (tag.text ++ _) :=
    fails_afterIdent tag.toEnding (by decide) (by decide)
  exact fails.call rfl

theorem fails_fnCall : tag.FailsHere 13 (call .fnCall) := by
  have fails : Fails _ .spaced (body .fnCall) (tag.text ++ _) :=
    fails_afterIdent tag.toEnding (by decide) (by decide)
  exact fails.call rfl

theorem readsPath_basicVal : tag.ReadsPath 27 basicVal := by
  have found : Reads _ .spaced (oneOf [call .path, call .float, call .int]) tag.text _ _ :=
    tag.readsPath_path.orElse
  have value : Reads _ .spaced basicVal tag.text _ _ :=
    (tag.fails_keyword (by simp)).orElse (tag.fails_testNot.orElse (tag.fails_test.orElse
      (tag.fails_macroCall.orElse (tag.fails_fnCall.orElse found))))
  exact value.mono (by omega)

theorem readsAll_basicExpr :
    tag.ReadsAll 30 (call .basicExpr) (.operand (.path (String.ofList tag.text))) := by
  have noParentheses : Fails _ .spaced (all [word "(", call .basicExpr, word ")"]) _ :=
    (tag.fails_keyword (by simp)).followedBy
  have single : Reads _ .spaced operand tag.text _ _ := noParentheses.orElse tag.readsPath_basicVal
  have read : Reads _ .spaced (body .basicExpr) _ tag.stop _ := single.ends (by decide)
  have called : Reads _ .spaced (call .basicExpr) _ tag.stop _ := read.call rfl (by decide) rfl
  exact called.mono (by omega)

theorem readsAll_basicExprFilter : tag.ReadsAll 32 (call .basicExprFilter) (.expr tag.printed) := by
  have read : Reads _ .spaced (body .basicExprFilter) _ tag.stop _ := tag.readsAll_basicExpr.stops (by decide)
  have called : Reads _ .spaced (call .basicExprFilter) _ tag.stop _ := read.call rfl (by decide) rfl
  exact called.mono (by omega)

theorem readsAll_comparisonVal : tag.ReadsAll 34 (call .comparisonVal) (.expr tag.printed) := by
  have read : Reads _ .spaced (body .comparisonVal) _ tag.stop _ :=
    tag.readsAll_basicExprFilter.stops (by decide)
  have called : Reads _ .spaced (call .comparisonVal) _ tag.stop _ := read.call rfl (by decide) rfl
  exact called.mono (by omega)

theorem readsPath_joined : tag.ReadsPath 24 joined := by
  have noFloat : tag.FailsHere 12 (call .float) := tag.fails_keyword (by simp)
  have noInt : tag.FailsHere 12 (call .int) := tag.fails_keyword (by simp)
  have noString : tag.FailsHere 12 (call .string) := tag.fails_keyword (by simp)
  have read : Reads _ .spaced joined tag.text _ _ :=
    tag.fails_fnCall.orElse (noFloat.orElse (noInt.orElse (noString.orElse tag.readsPath_path)))
  exact read.mono (by omega)

theorem fails_concatenation : tag.FailsHere 26 (call .concatenation) := by
  have fails : Fails _ .spaced (body .concatenation) _ := tag.readsPath_joined.ends_failed (by decide)
  have called : Fails _ .spaced (call .concatenation) _ := fails.call rfl
  exact called.mono (by omega)

theorem fails_stringExprFilter :
    Fails (tag.text.length + 30) .spaced (call .stringExprFilter) (tag.text ++ tag.gap ++ tag.stop) := by
  have noString : tag.FailsHere 12 (call .string) := tag.fails_keyword (by simp)
  have fails : Fails _ .spaced (body .stringExprFilter) _ :=
    (tag.fails_concatenation.orElse_failed noString).followedBy
  have called : Fails _ .spaced (call .stringExprFilter) _ := fails.call rfl
  rw [List.append_assoc]
  exact called.mono (by omega)

theorem readsAll_comparisonExpr : tag.ReadsAll 40 (call .comparisonExpr) (.expr tag.printed) := by
  have side : Reads _ .spaced compared _ tag.stop _ :=
    tag.fails_stringExprFilter.orElse tag.readsAll_comparisonVal
  have read : Reads _ .spaced (body .comparisonExpr) _ tag.stop _ := side.stops (by decide)
  have called : Reads _ .spaced (call .comparisonExpr) _ tag.stop _ := read.call rfl (by decide) rfl
  exact called.mono (by omega)

theorem fails_inCond :
    Fails (tag.text.length + 40) .spaced (call .inCond) (tag.text ++ tag.gap ++ tag.stop) := by
  have side : Reads _ .spaced (oneOf [call .stringExprFilter, call .basicExprFilter]) _ tag.stop _ :=
    tag.fails_stringExprFilter.orElse tag.readsAll_basicExprFilter
  have fails : Fails _ .spaced (body .inCond) _ := side.stops_failed (by decide)
  exact (fails.call rfl).mono (by omega)

/-- Every other form of expression fails, and what is left is the path. -/
theorem readsAll_logicExpr : tag.ReadsAll 48 (call .logicExpr) (.expr tag.printed) := by
  have noNot : tag.FailsHere 12 (call .opNot) := tag.fails_keyword (by simp)
  have notNegated : Reads _ .spaced (optional (call .opNot)) [] (tag.text ++ (tag.gap ++ tag.stop)) _ :=
    noNot.optional
  have condition : Reads _ .spaced (oneOf [call .inCond, call .comparisonExpr]) _ tag.stop _ :=
    tag.fails_inCond.orElse tag.readsAll_comparisonExpr
  have steady := tag.steady_text (tag.gap ++ tag.stop)
  rw [← List.append_assoc] at notNegated steady
  have value : Reads _ .spaced (body .logicVal) _ tag.stop _ :=
    (notNegated.next (skips_nil_of_steady steady _) condition).orElse
  have calledValue : Reads _ .spaced (call .logicVal) _ tag.stop _ := value.call rfl (by decide) rfl
  have read : Reads _ .spaced (body .logicExpr) _ tag.stop _ := calledValue.stops (by decide)
  have called : Reads _ .spaced (call .logicExpr) _ tag.stop _ := read.call rfl (by decide) rfl
  exact called.mono (by omega)

end PathInTag

end Paths

end ThemedViews.Template
