import ThemedViews.Proofs.NonceIndependence
import ThemedViews.Proofs.PathReading

/-!
# Reading templates of texts and printed paths

A text in which no tag begins is read as one text, also where single braces stand
in it.  A template that is made of such texts and of tags that print paths is read
as a list of these, one after another.
-/

namespace ThemedViews.Template

open Grammar Rule
open Peg (word all oneOf optional many call)

variable {steps more : Nat} {mode : Mode} {sight : Sight} {expression : Peg Rule} {taken rest : Text}
  {parts others : List Fragment}

/-- A tag begins in front of a text. -/
def OpensTag (text : Text) : Prop :=
  ['{', '{'] <+: text ∨ ['{', '%'] <+: text ∨ ['{', '#'] <+: text

/-- No tag begins in a text, seen with the text behind it. -/
def Untagged : Text → Text → Prop
  | [], _ => True
  | first :: piece, rest => ¬ OpensTag (first :: (piece ++ rest)) ∧ Untagged piece rest

section Starts

/-- A dash may stand behind the two characters that begin a tag. -/
theorem settles_start_failed {opening : Text} (differs : ¬ opening <+: rest) (mode : Mode) (passed : Nat) :
    grammar.Settles 2 mode sight (.orElse (.exactly (opening ++ ['-'])) (.exactly opening)) ⟨rest, passed⟩
      .failed := by
  have longer : ¬ opening ++ ['-'] <+: rest := fun isPrefix =>
    differs ((List.prefix_append ..).trans isPrefix)
  exact (settles_exactly_failed longer).orElse_second (settles_exactly_failed differs)

theorem exists_settles_start {opening : Text} (isPrefix : opening <+: rest) (mode : Mode) (sight : Sight)
    (passed : Nat) :
    ∃ behind, grammar.Settles 2 mode sight (.orElse (.exactly (opening ++ ['-'])) (.exactly opening))
      ⟨rest, passed⟩ (.matched [] behind) := by
  by_cases dashed : opening ++ ['-'] <+: rest
  · obtain ⟨behind, rfl⟩ := dashed
    exact ⟨_, (settles_exactly (opening ++ ['-']) behind passed).orElse⟩
  · obtain ⟨behind, rfl⟩ := isPrefix
    exact ⟨_, (settles_exactly_failed dashed).orElse_second (settles_exactly opening behind passed)⟩

/-- What a rule for the beginning of a tag begins with. -/
def opening? : Rule → Option Text
  | .printStart => some ['{', '{']
  | .tagStart => some ['{', '%']
  | .commentStart => some ['{', '#']
  | _ => none

theorem body_of_opening? {start : Rule} {opening : Text} (opens : opening? start = some opening) :
    Rule.body start = .orElse (.exactly (opening ++ ['-'])) (.exactly opening) := by
  cases start with
  | printStart | tagStart | commentStart =>
      cases opens
      rfl
  | _ => cases opens

theorem settles_opening_failed {start : Rule} {opening : Text} (opens : opening? start = some opening)
    (differs : ¬ opening <+: rest) (mode : Mode) (passed : Nat) :
    grammar.Settles 3 mode sight (call start) ⟨rest, passed⟩ .failed := by
  refine Settles.call_failed ?_
  change grammar.Settles 2 _ _ (Rule.body start) _ _
  rw [body_of_opening? opens]
  exact settles_start_failed differs _ passed

theorem exists_settles_opening {start : Rule} {opening : Text} (opens : opening? start = some opening)
    (isPrefix : opening <+: rest) (mode : Mode) (sight : Sight) (passed : Nat) :
    ∃ trees behind, grammar.Settles 3 mode sight (call start) ⟨rest, passed⟩ (.matched trees behind) := by
  obtain ⟨behind, settles⟩ := exists_settles_start isPrefix (bodyMode start.kind mode) sight passed
  rw [← body_of_opening? opens] at settles
  exact ⟨_, _, Settles.call settles⟩

section AnyStart

variable (mode : Mode) (sight : Sight) (passed : Nat)

theorem settles_printStart_failed (differs : ¬ ['{', '{'] <+: rest) :
    grammar.Settles 3 mode sight (call .printStart) ⟨rest, passed⟩ .failed :=
  settles_opening_failed rfl differs mode passed

theorem settles_tagStart_failed (differs : ¬ ['{', '%'] <+: rest) :
    grammar.Settles 3 mode sight (call .tagStart) ⟨rest, passed⟩ .failed :=
  settles_opening_failed rfl differs mode passed

theorem settles_commentStart_failed (differs : ¬ ['{', '#'] <+: rest) :
    grammar.Settles 3 mode sight (call .commentStart) ⟨rest, passed⟩ .failed :=
  settles_opening_failed rfl differs mode passed

theorem settles_anyStart_failed (opensNot : ¬ OpensTag rest) :
    grammar.Settles 5 mode sight anyStart ⟨rest, passed⟩ .failed := by
  simp only [OpensTag, not_or] at opensNot
  exact (settles_printStart_failed mode sight passed opensNot.1).orElse_second
    ((settles_tagStart_failed mode sight passed opensNot.2.1).orElse_second
      (settles_commentStart_failed mode sight passed opensNot.2.2))

theorem exists_settles_anyStart (opens : OpensTag rest) :
    ∃ trees behind, grammar.Settles 5 mode sight anyStart ⟨rest, passed⟩ (.matched trees behind) := by
  have start (rule : Rule) {opening : Text} (named : opening? rule = some opening)
      (isPrefix : opening <+: rest) :
      ∃ trees behind, grammar.Settles 3 mode sight (call rule) ⟨rest, passed⟩ (.matched trees behind) :=
    exists_settles_opening named isPrefix mode sight passed
  by_cases prints : ['{', '{'] <+: rest
  · obtain ⟨trees, behind, settles⟩ := start .printStart rfl prints
    exact ⟨trees, behind, settles.orElse.mono (by omega)⟩
  have noPrint := settles_printStart_failed mode sight passed prints
  by_cases states : ['{', '%'] <+: rest
  · obtain ⟨trees, behind, settles⟩ := start .tagStart rfl states
    exact ⟨trees, behind, (noPrint.orElse_second settles.orElse)⟩
  have noStatement := settles_tagStart_failed mode sight passed states
  obtain ⟨trees, behind, settles⟩ := start .commentStart rfl ((opens.resolve_left prints).resolve_left states)
  exact ⟨trees, behind, noPrint.orElse_second (noStatement.orElse_second settles)⟩

end AnyStart

end Starts

section Texts

/-- A text behind which another one does not go on. -/
def EndsText (rest : Text) : Prop :=
  rest = [] ∨ OpensTag rest

/-- One character at which no tag begins. -/
def textPart : Peg Rule :=
  all [.absent anyStart, .any]

theorem reads_textPart {character : Char} (opensNot : ¬ OpensTag (character :: rest))
    (notSpaced : mode ≠ .spaced) :
    Reads 7 mode textPart [character] rest [] := by
  refine reads_of_settles fun passed => ?_
  have absent := (settles_anyStart_failed mode Sight.forward.inverted passed opensNot).absent
  have taken : grammar.Settles 1 mode .forward .any
      (grammar.skipped mode ⟨character :: rest, passed⟩) (.matched [] ⟨rest, passed + 1⟩) := by
    rw [skipped_of_ne notSpaced]
    exact settles_any
  exact absent.followedBy taken

theorem fails_textPart (ends : EndsText rest) (notSpaced : mode ≠ .spaced) : Fails 7 mode textPart rest := by
  intro passed
  rcases ends with rfl | opens
  · have noTag : ¬ OpensTag [] := by simp [OpensTag]
    have absent := (settles_anyStart_failed mode Sight.forward.inverted passed noTag).absent
    have nothing : grammar.Settles 1 mode .forward .any (grammar.skipped mode ⟨[], passed⟩) .failed := by
      rw [skipped_of_ne notSpaced]
      exact settles_any_end
    exact absent.followedBy_second_failed nothing
  · obtain ⟨trees, behind, settles⟩ := exists_settles_anyStart mode Sight.forward.inverted passed opens
    exact settles.absent_failed.followedBy_failed.mono (by omega)

theorem reads_textParts {piece : Text} (untagged : Untagged piece rest) (ends : EndsText rest)
    (notSpaced : mode ≠ .spaced) (notFirst : Bool) :
    Reads (piece.length + 8) mode (.repeated notFirst textPart) piece rest [] := by
  induction piece generalizing notFirst with
  | nil => exact ((fails_textPart ends notSpaced).repeated notSpaced notFirst).mono (by simp)
  | cons character piece ih =>
      refine ((reads_textPart untagged.1 notSpaced).repeated (ih untagged.2 true) notSpaced notFirst).mono ?_
      rw [List.length_cons]
      omega

theorem reads_text {piece : Text} (untagged : Untagged piece rest) (some : piece ≠ []) (ends : EndsText rest)
    (mode : Mode) : Reads (piece.length + 10) mode (call .text) piece rest [.nodes [.text piece]] := by
  obtain ⟨character, piece, rfl⟩ := List.exists_cons_of_ne_nil some
  have compound : Mode.compound ≠ .spaced := by decide
  have read : Reads _ .compound (Rule.body .text) (character :: piece) rest _ :=
    (reads_textPart untagged.1 compound).next (skips_nil compound _)
      (reads_textParts untagged.2 ends compound false)
  have isSeen : seenIn (Rule.kind .text) mode ≠ .atomic := fun same : Mode.compound = .atomic => nomatch same
  have called : Reads _ mode (call .text) _ rest _ := read.call rfl isSeen rfl
  refine called.mono ?_
  rw [List.length_cons]
  omega

end Texts

section Tags

/-- A tag that prints a path. -/
structure PathTag where
  path : DottedName
  alone : onlyPath path.head.first = true
  before : Text
  blankBefore : ∀ character ∈ before, isBlank character = true
  after : Text
  blankAfter : ∀ character ∈ after, isBlank character = true

namespace PathTag

variable (tag : PathTag) (behind : Text)

def print : Text :=
  ['{', '{'] ++ (tag.before ++ (tag.path.text ++ (tag.after ++ ['}', '}'])))

/-- The path of a tag, seen with what stands behind it. -/
def inFrontOf : PathInTag where
  gap := tag.after
  blank := tag.blankAfter
  behind := behind
  path := tag.path
  alone := tag.alone

def node : Node :=
  .print ⟨false, false⟩ (.plain (.path (String.ofList tag.path.text)))

theorem not_dash_prefix : ¬ ['-'] <+: tag.before ++ (tag.path.text ++ behind) := by
  obtain ⟨⟨head, fields⟩, -, before, blankBefore, -, -⟩ := tag
  rintro ⟨rest, same⟩
  cases before with
  | nil =>
      have isDash : '-' = head.first := (List.cons.inj same).1
      have starts := head.starts
      rw [← isDash] at starts
      cases starts
  | cons character before =>
      have isDash : '-' = character := (List.cons.inj same).1
      have blank := blankBefore character List.mem_cons_self
      rw [← isDash] at blank
      cases blank

theorem reads_printStart :
    Reads 4 .spaced (call .printStart) ['{', '{'] (tag.before ++ (tag.path.text ++ behind))
      [.opened false] := by
  have noDash : Fails 1 .spaced (word "\x7b\x7b-")
      (['{', '{'] ++ (tag.before ++ (tag.path.text ++ behind))) := by
    refine fun passed => settles_exactly_failed fun isPrefix => tag.not_dash_prefix behind ?_
    exact (List.prefix_append_right_inj ['{', '{']).mp isPrefix
  have read :
      Reads _ .spaced (Rule.body .printStart) ['{', '{'] (tag.before ++ (tag.path.text ++ behind)) _ :=
    noDash.orElse (reads_word "\x7b\x7b" .spaced _)
  have called : Reads _ .spaced (call .printStart) _ (tag.before ++ (tag.path.text ++ behind)) _ :=
    read.call rfl (by decide) rfl
  exact called.mono (by omega)

theorem reads_printEnd : Reads 14 .spaced (call .printEnd) ['}', '}'] behind [.closed false] := by
  have noDash : Fails 12 .spaced (word "-\x7d\x7d") (['}', '}'] ++ behind) :=
    fails_of_glance (by decide) .spaced behind
  have read : Reads _ .spaced (Rule.body .printEnd) ['}', '}'] behind _ :=
    noDash.orElse (reads_word "\x7d\x7d" .spaced behind)
  have called : Reads _ .spaced (call .printEnd) _ behind _ := read.call rfl (by decide) rfl
  exact called.mono (by omega)

theorem reads_printTag (mode : Mode) :
    Reads (tag.print.length + 60) mode (call .printTag) tag.print behind [.nodes [tag.node]] := by
  let inside := tag.inFrontOf behind
  have value : Reads _ .spaced assigned (tag.path.text ++ tag.after) inside.stop [.expr inside.printed] :=
    inside.readsAll_logicExpr.orElse
  have ends : Reads _ .spaced _ _ behind _ :=
    value.next (skips_nil_of_steady inside.steady_stop _) (reads_printEnd behind)
  have start : Reads 4 .spaced (call .printStart) ['{', '{']
      (tag.before ++ (tag.path.text ++ tag.after ++ ['}', '}'] ++ behind)) [.opened false] := by
    simpa only [List.append_assoc] using tag.reads_printStart (tag.after ++ (['}', '}'] ++ behind))
  have steady : grammar.Steady (tag.path.text ++ (tag.after ++ (['}', '}'] ++ behind))) :=
    inside.steady_text _
  rw [← List.append_assoc, ← List.append_assoc] at steady
  have read : Reads _ .spaced (Rule.body .printTag) _ behind _ :=
    start.followedBy (skips_of_blank tag.blankBefore steady) ends
  have textEq : ['{', '{'] ++ (tag.before ++ (tag.path.text ++ tag.after ++ ['}', '}'])) = tag.print := by
    simp [print]
  have isSeen : seenIn (Rule.kind .printTag) mode ≠ .atomic :=
    fun same : Mode.spaced = .atomic => nomatch same
  rw [textEq] at read
  have called : Reads _ mode (call .printTag) tag.print behind [.nodes [tag.node]] := read.call rfl isSeen rfl
  refine called.mono ?_
  have length : inside.text.length ≤ tag.print.length := by
    simp only [print, inside, inFrontOf, PathInTag.text, List.length_append]
    omega
  omega

end PathTag

end Tags

section Contents

/-- Texts and tags in turn: a text, and tags with the text behind each of them. -/
def printed : List (PathTag × Text) → Text
  | [] => []
  | (tag, piece) :: tagged => tag.print ++ (piece ++ printed tagged)

/-- No tag begins in any of the texts. -/
def Placed : Text → List (PathTag × Text) → Prop
  | leading, [] => Untagged leading []
  | leading, (tag, piece) :: tagged =>
      Untagged leading (printed ((tag, piece) :: tagged)) ∧ Placed piece tagged

/-- An empty text is not read. -/
def textNodes (piece : Text) : List Node :=
  if piece.isEmpty then [] else [.text piece]

def nodesOf (leading : Text) (tagged : List (PathTag × Text)) : List Node :=
  textNodes leading ++ tagged.flatMap fun (tag, piece) => tag.node :: textNodes piece

theorem Placed.untagged {leading : Text} {tagged : List (PathTag × Text)} (placed : Placed leading tagged) :
    Untagged leading (printed tagged) := by
  cases tagged with
  | nil => exact placed
  | cons entry tagged => exact placed.1

theorem endsText_printed (tagged : List (PathTag × Text)) : EndsText (printed tagged) := by
  cases tagged with
  | nil => exact .inl rfl
  | cons entry tagged => exact .inr (.inl ⟨_, rfl⟩)

/-- A node is read alone. -/
def single (node : Node) : Fragment :=
  .nodes [node]

/-- The alternatives of content before texts. -/
def tagged : List (Peg Rule) :=
  [call .includeTag, call .printTag, call .commentTag, call .setTag, call .setGlobalTag, call .block,
    call .contentIf, call .forLoop, call .filterSection, call .raw]

/-- What a template consists of behind its heading. -/
def templatePart : Peg Rule :=
  oneOf [call .content, call .macroDefinition]

theorem fails_of_opensWith {start : Rule} (opens : grammar.opensWith start 8 expression = true)
    (fails : ∀ mode passed, grammar.Settles 3 mode .forward (call start) ⟨rest, passed⟩ .failed)
    (mode : Mode) :
    Fails 11 mode expression rest :=
  fun passed => settles_of_opensWith opens fun mode => fails mode passed

theorem fails_tagged (opensNot : ¬ OpensTag rest) (mode : Mode) :
    ∀ alternative ∈ tagged, Fails 11 mode alternative rest := by
  intro alternative member
  simp only [OpensTag, not_or] at opensNot
  have opens : ∀ alternative ∈ tagged, grammar.opensWith .tagStart 8 alternative = true ∨
      grammar.opensWith .printStart 8 alternative = true ∨
      grammar.opensWith .commentStart 8 alternative = true := by
    decide
  rcases opens alternative member with states | prints | comments
  · exact fails_of_opensWith states
      (fun mode passed => settles_tagStart_failed mode _ passed opensNot.2.1) mode
  · exact fails_of_opensWith prints
      (fun mode passed => settles_printStart_failed mode _ passed opensNot.1) mode
  · exact fails_of_opensWith comments
      (fun mode passed => settles_commentStart_failed mode _ passed opensNot.2.2) mode

/-- A text is content of a template. -/
theorem reads_contentOfText {piece : Text} (untagged : Untagged piece rest) (some : piece ≠ [])
    (ends : EndsText rest) :
    Reads (piece.length + 25) .compound (call .content) piece rest [single (.text piece)] := by
  obtain ⟨character, piece, rfl⟩ := List.exists_cons_of_ne_nil some
  have fails : ∀ alternative ∈ tagged, Fails ((character :: piece).length + 10) .atomic alternative
      (character :: piece ++ rest) :=
    fun alternative member =>
      (fails_tagged untagged.1 .atomic alternative member).mono (by rw [List.length_cons]; omega)
  have read : Reads _ .atomic (Rule.body .content) (character :: piece) rest _ :=
    reads_oneOf fails (reads_text untagged some ends .atomic) []
  have called : Reads _ .compound (call .content) (character :: piece) rest _ := read.call rfl (by decide) rfl
  refine called.mono ?_
  simp only [tagged, List.length_cons, List.length_nil]
  omega

/-- A tag that prints a path is content of a template. -/
theorem reads_contentOfTag (tag : PathTag) (rest : Text) :
    Reads (tag.print.length + 65) .compound (call .content) tag.print rest [single tag.node] := by
  have notStatement : ¬ ['{', '%'] <+: tag.print ++ rest := fun ⟨_, same⟩ => by
    rw [PathTag.print] at same
    cases same
  have fails : ∀ alternative ∈ [call .includeTag], Fails (tag.print.length + 60) .atomic alternative
      (tag.print ++ rest) := by
    intro alternative member
    rw [List.mem_singleton.mp member]
    have opens : grammar.opensWith .tagStart 8 (call .includeTag) = true := by decide
    exact (fails_of_opensWith opens
      (fun mode passed => settles_tagStart_failed mode _ passed notStatement) _).mono
      (by omega)
  have read : Reads _ .atomic (Rule.body .content) tag.print rest _ :=
    reads_oneOf fails (tag.reads_printTag rest .atomic) _
  have called : Reads _ .compound (call .content) tag.print rest _ := read.call rfl (by decide) rfl
  refine called.mono ?_
  simp only [List.length_cons, List.length_nil]
  omega

theorem fails_templatePart_nil : Fails 30 .compound templatePart [] := by
  have noTag : ¬ OpensTag [] := by simp [OpensTag]
  have noText : Fails 11 .atomic (call .text) [] := by
    have nothing : Fails 7 .compound textPart [] := fails_textPart (.inl rfl) (by decide)
    have noText : Fails _ .compound (Rule.body .text) [] := nothing.followedBy
    have called : Fails _ .atomic (call .text) [] := noText.call rfl
    exact called.mono (by omega)
  have fails : ∀ alternative ∈ tagged ++ [call .text], Fails 11 .atomic alternative [] :=
    List.forall_mem_append.mpr ⟨fails_tagged noTag .atomic, by simpa using noText⟩
  have noContent : Fails _ .atomic (Rule.body .content) [] := fails_oneOf fails (by simp)
  have noMacro : Fails 11 .compound (call .macroDefinition) [] :=
    fails_of_opensWith (by decide)
      (fun mode passed =>
        settles_tagStart_failed mode _ passed fun isPrefix => noTag (.inr (.inl isPrefix))) _
  have called : Fails _ .compound (call .content) [] := noContent.call rfl
  exact (called.orElse_failed noMacro).mono (by simp)

/-- The parts of a template with one more text in front of them. -/
theorem reads_behindText {leading behind : Text} {nodes : List Node} (untagged : Untagged leading behind)
    (ends : EndsText behind)
    (reads : ∀ notFirst, Reads (behind.length + 70) .compound (.repeated notFirst templatePart) behind []
      (nodes.map single)) (notFirst : Bool) :
    Reads ((leading ++ behind).length + 70) .compound (.repeated notFirst templatePart) (leading ++ behind) []
      ((textNodes leading ++ nodes).map single) := by
  cases leading with
  | nil => exact reads notFirst
  | cons character leading =>
      have content : Reads _ .compound templatePart _ behind _ :=
        (reads_contentOfText untagged (by simp) ends).orElse
      rw [← List.append_nil behind] at content
      refine (content.repeated (reads true) (by decide) notFirst).mono ?_
      simp only [List.length_append, List.length_cons]
      omega

theorem reads_printed {leading : Text} {tagged : List (PathTag × Text)} (placed : Placed leading tagged)
    (notFirst : Bool) :
    Reads ((leading ++ printed tagged).length + 70) .compound (.repeated notFirst templatePart)
      (leading ++ printed tagged) [] ((nodesOf leading tagged).map single) := by
  induction tagged generalizing leading notFirst with
  | nil =>
      have reads (notFirst : Bool) := fails_templatePart_nil.repeated (by decide) notFirst
      exact reads_behindText placed (.inl rfl) (fun notFirst => (reads notFirst).mono (by simp)) notFirst
  | cons entry tagged ih =>
      obtain ⟨tag, piece⟩ := entry
      refine reads_behindText placed.1 (endsText_printed ((tag, piece) :: tagged))
        (fun notFirst => ?_) notFirst
      have content : Reads _ .compound templatePart _ (piece ++ printed tagged) _ :=
        (reads_contentOfTag tag (piece ++ printed tagged)).orElse
      rw [← List.append_nil (piece ++ printed tagged)] at content
      refine (content.repeated (ih placed.2 true) (by decide) notFirst).mono ?_
      have some : 0 < tag.print.length := by simp [PathTag.print]
      simp only [printed, List.length_append]
      omega

end Contents

section Templates

variable {leading behind text : Text} {tagged : List (PathTag × Text)}

/-- Neither a statement nor a comment begins in front of a text. -/
def BeginsPlainly (text : Text) : Prop :=
  ¬ ['{', '%'] <+: text ∧ ¬ ['{', '#'] <+: text

theorem beginsPlainly_printed (tagged : List (PathTag × Text)) : BeginsPlainly (printed tagged) := by
  cases tagged with
  | nil => simp [BeginsPlainly, printed]
  | cons entry tagged =>
      constructor <;>
      · rintro ⟨_, same⟩
        cases same

theorem beginsPlainly_of_untagged {character : Char} (untagged : Untagged (character :: leading) behind) :
    BeginsPlainly (character :: leading ++ behind) :=
  ⟨fun isPrefix => untagged.1 (.inr (.inl isPrefix)), fun isPrefix => untagged.1 (.inr (.inr isPrefix))⟩

theorem beginsPlainly_of_placed (placed : Placed leading tagged) :
    BeginsPlainly (leading ++ printed tagged) := by
  cases leading with
  | nil => exact beginsPlainly_printed tagged
  | cons character leading => exact beginsPlainly_of_untagged placed.untagged

theorem dropWhile_printed (tagged : List (PathTag × Text)) :
    (printed tagged).dropWhile isBlank = printed tagged := by
  cases tagged with
  | nil => rfl
  | cons entry tagged => rfl

theorem beginsPlainly_dropWhile (untagged : Untagged leading (printed tagged)) :
    BeginsPlainly ((leading ++ printed tagged).dropWhile isBlank) := by
  induction leading with
  | nil =>
      rw [List.nil_append, dropWhile_printed]
      exact beginsPlainly_printed tagged
  | cons character leading ih =>
      rw [List.cons_append, List.dropWhile_cons]
      split
      · exact ih untagged.2
      · exact beginsPlainly_of_untagged untagged

theorem accepts_blank (character : Char) : accepts character blank = isBlank character := by
  simp [blank, oneOf, word, Rule.isBlank, accepts, eq_comm, Bool.or_assoc]

/-- All blanks in front of a text are read. -/
theorem reads_blanks (text : Text) :
    Reads (text.length + 6) .compound blanks (text.takeWhile isBlank) (text.dropWhile isBlank) [] := by
  have stops (character : Char) (ahead : (text.dropWhile isBlank).head? = some character) :
      accepts character blank = false := by
    have notBlank := List.head?_dropWhile_not isBlank text
    rw [ahead] at notBlank
    exact (accepts_blank character).trans notBlank
  have goesOn (character : Char) (member : character ∈ text.takeWhile isBlank) :
      accepts character blank = true :=
    (accepts_blank character).trans (List.mem_takeWhile_imp member)
  refine reads_of_settles fun passed => ?_
  have settles : grammar.Settles _ .compound .forward blanks
      ⟨text.takeWhile isBlank ++ text.dropWhile isBlank, passed⟩ _ :=
    settles_repeated_class (by decide) (by decide) goesOn stops false
  refine settles.mono ?_
  have count : choices blank = 4 := by decide
  have length : (text.takeWhile isBlank).length ≤ text.length := (List.takeWhile_prefix _).length_le
  omega

/-- A statement behind blanks, where no statement begins. -/
theorem fails_behindBlanks (opens : grammar.opensWith .tagStart 8 expression = true)
    (plain : BeginsPlainly (text.dropWhile isBlank)) :
    Fails (text.length + 12) .compound (.followedBy blanks expression) text := by
  have statement : Fails 11 .compound expression (text.dropWhile isBlank) :=
    fails_of_opensWith opens (fun mode passed => settles_tagStart_failed mode _ passed plain.1) .compound
  have fails := (reads_blanks text).next_failed (skips_nil (by decide) _) statement
  rw [List.takeWhile_append_dropWhile] at fails
  exact fails.mono (by omega)

theorem fails_heading (plain : BeginsPlainly (text.dropWhile isBlank)) :
    Fails (text.length + 16) .compound heading text := by
  have noParent : Fails _ .compound (Rule.body .extendsTag) text := fails_behindBlanks (by decide) plain
  have noImport : Fails _ .compound (Rule.body .importTag) text := fails_behindBlanks (by decide) plain
  have first : Fails _ .compound (all [call .extendsTag, many (call .importTag)]) text :=
    (noParent.call rfl).followedBy
  have second : Fails _ .compound (all [Peg.some (call .importTag), optional (call .extendsTag)]) text :=
    (noImport.call rfl).followedBy.followedBy
  exact (first.orElse_failed second).mono (by omega)

theorem reads_finish : Reads 3 .compound (call .finish) [] [] [.nothing] := by
  have settles (passed : Nat) :
      grammar.Settles 2 .compound .forward (.absent .any) ⟨[], passed⟩ (.matched [] ⟨[], passed⟩) :=
    settles_any_end.absent
  have read : Reads 2 .compound (Rule.body .finish) [] [] [] := reads_of_settles settles
  exact read.call rfl (by decide) rfl

theorem all_isPlain_nodesOf (leading : Text) (tagged : List (PathTag × Text)) :
    (nodesOf leading tagged).all isPlain = true := by
  have texts (piece : Text) : (textNodes piece).all isPlain = true := by
    rw [textNodes]
    split <;> rfl
  rw [nodesOf, List.all_append, texts, Bool.true_and, List.all_flatMap, List.all_eq_true]
  intro entry _
  exact texts entry.2

/-- No plain node stands for a comment. -/
theorem body_dropWhile_isComment {nodes : List Node} (plain : nodes.all isPlain = true) :
    Fragment.body ((nodes.map single ++ [Fragment.nothing]).dropWhile Fragment.isComment) = nodes := by
  have all : Fragment.body (nodes.map single ++ [Fragment.nothing]) = nodes := by
    simp [Fragment.body, single, Fragment.nodes?, List.flatMap_map]
  cases nodes with
  | nil => rfl
  | cons node nodes =>
      rw [List.all_cons, Bool.and_eq_true] at plain
      have notComment : Fragment.isComment (single node) = false := by
        cases node with
        | comment trim => cases plain.1
        | _ => rfl
      rw [List.map_cons, List.cons_append, List.dropWhile_cons_of_neg (by simp [notComment])]
      exact all

theorem reads_template (placed : Placed leading tagged) :
    Reads ((leading ++ printed tagged).length + 75) .spaced (call .template) (leading ++ printed tagged) []
      [.nodes (nodesOf leading tagged)] := by
  have noSpaces (rest : Text) : Skips .compound [] rest := skips_nil (by decide) rest
  have plain := beginsPlainly_of_placed placed
  have noComment : Fails 11 .compound (call .commentTag) (leading ++ printed tagged) :=
    fails_of_opensWith (by decide) (fun mode passed => settles_commentStart_failed mode _ passed plain.2) _
  have noComments : Reads _ .compound (many (call .commentTag)) [] (leading ++ printed tagged) [] :=
    noComment.repeated (by decide) false
  have noHeading := (fails_heading (beginsPlainly_dropWhile placed.untagged)).optional
  have parts : Reads _ .compound (many templatePart) (leading ++ printed tagged) ([] ++ []) _ :=
    reads_printed placed false
  have behindHeading := parts.next (noSpaces _) reads_finish
  rw [List.append_nil] at behindHeading
  rw [← List.append_nil (leading ++ printed tagged)] at noComments noHeading
  have read : Reads _ .compound (Rule.body .template) (leading ++ printed tagged) [] _ :=
    noComments.next (noSpaces _) (noHeading.next (noSpaces _) behindHeading)
  have fragment : readRule .template (leading ++ printed tagged)
      ((nodesOf leading tagged).map single ++ [.nothing]) = .ok (.nodes (nodesOf leading tagged)) :=
    congrArg (Except.ok ∘ Fragment.nodes) (body_dropWhile_isComment (all_isPlain_nodesOf leading tagged))
  have called : Reads _ .spaced (call .template) _ [] _ := read.call rfl (by decide) fragment
  refine called.mono ?_
  rw [List.append_nil]
  omega

theorem readUntrimmed_printed (placed : Placed leading tagged) :
    readUntrimmed (leading ++ printed tagged) = .ok (nodesOf leading tagged) := by
  obtain ⟨trees, settles, read⟩ := reads_template placed 0
  have enough : (leading ++ printed tagged).length + 75 ≤ stepsFor (leading ++ printed tagged) := by
    rw [stepsFor]
    omega
  obtain ⟨furthest, ran⟩ := settles.mono enough 0 0
  rw [Nat.zero_add, List.append_nil] at ran
  rw [readUntrimmed, matchTemplate, ran]
  simp only [read]
  exact congrArg Except.ok (List.append_nil _)

/-- A template of texts and of tags that print paths is read as their list. -/
theorem readNodes_printed (placed : Placed leading tagged) :
    readNodes (leading ++ printed tagged) = .ok (nodesOf leading tagged) := by
  have read := readUntrimmed_printed placed
  have plain := all_isPlain_nodesOf leading tagged
  rw [readNodes_of_isPlain (by rw [read]; exact plain), read]

theorem blocksOf_of_isPlain {nodes : List Node} (plain : nodes.all isPlain = true) : blocksOf nodes = [] := by
  induction nodes with
  | nil => rfl
  | cons node nodes ih =>
      rw [List.all_cons, Bool.and_eq_true] at plain
      rw [blocksOf, ih plain.2, List.append_nil]
      cases node with
      | block opening name inner closing => cases plain.1
      | _ => rfl

/-- Plain nodes define nothing and name no other templates. -/
theorem read_of_isPlain {nodes : List Node} (read : readNodes text = .ok nodes)
    (plain : nodes.all isPlain = true) : Source.read text = .ok ⟨nodes, [], [], []⟩ := by
  have selected {α : Type} {select : Node → Option α}
      (selects : ∀ node, isPlain node = true → select node = none) : nodes.filterMap select = [] :=
    List.filterMap_eq_nil_iff.mpr fun node member => selects node (List.all_eq_true.mp plain node member)
  simp only [Source.read, read, Except.mapError, bind, Except.bind, pure, Except.pure]
  rw [blocksOf_of_isPlain plain, selected (fun node plain => ?_), selected (fun node plain => ?_),
    selected (fun node plain => ?_)]
  · rfl
  all_goals
    cases node with
    | importing | extending | macroDefinition => cases plain
    | _ => rfl

theorem read_printed (placed : Placed leading tagged) :
    Source.read (leading ++ printed tagged) = .ok ⟨nodesOf leading tagged, [], [], []⟩ :=
  read_of_isPlain (readNodes_printed placed) (all_isPlain_nodesOf leading tagged)

end Templates

end ThemedViews.Template
