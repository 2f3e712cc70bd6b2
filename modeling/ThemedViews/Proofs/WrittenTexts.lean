import ThemedViews.Proofs.AttributeReading
import ThemedViews.Toml.Reader
import ThemedViews.Toml.Writer

/-!
# Reading texts that were written

A text is written between quotes in one of four ways, and a key also without
quotes.  Reading gives the text back and stops behind it, whichever way was taken.
What could go wrong is that a quote in the text ends it too early, or that a quote
behind it is taken into it; how many quotes may stand in a row decides.
-/

namespace ThemedViews.Toml

open Text

variable {multiline : Bool} {text rest : Text}

/-- The quotes on each side of a text. -/
def enclosing (multiline : Bool) (quote : Char) : Text :=
  List.replicate (if multiline then 3 else 1) quote

/-- How many quotes may stand in a row in a text. -/
def mostInRow (multiline : Bool) : Nat :=
  if multiline then 2 else 0

section Closing

variable {quote : Char}

theorem closed?_eq_none (notTwo : ¬ [quote, quote] <+: rest) : closed? true quote rest = none := by
  rw [closed?, if_pos rfl, isPrefixOf?_eq_none_iff.mpr notTwo]
  rfl

/-- Up to two quotes in front of the closing ones belong to the text. -/
theorem closed?_quotes (count : Nat) (few : count ≤ 2) (notQuote : rest.head? ≠ some quote) :
    closed? true quote (quote :: quote :: (List.replicate count quote ++ rest)) =
      some (List.replicate count quote, rest) := by
  have behind : [quote, quote].isPrefixOf? (quote :: quote :: (List.replicate count quote ++ rest)) =
      some (List.replicate count quote ++ rest) := isPrefixOf?_append [quote, quote] _
  have stops : Stops (· = quote) rest := by
    cases rest with
    | nil => trivial
    | cons first rest => simpa using notQuote
  have quotes : (List.replicate count quote ++ rest).takeWhile (· = quote) = List.replicate count quote :=
    takeWhile_append_of_stops (fun _ member => by simpa using List.eq_of_mem_replicate member) stops
  rw [closed?, if_pos rfl, behind]
  simp only [Option.bind_eq_bind, Option.bind_some, quotes]
  rw [List.take_of_length_le (by simpa using few), List.drop_left]
  rfl

/-- A text ends at the quotes that enclose it. -/
theorem closed?_enclosing (multiline : Bool) (notQuote : rest.head? ≠ some quote) :
    closed? multiline quote ((enclosing multiline quote).tail ++ rest) = some ([], rest) := by
  cases multiline with
  | false => rfl
  | true => exact closed?_quotes 0 (by decide) notQuote

/-- A quote in a text ends it only where at most one more quote is left of it. -/
theorem closed?_inside (notTwo : ¬ [quote, quote] <+: text) (notQuote : rest.head? ≠ some quote) :
    ((text = [] ∨ text = [quote]) ∧
        closed? true quote (text ++ (enclosing true quote ++ rest)) = some (quote :: text, rest)) ∨
      closed? true quote (text ++ (enclosing true quote ++ rest)) = none := by
  match text with
  | [] => exact .inl ⟨.inl rfl, closed?_quotes 1 (by decide) notQuote⟩
  | [only] =>
      by_cases same : only = quote
      · subst same
        exact .inl ⟨.inr rfl, closed?_quotes 2 (by decide) notQuote⟩
      · refine .inr (closed?_eq_none fun ⟨_, begins⟩ => same ?_)
        exact (List.cons.inj begins).1.symm
  | first :: second :: text =>
      refine .inr (closed?_eq_none fun ⟨_, begins⟩ => notTwo ?_)
      obtain ⟨rfl, behind⟩ := List.cons.inj begins
      obtain ⟨rfl, -⟩ := List.cons.inj behind
      exact ⟨text, rfl⟩

theorem le_longestRun (quote : Char) (current : Nat) (text : Text) :
    current ≤ longestRun quote current text := by
  induction text generalizing current with
  | nil => exact Nat.le_refl current
  | cons first text ih =>
      rw [longestRun]
      split
      · exact Nat.le_of_succ_le (ih (current + 1))
      · exact Nat.le_max_left ..

/-- Behind a quote no two more follow where no three stand in a row. -/
theorem not_two_of_longestRun_le {current : Nat} (few : longestRun quote (current + 1) text ≤ 2) :
    ¬ [quote, quote] <+: text := by
  rintro ⟨behind, rfl⟩
  have many := le_longestRun quote (current + 1 + 1 + 1) behind
  simp only [List.cons_append, List.nil_append, longestRun, if_pos] at few
  omega

end Closing

/-- What stands between single quotes is read as it is. -/
theorem readLiteral_append {current : Nat} (few : longestRun '\x27' current text ≤ mostInRow multiline)
    (plain : ∀ character ∈ text, isPlainChar character = true ∨ (multiline = true ∧ character = '\n'))
    (notQuote : rest.head? ≠ some '\x27') :
    readLiteral multiline (text ++ (enclosing multiline '\x27' ++ rest)) = some (text, rest) := by
  induction text generalizing current with
  | nil =>
      have opens : enclosing multiline '\x27' ++ rest =
          '\x27' :: ((enclosing multiline '\x27').tail ++ rest) := by cases multiline <;> rfl
      rw [List.nil_append, opens, readLiteral, if_pos rfl, closed?_enclosing multiline notQuote]
  | cons character text ih =>
      obtain ⟨here, others⟩ := List.forall_mem_cons.mp plain
      rw [List.cons_append, readLiteral]
      by_cases isQuote : character = '\x27'
      · subst isQuote
        rw [longestRun, if_pos rfl] at few
        cases multiline with
        | false => exact absurd (le_longestRun '\x27' (current + 1) text) (by simp [mostInRow] at few; omega)
        | true =>
            rw [if_pos rfl]
            rcases closed?_inside (not_two_of_longestRun_le few) notQuote with ⟨-, ends⟩ | goesOn
            · rw [ends]
            · rw [goesOn, ih few others]
              rfl
      · rw [longestRun, if_neg isQuote] at few
        have allowed : standsFor multiline character (text ++ (enclosing multiline '\x27' ++ rest)) = true := by
          rcases here with isPlain | ⟨rfl, rfl⟩
          · simp [standsFor, isPlain]
          · rfl
        rw [if_neg isQuote, if_pos allowed, ih (Nat.le_trans (Nat.le_max_right ..) few) others]
        rfl

/-- The reader passes over what was read before. -/
theorem readBasic_passed (taken rest : Text) :
    readBasic multiline taken.length false (taken ++ rest) = readBasic multiline 0 false rest := by
  induction taken with
  | nil => rfl
  | cons first taken ih => exact ih

theorem readBasic_escape (taken : Text) {meant : Char}
    (escapes : escape? (taken ++ rest) = some (meant, taken.length)) :
    readBasic multiline 0 false ('\\' :: (taken ++ rest)) = pushed meant (readBasic multiline 0 false rest) := by
  rw [readBasic, if_neg (by decide), if_pos rfl, escapes]
  simp only [readBasic_passed]

theorem readBasic_plain {character : Char} (isPlain : standsFor multiline character rest = true)
    (notQuote : character ≠ '"') (notSlash : character ≠ '\\') :
    readBasic multiline 0 false (character :: rest) = pushed character (readBasic multiline 0 false rest) := by
  rw [readBasic, if_neg notQuote, if_neg notSlash, isPlain]
  rfl

/-- The number of a control character is written with four digits, and read again. -/
theorem hexFour_control : ∀ number < 128, (hexFour number).length = 4 ∧
    ofHex? (hexFour number) = some (Char.ofNat number) := by
  decide

theorem readBasic_escapedForm (multiline : Bool) {character : Char} (notQuote : character ≠ '"') (rest : Text) :
    readBasic multiline 0 false (escapedForm multiline character ++ rest) =
      pushed character (readBasic multiline 0 false rest) := by
  have short {letter meant : Char} (escapes : escape? (letter :: rest) = some (meant, 1)) :
      readBasic multiline 0 false (['\\', letter] ++ rest) = pushed meant (readBasic multiline 0 false rest) :=
    readBasic_escape [letter] escapes
  unfold escapedForm
  split
  · exact short rfl
  · exact short rfl
  · split
    · next multi =>
        subst multi
        exact readBasic_plain rfl (by decide) (by decide)
    · exact short rfl
  · exact short rfl
  · exact short rfl
  · exact short rfl
  · next _ _ _ _ _ notSlash =>
      split
      · next isPlain =>
          have stands : standsFor multiline character rest = true := by rw [standsFor, isPlain, Bool.true_or]
          exact readBasic_plain stands notQuote notSlash
      · next control =>
          have low : character.toNat < 128 := by
            simp [isPlainChar] at control
            omega
          obtain ⟨four, digits⟩ := hexFour_control character.toNat low
          have taken : (hexFour character.toNat ++ rest).take 4 = hexFour character.toNat := by
            rw [← four, List.take_left]
          have escapes : escape? (('u' :: hexFour character.toNat) ++ rest) =
              some (character, ('u' :: hexFour character.toNat).length) := by
            have count : hexDigits 'u' = 4 := rfl
            simp [escape?, count, taken, digits, four]
          exact readBasic_escape ('u' :: hexFour character.toNat) escapes

theorem exists_escapedForm_eq_cons (multiline : Bool) (character : Char) :
    ∃ first more, escapedForm multiline character = first :: more ∧
      (first = '\\' ∨ (first = character ∧ (isPlainChar character = true ∨ character = '\n'))) := by
  unfold escapedForm
  split
  case h_3 =>
    cases multiline with
    | false => exact ⟨_, _, rfl, .inl rfl⟩
    | true => exact ⟨_, _, rfl, .inr ⟨rfl, .inr rfl⟩⟩
  case h_7 =>
    split
    · next isPlain => exact ⟨_, _, rfl, .inr ⟨rfl, .inl isPlain⟩⟩
    · exact ⟨_, _, rfl, .inl rfl⟩
  all_goals exact ⟨_, _, rfl, .inl rfl⟩

section EscapedTexts

variable {row : Nat}

theorem escapedText_quote (few : row < mostInRow multiline) (text : Text) :
    escapedText multiline row ('"' :: text) = '"' :: escapedText multiline (row + 1) text := by
  rw [escapedText, if_pos rfl]
  exact if_pos few

theorem escapedText_escaped_quote (many : ¬ row < mostInRow multiline) (text : Text) :
    escapedText multiline row ('"' :: text) = '\\' :: '"' :: escapedText multiline 0 text := by
  rw [escapedText, if_pos rfl]
  exact if_neg many

theorem escapedText_other {character : Char} (notQuote : character ≠ '"') (text : Text) :
    escapedText multiline row (character :: text) =
      escapedForm multiline character ++ escapedText multiline 0 text := by
  rw [escapedText, if_neg notQuote]

/-- A text with escapes begins with an escape, or else with a character that may stand for itself;
a quote may do so only where the row before it is short. -/
theorem eq_of_escapedText_eq_cons {first : Char} {more : Text}
    (begins : escapedText multiline row text = first :: more) :
    first = '\\' ∨ ∃ behind, text = first :: behind ∧ (isPlainChar first = true ∨ first = '\n') ∧
      (first = '"' → row < mostInRow multiline ∧ more = escapedText multiline (row + 1) behind) := by
  cases text with
  | nil => cases begins
  | cons character text =>
      by_cases isQuote : character = '"'
      · subst isQuote
        by_cases few : row < mostInRow multiline
        · rw [escapedText_quote few] at begins
          obtain ⟨rfl, rfl⟩ := List.cons.inj begins
          exact .inr ⟨text, rfl, .inl rfl, fun _ => ⟨few, rfl⟩⟩
        · rw [escapedText_escaped_quote few] at begins
          exact .inl (List.cons.inj begins).1.symm
      · obtain ⟨opening, form, isForm, isOpening⟩ := exists_escapedForm_eq_cons multiline character
        rw [escapedText_other isQuote, isForm] at begins
        obtain ⟨rfl, -⟩ := List.cons.inj begins
        rcases isOpening with escape | ⟨rfl, stands⟩
        · exact .inl escape
        · exact .inr ⟨text, rfl, stands, fun same => absurd same isQuote⟩

theorem eq_quote_of_escapedText_eq_cons {more : Text} (begins : escapedText multiline row text = '"' :: more) :
    ∃ behind, text = '"' :: behind ∧ row < mostInRow multiline ∧
      more = escapedText multiline (row + 1) behind := by
  rcases eq_of_escapedText_eq_cons begins with escape | ⟨behind, isText, -, quoted⟩
  · cases escape
  · exact ⟨behind, isText, quoted rfl⟩

/-- Behind a quote that stands for itself no two more follow. -/
theorem not_two_of_escapedText (multiline : Bool) (row : Nat) (text : Text) :
    ¬ ['"', '"'] <+: escapedText multiline (row + 1) text := by
  rintro ⟨more, begins⟩
  have most : mostInRow multiline ≤ 2 := by cases multiline <;> decide
  obtain ⟨behind, -, -, next⟩ := eq_quote_of_escapedText_eq_cons begins.symm
  obtain ⟨-, -, few, -⟩ := eq_quote_of_escapedText_eq_cons next.symm
  omega

theorem eq_nil_of_escapedText_eq_nil (isNil : escapedText multiline row text = []) : text = [] := by
  cases text with
  | nil => rfl
  | cons character text =>
      by_cases isQuote : character = '"'
      · subst isQuote
        by_cases few : row < mostInRow multiline
        · cases (escapedText_quote few text).symm.trans isNil
        · cases (escapedText_escaped_quote few text).symm.trans isNil
      · obtain ⟨opening, form, isForm, -⟩ := exists_escapedForm_eq_cons multiline character
        rw [escapedText_other isQuote, isForm] at isNil
        cases isNil

/-- At most one quote is written as it is only if it is the text. -/
theorem eq_of_escapedText_short (short : escapedText multiline row text = [] ∨ escapedText multiline row text = ['"']) :
    escapedText multiline row text = text := by
  rcases short with isNil | isQuote
  · rw [isNil, eq_nil_of_escapedText_eq_nil isNil]
  · obtain ⟨behind, isText, -, next⟩ := eq_quote_of_escapedText_eq_cons isQuote
    rw [isQuote, isText, eq_nil_of_escapedText_eq_nil next.symm]

/-- What stands between double quotes, with its escapes, is read as the text. -/
theorem readBasic_append (multiline : Bool) (row : Nat) (text : Text) (notQuote : rest.head? ≠ some '"') :
    readBasic multiline 0 false (escapedText multiline row text ++ (enclosing multiline '"' ++ rest)) =
      some (text, rest) := by
  induction text generalizing row with
  | nil =>
      have opens : enclosing multiline '"' ++ rest = '"' :: ((enclosing multiline '"').tail ++ rest) := by
        cases multiline <;> rfl
      rw [escapedText, List.nil_append, opens, readBasic, if_pos rfl, closed?_enclosing multiline notQuote]
  | cons character text ih =>
      by_cases isQuote : character = '"'
      · subst isQuote
        by_cases few : row < mostInRow multiline
        · have multi : multiline = true := by
            cases multiline with
            | false => cases few
            | true => rfl
          subst multi
          rw [escapedText_quote few, List.cons_append, readBasic, if_pos rfl]
          rcases closed?_inside (not_two_of_escapedText true row text) notQuote with ⟨short, ends⟩ | goesOn
          · rw [ends, eq_of_escapedText_short short]
          · rw [goesOn, ih]
            rfl
        · rw [escapedText_escaped_quote few]
          exact (readBasic_escape ['"'] rfl).trans (congrArg (pushed '"') (ih 0))
      · rw [escapedText_other isQuote, List.append_assoc, readBasic_escapedForm multiline isQuote, ih]
        rfl

end EscapedTexts

section Quoted

theorem between_append (multiline : Bool) (quote : Char) (content text rest : Text) :
    between (enclosing multiline quote) content text ++ rest =
      enclosing multiline quote ++ ((if multiline && decide ('\n' ∈ text) then ['\n'] else []) ++
        (content ++ (enclosing multiline quote ++ rest))) := by
  cases multiline <;> simp [between, enclosing]

theorem quoted?_basic {behind : Text} (notTwo : ¬ ['"', '"'] <+: behind) :
    quoted? ('"' :: behind) = readBasic false 0 false behind := by
  unfold quoted?
  split
  · next same =>
      obtain ⟨-, rfl⟩ := List.cons.inj same
      exact absurd (List.prefix_append ['"', '"'] _) notTwo
  · next same => rw [(List.cons.inj same).2]
  · next same => cases same
  · next same => cases same
  · next notDouble _ _ => exact absurd rfl (notDouble behind)

theorem quoted?_literal {behind : Text} (notTwo : ¬ ['\x27', '\x27'] <+: behind) :
    quoted? ('\x27' :: behind) = readLiteral false behind := by
  unfold quoted?
  split
  · next same => cases same
  · next same => cases same
  · next same =>
      obtain ⟨-, rfl⟩ := List.cons.inj same
      exact absurd (List.prefix_append ['\x27', '\x27'] _) notTwo
  · next same => rw [(List.cons.inj same).2]
  · next notSingle => exact absurd rfl (notSingle behind)

theorem quotedLine?_eq_quoted? {quote : Char} {behind : Text} (notTwo : ¬ [quote, quote] <+: behind) :
    quotedLine? (quote :: behind) = quoted? (quote :: behind) := by
  unfold quotedLine?
  split
  · next same =>
      obtain ⟨rfl, rfl⟩ := List.cons.inj same
      exact absurd (List.prefix_append ['"', '"'] _) notTwo
  · next same =>
      obtain ⟨rfl, rfl⟩ := List.cons.inj same
      exact absurd (List.prefix_append ['\x27', '\x27'] _) notTwo
  · rfl

/-- A text that begins with no line ending stays whole. -/
theorem withoutLineEnding_of_head? (notNewline : text.head? ≠ some '\n') (notReturn : text.head? ≠ some '\r') :
    withoutLineEnding text = text := by
  unfold withoutLineEnding afterLineEnding?
  split
  · exact absurd rfl notNewline
  · exact absurd rfl notReturn
  · rfl

/-- The newline behind three opening quotes is passed, and no character of the text. -/
theorem withoutLineEnding_opening {content : Text}
    (stands : ∀ first, content.head? = some first → isPlainChar first = true ∨ (first = '\n' ∧ '\n' ∈ text)) :
    withoutLineEnding ((if decide ('\n' ∈ text) then ['\n'] else []) ++ content) = content := by
  by_cases newline : '\n' ∈ text
  · rw [if_pos (decide_eq_true newline)]
    rfl
  · rw [if_neg (by simpa using newline), List.nil_append]
    refine withoutLineEnding_of_head? (fun begins => ?_) (fun begins => ?_)
    · rcases stands _ begins with isPlain | ⟨-, member⟩
      · cases isPlain
      · exact newline member
    · rcases stands _ begins with isPlain | ⟨isNewline, -⟩
      · cases isPlain
      · cases isNewline

theorem basicText_append (text rest : Text) :
    basicText text ++ rest = '"' :: (escapedText false 0 text ++ (enclosing false '"' ++ rest)) :=
  between_append false '"' (escapedText false 0 text) text rest

theorem literalText_append (text rest : Text) :
    literalText text ++ rest = '\x27' :: (text ++ (enclosing false '\x27' ++ rest)) :=
  between_append false '\x27' text text rest

theorem longBasicText_append (text rest : Text) :
    longBasicText text ++ rest = '"' :: '"' :: '"' :: ((if decide ('\n' ∈ text) then ['\n'] else []) ++
      (escapedText true 0 text ++ (enclosing true '"' ++ rest))) :=
  between_append true '"' (escapedText true 0 text) text rest

theorem longLiteralText_append (text rest : Text) :
    longLiteralText text ++ rest = '\x27' :: '\x27' :: '\x27' :: ((if decide ('\n' ∈ text) then ['\n'] else []) ++
      (text ++ (enclosing true '\x27' ++ rest))) :=
  between_append true '\x27' text text rest

theorem not_two_of_basicText (text : Text) (notQuote : rest.head? ≠ some '"') :
    ¬ ['"', '"'] <+: escapedText false 0 text ++ (enclosing false '"' ++ rest) := by
  rintro ⟨more, begins⟩
  cases form : escapedText false 0 text with
  | nil =>
      rw [form] at begins
      have isRest : '"' :: more = rest := (List.cons.inj begins).2
      exact notQuote (by rw [← isRest]; rfl)
  | cons first content =>
      rw [form] at begins
      obtain ⟨rfl, -⟩ := List.cons.inj begins
      obtain ⟨_, -, few, -⟩ := eq_quote_of_escapedText_eq_cons form
      cases few

theorem quoted?_basicText (text : Text) (notQuote : rest.head? ≠ some '"') :
    quoted? (basicText text ++ rest) = some (text, rest) := by
  rw [basicText_append, quoted?_basic (not_two_of_basicText text notQuote), readBasic_append false 0 text notQuote]

theorem quoted?_longBasicText (text : Text) (notQuote : rest.head? ≠ some '"') :
    quoted? (longBasicText text ++ rest) = some (text, rest) := by
  have stands (first : Char)
      (begins : (escapedText true 0 text ++ (enclosing true '"' ++ rest)).head? = some first) :
      isPlainChar first = true ∨ (first = '\n' ∧ '\n' ∈ text) := by
    cases form : escapedText true 0 text with
    | nil =>
        rw [form] at begins
        cases begins
        exact .inl rfl
    | cons opening content =>
        rw [form] at begins
        cases begins
        rcases eq_of_escapedText_eq_cons form with rfl | ⟨behind, rfl, isPlain | rfl, -⟩
        · exact .inl rfl
        · exact .inl isPlain
        · exact .inr ⟨rfl, List.mem_cons_self⟩
  rw [longBasicText_append, quoted?, withoutLineEnding_opening stands, readBasic_append true 0 text notQuote]

/-- Every character of a text without control characters stands for itself. -/
theorem plain_of_controls_eq_false (noControls : text.any isControl = false) :
    ∀ character ∈ text, isPlainChar character = true ∨ character = '\n' := by
  intro character member
  have here := List.any_eq_false.mp noControls character member
  by_cases isPlain : isPlainChar character = true
  · exact .inl isPlain
  · simp [isControl, isPlain] at here
    exact .inr here

theorem not_two_of_literalText (isSome : text ≠ []) (absent : '\x27' ∉ text) :
    ¬ ['\x27', '\x27'] <+: text ++ rest := by
  obtain ⟨first, text, rfl⟩ := List.exists_cons_of_ne_nil isSome
  rintro ⟨more, begins⟩
  refine absent ?_
  rw [(List.cons.inj begins).1]
  exact List.mem_cons_self

theorem longestRun_eq_zero_iff {quote : Char} : longestRun quote 0 text = 0 ↔ quote ∉ text := by
  induction text with
  | nil => exact iff_of_true rfl List.not_mem_nil
  | cons first text ih =>
      rw [longestRun]
      by_cases same : first = quote
      · rw [if_pos same]
        have many := le_longestRun quote (0 + 1) text
        exact iff_of_false (by omega) fun absent => absent (same ▸ List.mem_cons_self)
      · rw [if_neg same, Nat.max_eq_zero_iff, List.mem_cons, not_or, ih]
        exact and_congr (iff_of_true rfl fun equal => same equal.symm) Iff.rfl

theorem quoted?_literalText (isSome : text ≠ []) (absent : '\x27' ∉ text)
    (plain : ∀ character ∈ text, isPlainChar character = true) (notQuote : rest.head? ≠ some '\x27') :
    quoted? (literalText text ++ rest) = some (text, rest) := by
  rw [literalText_append, quoted?_literal (not_two_of_literalText isSome absent)]
  exact readLiteral_append (Nat.le_of_eq (longestRun_eq_zero_iff.mpr absent))
    (fun character member => .inl (plain character member)) notQuote

theorem quoted?_longLiteralText (few : longestRun '\x27' 0 text ≤ 2) (noControls : text.any isControl = false)
    (notQuote : rest.head? ≠ some '\x27') : quoted? (longLiteralText text ++ rest) = some (text, rest) := by
  have allowed := plain_of_controls_eq_false noControls
  have stands (first : Char) (begins : (text ++ (enclosing true '\x27' ++ rest)).head? = some first) :
      isPlainChar first = true ∨ (first = '\n' ∧ '\n' ∈ text) := by
    cases text with
    | nil =>
        cases begins
        exact .inl rfl
    | cons opening text =>
        cases begins
        rcases allowed first List.mem_cons_self with isPlain | rfl
        · exact .inl isPlain
        · exact .inr ⟨rfl, List.mem_cons_self⟩
  have plain : ∀ character ∈ text, isPlainChar character = true ∨ (true = true ∧ character = '\n') :=
    fun character member => (allowed character member).imp_right fun isNewline => ⟨rfl, isNewline⟩
  rw [longLiteralText_append, quoted?, withoutLineEnding_opening stands, readLiteral_append few plain notQuote]

/-- A text that was written is read back, and nothing behind it. -/
theorem quoted?_writeText (text : Text) (notDouble : rest.head? ≠ some '"') (notSingle : rest.head? ≠ some '\x27') :
    quoted? (writeText text ++ rest) = some (text, rest) := by
  simp only [writeText]
  split
  · exact quoted?_basicText text notDouble
  · next notFirst =>
      split
      · next single =>
          have isSome : text ≠ [] := by
            rintro rfl
            exact notFirst rfl
          simp only [Bool.and_eq_true, Bool.not_eq_true', decide_eq_true_eq, decide_eq_false_iff_not] at single
          obtain ⟨⟨noControls, none⟩, noNewline⟩ := single
          have plain (character : Char) (member : character ∈ text) : isPlainChar character = true :=
            (plain_of_controls_eq_false noControls character member).resolve_right
              fun isNewline => noNewline (isNewline ▸ member)
          exact quoted?_literalText isSome (longestRun_eq_zero_iff.mp none) plain notSingle
      · split
        · exact quoted?_longBasicText text notDouble
        · split
          · next few =>
              simp at few
              exact quoted?_longLiteralText few.2 (by simpa using few.1) notSingle
          · split
            · exact quoted?_longBasicText text notDouble
            · exact quoted?_basicText text notDouble

end Quoted

section Keys

/-- A character that a written key begins with. -/
def opensKey (character : Char) : Bool :=
  isBareChar character || character = '"' || character = '\x27'

theorem quotedLine?_eq_none {first : Char} (notDouble : first ≠ '"') (notSingle : first ≠ '\x27') :
    quotedLine? (first :: rest) = none := by
  unfold quotedLine?
  split
  · next same => exact absurd (List.cons.inj same).1 notDouble
  · next same => exact absurd (List.cons.inj same).1 notSingle
  · unfold quoted?
    split
    · next same => exact absurd (List.cons.inj same).1 notDouble
    · next same => exact absurd (List.cons.inj same).1 notDouble
    · next same => exact absurd (List.cons.inj same).1 notSingle
    · next same => exact absurd (List.cons.inj same).1 notSingle
    · rfl

theorem readKey_bare (isSome : text ≠ []) (bare : ∀ character ∈ text, isBareChar character = true)
    (stops : Stops isBareChar rest) : readKey (text ++ rest) = some (String.ofList text, rest) := by
  obtain ⟨first, more, rfl⟩ := List.exists_cons_of_ne_nil isSome
  have isBare : isBareChar first = true := bare first List.mem_cons_self
  have unquoted : quotedLine? (first :: more ++ rest) = none :=
    quotedLine?_eq_none (fun same => absurd (same ▸ isBare) (by decide))
      (fun same => absurd (same ▸ isBare) (by decide))
  rw [readKey, unquoted]
  simp only [run_append bare stops]
  rfl

theorem readKey_basicText (text : Text) (notQuote : rest.head? ≠ some '"') :
    readKey (basicText text ++ rest) = some (String.ofList text, rest) := by
  have reads := quoted?_basicText text notQuote
  rw [basicText_append, ← quotedLine?_eq_quoted? (not_two_of_basicText text notQuote)] at reads
  rw [basicText_append, readKey, reads]

theorem readKey_literalText (isSome : text ≠ []) (absent : '\x27' ∉ text)
    (plain : ∀ character ∈ text, isPlainChar character = true) (notQuote : rest.head? ≠ some '\x27') :
    readKey (literalText text ++ rest) = some (String.ofList text, rest) := by
  have reads := quoted?_literalText isSome absent plain notQuote
  rw [literalText_append, ← quotedLine?_eq_quoted? (not_two_of_literalText isSome absent)] at reads
  rw [literalText_append, readKey, reads]

/-- A key that was written is read back, and nothing behind it. -/
theorem readKey_writeKey (text : Text) (stops : Stops isBareChar rest) (notDouble : rest.head? ≠ some '"')
    (notSingle : rest.head? ≠ some '\x27') : readKey (writeKey text ++ rest) = some (String.ofList text, rest) := by
  simp only [writeKey]
  split
  · next bare =>
      simp only [Bool.and_eq_true, Bool.not_eq_true', List.isEmpty_eq_false_iff, List.all_eq_true] at bare
      exact readKey_bare bare.1 bare.2 stops
  · split
    · exact readKey_basicText text notDouble
    · next notBasic =>
        split
        · next literal =>
            have isSome : text ≠ [] := by
              rintro rfl
              exact notBasic rfl
            simp only [Bool.and_eq_true, Bool.not_eq_true', decide_eq_true_eq, List.any_eq_false] at literal
            exact readKey_literalText isSome literal.2 (by simpa using literal.1) notSingle
        · exact readKey_basicText text notDouble

/-- A written key begins with a character of a key without quotes, or with a quote. -/
theorem exists_writeKey_eq_cons (text : Text) :
    ∃ first more, writeKey text = first :: more ∧ opensKey first = true := by
  simp only [writeKey]
  split
  · next bare =>
      simp only [Bool.and_eq_true, Bool.not_eq_true', List.isEmpty_eq_false_iff, List.all_eq_true] at bare
      obtain ⟨first, more, rfl⟩ := List.exists_cons_of_ne_nil bare.1
      exact ⟨first, more, rfl, by simp [opensKey, bare.2 first List.mem_cons_self]⟩
  · split
    · exact ⟨'"', _, rfl, rfl⟩
    · split
      · exact ⟨'\x27', _, rfl, rfl⟩
      · exact ⟨'"', _, rfl, rfl⟩

/-- A written text begins with a quote. -/
theorem exists_writeText_eq_cons (text : Text) :
    ∃ first more, writeText text = first :: more ∧ (first = '"' ∨ first = '\x27') := by
  simp only [writeText]
  split
  · exact ⟨_, _, rfl, .inl rfl⟩
  · split
    · exact ⟨_, _, rfl, .inr rfl⟩
    · split
      · exact ⟨_, _, rfl, .inl rfl⟩
      · split
        · exact ⟨_, _, rfl, .inr rfl⟩
        · split <;> exact ⟨_, _, rfl, .inl rfl⟩

end Keys

end ThemedViews.Toml
