import ThemedViews.Proofs.PlaceholderRestoration
import ThemedViews.Proofs.PrintedTags

/-!
# Texts that have marks

A text under protection is a list of characters and marks.  A mark is written as
a placeholder, which looks like a name: a class of characters that has all of
names or none of them takes a mark as a whole.
-/

namespace ThemedViews.Protection

open Text Tags

/-- A character, or the mark of an entry. -/
inductive Symbol where
  | char (character : Char)
  | mark (index : Nat)
  deriving Repr, DecidableEq

def Symbol.segment : Symbol → Segment
  | .char character => .literal [character]
  | .mark index => .mark index

/-- Symbols as they are written under a nonce. -/
def write (nonce : Text) (symbols : List Symbol) : Text :=
  spell nonce (symbols.map Symbol.segment)

/-- Symbols with an underscore for each mark. -/
def bare (symbols : List Symbol) : Text :=
  fill (fun _ => ['_']) (symbols.map Symbol.segment)

section Write

variable (nonce : Text) (first : Char) (index : Nat) (symbols : List Symbol)

@[simp]
theorem write_nil : write nonce [] = [] :=
  rfl

@[simp]
theorem write_char_cons : write nonce (.char first :: symbols) = first :: write nonce symbols :=
  rfl

@[simp]
theorem write_mark_cons :
    write nonce (.mark index :: symbols) = placeholderOf nonce index ++ write nonce symbols :=
  spell_cons nonce (.mark index) (symbols.map Symbol.segment)

@[simp]
theorem write_append (others : List Symbol) :
    write nonce (symbols ++ others) = write nonce symbols ++ write nonce others := by
  simp [write]

theorem write_map_char (text : Text) : write nonce (text.map Symbol.char) = text := by
  induction text with
  | nil => rfl
  | cons first text ih => rw [List.map_cons, write_char_cons, ih]

theorem write_eq_nil_iff : write nonce symbols = [] ↔ symbols = [] := by
  rcases symbols with _ | ⟨⟨first⟩ | ⟨index⟩, symbols⟩
  · simp
  · simp
  · simp [placeholderOf_ne_nil]

end Write

/-- A text lies on one side of a character that it does not have. -/
theorem infix_append_cons {part before behind : Text} {between : Char}
    (occurs : part <:+: before ++ between :: behind) (absent : between ∉ part) :
    part <:+: before ∨ part <:+: behind := by
  -- The character is not in the part, so it stands before the part or behind it.
  obtain ⟨front, back, whole⟩ := occurs
  rw [List.append_assoc, List.append_eq_append_iff] at whole
  rcases whole with ⟨rest, rfl, restEq⟩ | ⟨_ | ⟨first, rest⟩, -, restEq⟩
  · rw [List.append_eq_append_iff] at restEq
    rcases restEq with ⟨more, rfl, -⟩ | ⟨_ | ⟨first, more⟩, partEq, moreEq⟩
    · exact .inl ⟨front, more, by simp⟩
    · exact .inl ⟨front, [], by simp [partEq]⟩
    · obtain ⟨rfl, -⟩ := List.cons.inj moreEq
      simp [partEq] at absent
  · cases part with
    | nil => exact .inl List.nil_infix
    | cons first part =>
        obtain ⟨rfl, -⟩ := List.cons.inj restEq
        simp at absent
  · obtain ⟨-, behindEq⟩ := List.cons.inj restEq
    exact .inr ⟨rest, back, by simp [behindEq]⟩
/-- A nonce that does not occur between the marks. -/
structure Suits (nonce : Text) (symbols : List Symbol) : Prop where
  isNonce : IsNonce nonce
  unforged : ¬ nonce <:+: bare symbols

theorem Suits.mono {nonce : Text} {part symbols : List Symbol} (suits : Suits nonce symbols)
    (isInfix : part <:+: symbols) : Suits nonce part := by
  obtain ⟨before, behind, rfl⟩ := isInfix
  refine ⟨suits.isNonce, fun occurs => suits.unforged ?_⟩
  have whole : bare (before ++ part ++ behind) = bare before ++ bare part ++ bare behind := by
    simp [bare]
  rw [whole]
  exact occurs.trans ⟨bare before, bare behind, rfl⟩

theorem suits_map_char {nonce text : Text} (isNonce : IsNonce nonce) (absent : ¬ nonce <:+: text) :
    Suits nonce (text.map Symbol.char) := by
  have bareEq : bare (text.map Symbol.char) = text := by
    induction text with
    | nil => rfl
    | cons first text ih =>
        have further := ih fun occurs => absent (occurs.trans (List.suffix_cons first text).isInfix)
        exact congrArg (first :: ·) further
  exact ⟨isNonce, by rwa [bareEq]⟩

/-- A nonce does not reach over a mark. -/
theorem Suits.join {nonce : Text} {before behind : List Symbol} (suits : Suits nonce before)
    (behindSuits : Suits nonce behind) (index : Nat) :
    Suits nonce (before ++ .mark index :: behind) := by
  refine ⟨suits.isNonce, fun occurs => ?_⟩
  have whole : bare (before ++ .mark index :: behind) = bare before ++ '_' :: bare behind := by
    simp [bare, Symbol.segment, Segment.fill]
  rw [whole] at occurs
  rcases infix_append_cons occurs suits.isNonce.underscore_not_mem with inBefore | inBehind
  · exact suits.unforged inBefore
  · exact behindSuits.unforged inBehind

/-- What is written says what the symbols are. -/
theorem Suits.eq_of_write_eq {nonce : Text} {symbols others : List Symbol}
    (suits : Suits nonce symbols) (othersSuit : Suits nonce others)
    (written : write nonce symbols = write nonce others) : symbols = others := by
  have unlike (first : Char) (index : Nat) (rest others : List Symbol)
      (restSuits : Suits nonce (.char first :: rest)) :
      first :: write nonce rest ≠ placeholderOf nonce index ++ write nonce others := by
    intro same
    have never := restSuits.isNonce.no_placeholder_starts (List.cons_ne_nil first [])
      restSuits.unforged index
    exact never ⟨write nonce others, same.symm⟩
  induction symbols generalizing others with
  | nil => exact ((write_eq_nil_iff nonce others).mp written.symm).symm
  | cons symbol symbols ih =>
      cases others with
      | nil => exact (write_eq_nil_iff nonce _).mp written
      | cons other others =>
          have further := ih (suits.mono (List.suffix_cons symbol symbols).isInfix)
            (othersSuit.mono (List.suffix_cons other others).isInfix)
          cases symbol with
          | char first =>
              cases other with
              | char second =>
                  obtain ⟨rfl, same⟩ := List.cons.inj written
                  rw [further same]
              | mark index =>
                  rw [write_mark_cons] at written
                  exact absurd written (unlike first index symbols others suits)
          | mark index =>
              rw [write_mark_cons] at written
              cases other with
              | char second =>
                  exact absurd written.symm (unlike second index others symbols othersSuit)
              | mark second =>
                  rw [write_mark_cons] at written
                  obtain rfl : index = second := placeholder_index_eq ⟨_, written⟩
                  rw [further (List.append_cancel_left written)]

/-- A mark is in a class if underscores are. -/
def Symbol.meets (class_ : Char → Bool) : Symbol → Bool
  | .char character => class_ character
  | .mark _ => class_ '_'

/-- A class that has all characters of names or none of them. -/
def Level (class_ : Char → Bool) : Prop :=
  ∀ character, isNameChar character = true → class_ character = class_ '_'

theorem level_isNameChar : Level isNameChar := by
  intro character named
  rw [named]
  rfl

theorem level_isBlank : Level isBlank := by
  intro character named
  rw [isBlank_eq_false_of_isNameChar named]
  decide

theorem level_ne {character : Char} (unnamed : isNameChar character = false) :
    Level fun other => other ≠ character := by
  intro other named
  have different : other ≠ character := by
    rintro rfl
    rw [named] at unnamed
    contradiction
  have differs : '_' ≠ character := by
    rintro rfl
    contradiction
  simp [different, differs]

section Nonce

variable {nonce : Text} (isNonce : IsNonce nonce)

include isNonce

omit isNonce in
theorem isNameChar_of_isNonceDigit {character : Char} (isDigit : isNonceDigit character = true) :
    isNameChar character = true := by
  have all : ∀ point < 128, isNonceDigit (Char.ofNat point) = true →
      isNameChar (Char.ofNat point) = true := by decide +kernel
  have ascii : character.toNat < 128 := by
    simp only [isNonceDigit, Char.isDigit, Bool.or_eq_true, Bool.and_eq_true, decide_eq_true_eq,
      Char.le_def, UInt32.le_iff_toNat_le, ge_iff_le] at isDigit
    have highest : 'f'.val.toNat = 102 := rfl
    have highestDigit : '9'.val.toNat = 57 := rfl
    have same : character.toNat = character.val.toNat := rfl
    omega
  have atPoint := all character.toNat ascii
  rw [Char.ofNat_toNat] at atPoint
  exact atPoint isDigit

theorem IsNonce.isNameChar_of_mem_placeholderOf {index : Nat} {character : Char}
    (member : character ∈ placeholderOf nonce index) : isNameChar character = true := by
  have started : ∀ character ∈ markStart, isNameChar character = true := by decide
  rw [placeholderOf_eq] at member
  simp only [List.mem_append, List.mem_cons, List.not_mem_nil, or_false] at member
  rcases member with inStart | inNonce | rfl | inIndex | rfl | rfl
  · exact started character inStart
  · exact isNameChar_of_isNonceDigit (isNonce.digits character inNonce)
  · rfl
  · have isDigit : character.isDigit = true :=
      Nat.isDigit_of_mem_toDigits (by omega) (by omega) inIndex
    exact isNameChar_of_isNonceDigit (by rw [isNonceDigit, isDigit, Bool.true_or])
  · rfl
  · rfl

theorem IsNonce.not_mem_placeholderOf {character : Char} (unnamed : isNameChar character = false)
    (index : Nat) : character ∉ placeholderOf nonce index := by
  intro member
  rw [isNonce.isNameChar_of_mem_placeholderOf member] at unnamed
  contradiction

section Class

variable {class_ : Char → Bool} (level : Level class_)

include level

theorem IsNonce.class_of_mem_placeholderOf {index : Nat} {character : Char}
    (member : character ∈ placeholderOf nonce index) : class_ character = class_ '_' :=
  level character (isNonce.isNameChar_of_mem_placeholderOf member)

theorem IsNonce.dropWhile_write (symbols : List Symbol) :
    (write nonce symbols).dropWhile class_ = write nonce (symbols.dropWhile (Symbol.meets class_)) := by
  induction symbols with
  | nil => rfl
  | cons symbol symbols ih =>
      cases symbol with
      | char first =>
          rw [write_char_cons, List.dropWhile_cons, List.dropWhile_cons, Symbol.meets, ih]
          split <;> simp
      | mark index =>
          rw [write_mark_cons, List.dropWhile_cons, Symbol.meets]
          cases inside : class_ '_' with
          | true =>
              have all : ∀ character ∈ placeholderOf nonce index, class_ character = true :=
                fun character member => by rw [isNonce.class_of_mem_placeholderOf level member, inside]
              rw [List.dropWhile_append_of_pos all, ih, if_pos rfl]
          | false =>
              have stops : Stops class_ (placeholderOf nonce index ++ write nonce symbols) := inside
              rw [dropWhile_eq_self_of_stops stops]
              rfl

theorem IsNonce.takeWhile_write (symbols : List Symbol) :
    (write nonce symbols).takeWhile class_ = write nonce (symbols.takeWhile (Symbol.meets class_)) := by
  induction symbols with
  | nil => rfl
  | cons symbol symbols ih =>
      cases symbol with
      | char first =>
          rw [write_char_cons, List.takeWhile_cons, List.takeWhile_cons, Symbol.meets, ih]
          split <;> simp
      | mark index =>
          rw [write_mark_cons, List.takeWhile_cons, Symbol.meets]
          cases inside : class_ '_' with
          | true =>
              have all : ∀ character ∈ placeholderOf nonce index, class_ character = true :=
                fun character member => by rw [isNonce.class_of_mem_placeholderOf level member, inside]
              rw [List.takeWhile_append_of_pos all, ih]
              simp
          | false =>
              have stops : Stops class_ (placeholderOf nonce index ++ write nonce symbols) := inside
              rw [takeWhile_eq_nil_of_stops stops]
              rfl

end Class

end Nonce

/-- A word without underscores does not reach into a mark. -/
theorem isPrefixOf?_write {word : Text} (plain : '_' ∉ word) (nonce : Text) (symbols : List Symbol) :
    word.isPrefixOf? (write nonce symbols) =
      ((word.map Symbol.char).isPrefixOf? symbols).map (write nonce) := by
  induction word generalizing symbols with
  | nil => rfl
  | cons first word ih =>
      rw [List.mem_cons, not_or] at plain
      rcases symbols with _ | ⟨⟨second⟩ | ⟨index⟩, symbols⟩
      · rfl
      · rw [write_char_cons, List.map_cons, List.isPrefixOf?, List.isPrefixOf?, ih plain.2]
        by_cases same : first = second
        · simp [same]
        · simp [same]
      · have differs : (first == '_') = false := by simpa using Ne.symm plain.1
        rw [write_mark_cons, placeholderOf_eq_cons, List.cons_append, List.map_cons]
        simp [List.isPrefixOf?, differs]

theorem IsNonce.run_write {nonce : Text} (isNonce : IsNonce nonce) {class_ : Char → Bool}
    (level : Level class_) (symbols : List Symbol) :
    run class_ (write nonce symbols) =
      (write nonce (symbols.takeWhile (Symbol.meets class_)),
        write nonce (symbols.dropWhile (Symbol.meets class_))) := by
  rw [run, isNonce.takeWhile_write level, isNonce.dropWhile_write level]

theorem splitOn_append_of_not_mem {separator : Char} {text : Text} (absent : separator ∉ text)
    (rest : Text) :
    (text ++ rest).splitOn separator = (rest.splitOn separator).modifyHead (text ++ ·) := by
  induction text with
  | nil =>
      rw [List.nil_append]
      cases rest.splitOn separator <;> rfl
  | cons first text ih =>
      rw [List.mem_cons, not_or] at absent
      have different : (first == separator) = false := by simpa using Ne.symm absent.1
      rw [List.splitOn] at ih
      rw [List.cons_append, List.splitOn, List.splitOnP_cons_eq_if_modifyHead, different, ih absent.2]
      cases rest.splitOn separator <;> simp

theorem IsNonce.splitOn_write {nonce : Text} (isNonce : IsNonce nonce) {separator : Char}
    (unnamed : isNameChar separator = false) (symbols : List Symbol) :
    (write nonce symbols).splitOn separator =
      (symbols.splitOn (.char separator)).map (write nonce) := by
  have map_modifyHead (symbol : Symbol) (words : List (List Symbol)) :
      (words.modifyHead (symbol :: ·)).map (write nonce) =
        (words.map (write nonce)).modifyHead (write nonce [symbol] ++ ·) := by
    cases words with
    | nil => rfl
    | cons word words => simp [← write_append]
  induction symbols with
  | nil => rfl
  | cons symbol symbols ih =>
      rw [List.splitOn, List.splitOn] at ih
      cases symbol with
      | char first =>
          rw [write_char_cons, List.splitOn, List.splitOn, List.splitOnP_cons_eq_if_modifyHead,
            List.splitOnP_cons_eq_if_modifyHead, ih]
          by_cases same : first = separator
          · simp [same]
          · simp [same, map_modifyHead]
      | mark index =>
          rw [write_mark_cons,
            splitOn_append_of_not_mem (isNonce.not_mem_placeholderOf unnamed index), List.splitOn,
            ih, List.splitOn, List.splitOnP_cons_eq_if_modifyHead]
          simp [map_modifyHead]

theorem level_isJoinedChar : Level isJoinedChar := by
  intro character named
  rw [isJoinedChar, named]
  rfl

theorem head?_any_write {class_ : Char → Bool} (nonce : Text) (symbols : List Symbol) :
    (write nonce symbols).head?.any class_ = symbols.head?.any (Symbol.meets class_) := by
  rcases symbols with _ | ⟨⟨first⟩ | ⟨index⟩, symbols⟩ <;> rfl

theorem IsNonce.length_write_eq {nonce other : Text} (isNonce : IsNonce nonce)
    (otherIsNonce : IsNonce other) (symbols : List Symbol) :
    (write nonce symbols).length = (write other symbols).length := by
  induction symbols with
  | nil => rfl
  | cons symbol symbols ih =>
      cases symbol with
      | char first => simp [ih]
      | mark index =>
          simp only [write_mark_cons, placeholderOf_eq, List.length_append, List.length_cons,
            isNonce.length_eq, otherIsNonce.length_eq, ih]

/-- The number of characters that symbols are written with. -/
def extent (symbols : List Symbol) : Nat :=
  (write (List.replicate 32 '0') symbols).length

theorem IsNonce.length_write {nonce : Text} (isNonce : IsNonce nonce) (symbols : List Symbol) :
    (write nonce symbols).length = extent symbols :=
  isNonce.length_write_eq (by decide) symbols

end ThemedViews.Protection
