import ThemedViews.Proofs.TextCutting
import ThemedViews.Tags.Protection

/-!
# Restoring protected texts

A text under protection consists of pieces that are written as they are and of
marks, each of which stands for an entry; entries have marks of older entries.
Putting entries back one after another, newest first, gives the same text as
expanding every mark by the expansion of its entry, although each replacement
reads again what the earlier ones have put in.  What makes this true is that
the nonce occurs nowhere in the expanded text: then it occurs between the marks
at no stage, and a placeholder is found exactly where a mark was written.
-/

namespace ThemedViews.Protection

/-- A digit of a nonce. -/
def isNonceDigit (character : Char) : Bool :=
  character.isDigit || ('a' ≤ character && character ≤ 'f')

/-- A nonce is a number of 32 hexadecimal digits in lower case. -/
structure IsNonce (nonce : Text) : Prop where
  length_eq : nonce.length = 32
  digits : ∀ character ∈ nonce, isNonceDigit character = true

instance (nonce : Text) : Decidable (IsNonce nonce) :=
  decidable_of_iff
    (nonce.length = 32 ∧ ∀ character ∈ nonce, isNonceDigit character = true)
    ⟨fun ⟨length_eq, digits⟩ => ⟨length_eq, digits⟩,
      fun ⟨length_eq, digits⟩ => ⟨length_eq, digits⟩⟩

/-- A part of a text under protection: a text as it is, or the mark of an entry. -/
inductive Segment where
  | literal (text : Text)
  | mark (index : Nat)
  deriving Repr, DecidableEq

/-- A segment as it is written under a nonce. -/
def Segment.spell (nonce : Text) : Segment → Text
  | .literal text => text
  | .mark index => placeholderOf nonce index

/-- A segment with a text for each mark. -/
def Segment.fill (image : Nat → Text) : Segment → Text
  | .literal text => text
  | .mark index => image index

/-- Segments as they are written under a nonce. -/
def spell (nonce : Text) (segments : List Segment) : Text :=
  segments.flatMap (Segment.spell nonce)

/-- Segments with a text for each mark. -/
def fill (image : Nat → Text) (segments : List Segment) : Text :=
  segments.flatMap (Segment.fill image)

/-- All marks of the segments are of the first `bound` entries. -/
def Below (bound : Nat) (segments : List Segment) : Prop :=
  ∀ index, .mark index ∈ segments → index < bound

/-- Every entry has only marks of older ones. -/
def Ordered (entries : List (List Segment)) : Prop :=
  ∀ (index : Nat) (entry : List Segment), entries[index]? = some entry → Below index entry

/-- The complete expansion of segments: every mark becomes the expansion of
its entry.  The marks of an entry are below its own index, and those of the
segments are below `bound`. -/
def expansion (entries : List (List Segment)) : (bound : Nat) → List Segment → Text
  | _, [] => []
  | bound, .literal text :: rest => text ++ expansion entries bound rest
  | bound, .mark index :: rest =>
      (if index < bound then expansion entries index (entries[index]?.getD []) else []) ++
        expansion entries bound rest
termination_by bound segments => (bound, segments.length)

@[simp]
theorem spell_nil (nonce : Text) : spell nonce [] = [] :=
  rfl

@[simp]
theorem spell_cons (nonce : Text) (segment : Segment) (rest : List Segment) :
    spell nonce (segment :: rest) = segment.spell nonce ++ spell nonce rest := by
  simp [spell]

@[simp]
theorem spell_append (nonce : Text) (first second : List Segment) :
    spell nonce (first ++ second) = spell nonce first ++ spell nonce second := by
  simp [spell]

@[simp]
theorem fill_nil (image : Nat → Text) : fill image [] = [] :=
  rfl

@[simp]
theorem fill_cons (image : Nat → Text) (segment : Segment) (rest : List Segment) :
    fill image (segment :: rest) = segment.fill image ++ fill image rest := by
  simp [fill]

@[simp]
theorem fill_append (image : Nat → Text) (first second : List Segment) :
    fill image (first ++ second) = fill image first ++ fill image second := by
  simp [fill]

theorem below_nil (bound : Nat) : Below bound [] := by
  simp [Below]

theorem below_cons_literal {bound : Nat} {text : Text} {rest : List Segment} :
    Below bound (.literal text :: rest) ↔ Below bound rest := by
  simp [Below]

theorem below_cons_mark {bound index : Nat} {rest : List Segment} :
    Below bound (.mark index :: rest) ↔ index < bound ∧ Below bound rest := by
  simp [Below]

theorem Below.mono {first second : Nat} {segments : List Segment}
    (below : Below first segments) (le : first ≤ second) : Below second segments :=
  fun index member => Nat.lt_of_lt_of_le (below index member) le

/-- A segment with an entry in place of its mark. -/
def Segment.substitute (index : Nat) (inserted : List Segment) : Segment → List Segment
  | .literal text => [.literal text]
  | .mark other => if index = other then inserted else [.mark other]

/-- Segments with an entry in place of its marks. -/
def substitute (index : Nat) (inserted segments : List Segment) : List Segment :=
  segments.flatMap (Segment.substitute index inserted)

@[simp]
theorem substitute_cons (index : Nat) (inserted : List Segment) (segment : Segment)
    (rest : List Segment) :
    substitute index inserted (segment :: rest) =
      segment.substitute index inserted ++ substitute index inserted rest := by
  simp [substitute]

/-- A mark and its entry are filled alike if they come to the same text. -/
theorem fill_substitute {image : Nat → Text} {index : Nat} {inserted : List Segment}
    (fits : image index = fill image inserted) (segments : List Segment) :
    fill image (substitute index inserted segments) = fill image segments := by
  induction segments with
  | nil => rfl
  | cons segment rest ih =>
      rw [substitute_cons, fill_append, fill_cons, ih]
      cases segment with
      | literal text => simp [Segment.substitute]
      | mark other =>
          by_cases sought : index = other
          · rw [Segment.substitute, if_pos sought, ← fits, sought, Segment.fill]
          · simp [Segment.substitute, sought]

theorem below_substitute {bound : Nat} {inserted segments : List Segment}
    (below : Below (bound + 1) segments) (insertedBelow : Below bound inserted) :
    Below bound (substitute bound inserted segments) := by
  intro index member
  obtain ⟨segment, segmentMember, inside⟩ := List.mem_flatMap.mp member
  cases segment with
  | literal text => simp [Segment.substitute] at inside
  | mark other =>
      by_cases sought : bound = other
      · rw [Segment.substitute, if_pos sought] at inside
        exact insertedBelow index inside
      · rw [Segment.substitute, if_neg sought, List.mem_singleton] at inside
        have otherBelow := below other segmentMember
        have same : index = other := by simpa using inside
        omega

theorem spell_eq_fill_of_below_zero {nonce : Text} {image : Nat → Text}
    {segments : List Segment} (below : Below 0 segments) :
    spell nonce segments = fill image segments := by
  induction segments with
  | nil => rfl
  | cons segment rest ih =>
      cases segment with
      | literal text =>
          rw [spell_cons, fill_cons, ih (below_cons_literal.mp below)]
          rfl
      | mark index => exact absurd (below_cons_mark.mp below).1 (by omega)

/-- The text that a mark of an entry stands for in the end. -/
def entryExpansion (entries : List (List Segment)) (index : Nat) : Text :=
  expansion entries index (entries[index]?.getD [])

theorem expansion_eq_fill (entries : List (List Segment)) {bound : Nat}
    {segments : List Segment} (below : Below bound segments) :
    expansion entries bound segments = fill (entryExpansion entries) segments := by
  induction segments with
  | nil => simp [expansion]
  | cons segment rest ih =>
      cases segment with
      | literal text =>
          rw [expansion, ih (below_cons_literal.mp below)]
          rfl
      | mark index =>
          obtain ⟨indexBelow, restBelow⟩ := below_cons_mark.mp below
          rw [expansion, if_pos indexBelow, ih restBelow]
          rfl

theorem entryExpansion_of_getElem? {entries : List (List Segment)} (ordered : Ordered entries)
    {index : Nat} {entry : List Segment} (found : entries[index]? = some entry) :
    entryExpansion entries index = fill (entryExpansion entries) entry := by
  rw [entryExpansion, found, Option.getD_some, expansion_eq_fill entries (ordered index entry found)]

/-- Entries without marks. -/
def literals (texts : List Text) : List (List Segment) :=
  texts.map fun text => [.literal text]

theorem map_spell_literals (nonce : Text) (texts : List Text) :
    (literals texts).map (spell nonce) = texts := by
  rw [literals, List.map_map]
  apply List.map_id''
  intro text
  simp [Segment.spell]

theorem ordered_literals (texts : List Text) : Ordered (literals texts) := by
  intro index entry found
  rw [literals, List.getElem?_map, Option.map_eq_some_iff] at found
  obtain ⟨text, _, rfl⟩ := found
  simp [Below]

theorem ordered_append {older added : List (List Segment)} (ordered : Ordered older)
    (below : ∀ (place : Nat) (entry : List Segment),
      added[place]? = some entry → Below (older.length + place) entry) :
    Ordered (older ++ added) := by
  intro index entry found
  by_cases isOlder : index < older.length
  · rw [List.getElem?_append_left isOlder] at found
    exact ordered index entry found
  · rw [List.getElem?_append_right (by omega)] at found
    have place := below (index - older.length) entry found
    rwa [Nat.add_sub_cancel' (by omega)] at place

theorem entryExpansion_literal {entries : List (List Segment)} {index : Nat} {text : Text}
    (found : entries[index]? = some [.literal text]) : entryExpansion entries index = text := by
  simp [entryExpansion, found, expansion]

theorem getElem?_literals_append {texts : List Text} (added : List (List Segment)) {index : Nat}
    {text : Text} (found : texts[index]? = some text) :
    (literals texts ++ added)[index]? = some [.literal text] := by
  have inLiterals : (literals texts)[index]? = some [.literal text] := by
    rw [literals, List.getElem?_map, found]
    rfl
  rw [List.getElem?_append_left (List.getElem?_eq_some_iff.mp inLiterals).1, inLiterals]

/-- The beginning of all placeholders. -/
def markStart : Text :=
  "__VIEWCRAFT_NOPARSE_".toList

theorem length_markStart : markStart.length = 20 :=
  rfl

theorem markStart_eq_cons : markStart = '_' :: markStart.tail :=
  rfl

theorem markStart_tail_eq_cons : markStart.tail = '_' :: markStart.tail.tail :=
  rfl

theorem isNonceDigit_of_mem_markStart :
    ∀ character ∈ markStart, isNonceDigit character = false := by
  decide

theorem placeholderOf_eq (nonce : Text) (index : Nat) :
    placeholderOf nonce index =
      markStart ++ (nonce ++ ('_' :: (Nat.toDigits 10 index ++ ['_', '_']))) := by
  have ending : "__".toList = ['_', '_'] := rfl
  calc
    placeholderOf nonce index
        = markStart ++ nonce ++ ['_'] ++ Nat.toDigits 10 index ++ "__".toList := rfl
    _ = markStart ++ nonce ++ ['_'] ++ Nat.toDigits 10 index ++ ['_', '_'] := by rw [ending]
    _ = markStart ++ (nonce ++ ('_' :: (Nat.toDigits 10 index ++ ['_', '_']))) := by
      simp only [List.append_assoc, List.cons_append, List.nil_append]

theorem placeholderOf_ne_nil (nonce : Text) (index : Nat) : placeholderOf nonce index ≠ [] := by
  intro isNil
  have length_eq := congrArg List.length isNil
  rw [placeholderOf_eq, List.length_append, length_markStart, List.length_nil] at length_eq
  omega

theorem placeholderOf_eq_cons (nonce : Text) (index : Nat) :
    placeholderOf nonce index = '_' :: (placeholderOf nonce index).tail :=
  rfl

/-- No placeholder begins at a character that is not an underscore. -/
theorem replace_append_of_underscore_not_mem (nonce : Text) (index : Nat) (inserted : Text)
    {text : Text} (absent : '_' ∉ text) (rest : Text) :
    Text.replace (placeholderOf nonce index) inserted (text ++ rest) =
      text ++ Text.replace (placeholderOf nonce index) inserted rest := by
  apply Text.replace_append_of_forall_not_prefix (placeholderOf_ne_nil nonce index)
  intro suffix nonempty isSuffix isPrefix
  cases suffix with
  | nil => contradiction
  | cons character suffix =>
      rw [placeholderOf_eq, markStart_eq_cons, List.cons_append, List.cons_append,
        List.cons_prefix_cons] at isPrefix
      apply absent
      rw [isPrefix.1]
      exact isSuffix.subset List.mem_cons_self

/-- No placeholder begins at an underscore that stands alone. -/
theorem replace_underscore_cons (nonce : Text) (index : Nat) (inserted : Text)
    {character : Char} (different : '_' ≠ character) (rest : Text) :
    Text.replace (placeholderOf nonce index) inserted ('_' :: character :: rest) =
      '_' :: Text.replace (placeholderOf nonce index) inserted (character :: rest) := by
  have atFront : ∀ suffix, suffix ≠ [] → suffix <:+ ['_'] →
      ¬ placeholderOf nonce index <+: suffix ++ (character :: rest) := by
    intro suffix nonempty isSuffix isPrefix
    have single : suffix = ['_'] := by
      rcases List.suffix_cons_iff.mp isSuffix with whole | inside
      · exact whole
      · exact absurd (List.suffix_nil.mp inside) nonempty
    rw [single, placeholderOf_eq, markStart_eq_cons] at isPrefix
    have second := (List.cons_prefix_cons.mp isPrefix).2
    rw [markStart_tail_eq_cons] at second
    exact different (List.cons_prefix_cons.mp second).1
  exact Text.replace_append_of_forall_not_prefix (placeholderOf_ne_nil nonce index) inserted atFront

theorem takeWhile_toDigits_append (number : Nat) (rest : Text) :
    (Nat.toDigits 10 number ++ '_' :: rest).takeWhile (· ≠ '_') = Nat.toDigits 10 number := by
  rw [List.takeWhile_append_of_pos]
  · simp
  · intro digit member
    have different : digit ≠ '_' := by
      rintro rfl
      exact Nat.underscore_not_in_toDigits member
    simp [different]

theorem placeholder_index_eq {nonce rest : Text} {index other : Nat}
    (isPrefix : placeholderOf nonce index <+: placeholderOf nonce other ++ rest) :
    index = other := by
  obtain ⟨tail, equal⟩ := isPrefix
  simp only [placeholderOf_eq, List.append_assoc, List.append_cancel_left_eq,
    List.cons_append, List.cons.injEq, true_and] at equal
  have digitsEq := congrArg (List.takeWhile (· ≠ '_')) equal
  rw [takeWhile_toDigits_append, takeWhile_toDigits_append] at digitsEq
  calc
    index = Nat.ofDigitChars 10 (Nat.toDigits 10 index) 0 := Nat.ofDigitChars_ten_toDigits.symm
    _ = Nat.ofDigitChars 10 (Nat.toDigits 10 other) 0 := by rw [digitsEq]
    _ = other := Nat.ofDigitChars_ten_toDigits

section Nonce

variable {nonce : Text} (isNonce : IsNonce nonce)

include isNonce

theorem IsNonce.ne_nil : nonce ≠ [] := by
  intro isNil
  have length_eq := isNonce.length_eq
  rw [isNil, List.length_nil] at length_eq
  omega

theorem IsNonce.underscore_not_mem : '_' ∉ nonce := by
  intro member
  have isDigit := isNonce.digits '_' member
  have isNoDigit : isNonceDigit '_' = false := by decide
  rw [isNoDigit] at isDigit
  contradiction

/-- A character in front that no nonce has does not help a nonce to occur. -/
theorem IsNonce.not_infix_cons {text : Text} (unforged : ¬ nonce <:+: text) :
    ¬ nonce <:+: '_' :: text := by
  intro occurs
  rcases List.infix_cons_iff.mp occurs with isPrefix | inside
  · cases nonceEq : nonce with
    | nil => exact isNonce.ne_nil nonceEq
    | cons digit digits =>
        rw [nonceEq, List.cons_prefix_cons] at isPrefix
        apply isNonce.underscore_not_mem
        rw [nonceEq, isPrefix.1]
        exact List.mem_cons_self
  · exact unforged inside

/-- An end of the beginning of placeholders is not taken for a nonce. -/
theorem IsNonce.markStart_end_ne {front back first second : Text}
    (whole : markStart = front ++ back) (nonempty : back ≠ []) :
    back ++ first ≠ nonce ++ second := by
  intro equal
  cases back with
  | nil => contradiction
  | cons character back =>
      cases nonceEq : nonce with
      | nil => exact isNonce.ne_nil nonceEq
      | cons digit digits =>
          rw [nonceEq, List.cons_append, List.cons_append, List.cons.injEq] at equal
          have isDigit := isNonce.digits digit (by simp [nonceEq])
          have isNoDigit := isNonceDigit_of_mem_markStart character (by simp [whole])
          rw [equal.1, isDigit] at isNoDigit
          contradiction

/-- A placeholder that begins inside the beginning of a mark has its nonce too
early. -/
theorem IsNonce.markStart_append_ne {back first second : Text}
    (short : back.length < markStart.length) :
    markStart ++ first ≠ back ++ (nonce ++ second) := by
  intro equal
  rcases List.append_eq_append_iff.mp equal with
    ⟨rest, backParts, _⟩ | ⟨rest, startParts, nonceEq⟩
  · rw [backParts, List.length_append] at short
    omega
  · have restNonempty : rest ≠ [] := by
      intro isNil
      rw [isNil, List.append_nil] at startParts
      rw [startParts] at short
      omega
    exact isNonce.markStart_end_ne startParts restNonempty nonceEq.symm

/-- Where the nonce does not occur in the expanded text, no placeholder begins
before the next mark. -/
theorem IsNonce.no_placeholder_starts {before : Text} (started : before ≠ [])
    {image : Nat → Text} {segments : List Segment}
    (unforged : ¬ nonce <:+: before ++ fill image segments) (index : Nat) :
    ¬ placeholderOf nonce index <+: before ++ spell nonce segments := by
  induction segments generalizing before with
  | nil =>
      rintro ⟨tail, equal⟩
      apply unforged
      rw [placeholderOf_eq] at equal
      rw [fill_nil, ← spell_nil nonce, ← equal]
      exact ⟨markStart, '_' :: (Nat.toDigits 10 index ++ ['_', '_']) ++ tail,
        by simp only [List.append_assoc]⟩
  | cons segment rest ih =>
      cases segment with
      | literal text =>
          have longerStarted : before ++ text ≠ [] := by simp [started]
          have further := ih longerStarted (by simpa [Segment.fill] using unforged)
          simpa [Segment.spell] using further
      | mark other =>
          rintro ⟨tail, equal⟩
          rw [spell_cons, Segment.spell, placeholderOf_eq, placeholderOf_eq,
            List.append_assoc, List.append_assoc] at equal
          have beforeUnforged : ¬ nonce <:+: before := fun occurs =>
            unforged (occurs.trans (List.prefix_append before _).isInfix)
          -- The mark begins behind the nonce that is sought, inside of it, or before it.
          rcases List.append_eq_append_iff.mp equal with
            ⟨inner, beforeEq, nonceEq⟩ | ⟨back, startEq, backEq⟩
          · rw [List.append_assoc] at nonceEq
            rcases List.append_eq_append_iff.mp nonceEq with
              ⟨behind, innerEq, _⟩ | ⟨digits, nonceParts, markEq⟩
            · exact beforeUnforged ⟨markStart, behind, by rw [beforeEq, innerEq, List.append_assoc]⟩
            · cases digits with
              | nil =>
                  apply beforeUnforged
                  exact ⟨markStart, [], by rw [beforeEq, nonceParts, List.append_nil, List.append_nil]⟩
              | cons digit digits =>
                  have isUnderscore : '_' = digit := by
                    rw [markStart_eq_cons, List.cons_append, List.cons_append] at markEq
                    exact (List.cons.inj markEq).1
                  apply isNonce.underscore_not_mem
                  rw [nonceParts, isUnderscore]
                  exact List.mem_append_right _ List.mem_cons_self
          · have backShort : back.length < markStart.length := by
              have := List.length_pos_iff.mpr started
              rw [startEq, List.length_append]
              omega
            rw [List.append_assoc] at backEq
            exact isNonce.markStart_append_ne backShort backEq

/-- A text between the marks is copied. -/
theorem IsNonce.replace_append (index : Nat) (inserted : Text) {text : Text}
    {image : Nat → Text} {rest : List Segment}
    (unforged : ¬ nonce <:+: text ++ fill image rest) :
    Text.replace (placeholderOf nonce index) inserted (text ++ spell nonce rest) =
      text ++ Text.replace (placeholderOf nonce index) inserted (spell nonce rest) := by
  apply Text.replace_append_of_forall_not_prefix (placeholderOf_ne_nil nonce index)
  rintro suffix nonempty ⟨front, rfl⟩
  have suffixUnforged : ¬ nonce <:+: suffix ++ fill image rest := by
    intro occurs
    apply unforged
    rw [List.append_assoc]
    exact occurs.trans (List.suffix_append front _).isInfix
  exact isNonce.no_placeholder_starts nonempty suffixUnforged index

/-- The beginning of another mark is copied, since a later start in it does not
lead to a nonce. -/
theorem IsNonce.replace_markStart_append (index : Nat) (inserted : Text) {behind : Text}
    (different : ¬ placeholderOf nonce index <+: markStart ++ (nonce ++ behind)) :
    Text.replace (placeholderOf nonce index) inserted (markStart ++ (nonce ++ behind)) =
      markStart ++ Text.replace (placeholderOf nonce index) inserted (nonce ++ behind) := by
  apply Text.replace_append_of_forall_not_prefix (placeholderOf_ne_nil nonce index)
  rintro back nonempty ⟨front, startEq⟩ isPrefix
  cases front with
  | nil =>
      rw [List.nil_append] at startEq
      rw [startEq] at isPrefix
      exact different isPrefix
  | cons character front =>
      obtain ⟨tail, equal⟩ := isPrefix
      have backShort := congrArg List.length startEq
      rw [List.cons_append, List.length_cons, List.length_append] at backShort
      rw [placeholderOf_eq, List.append_assoc, List.append_assoc] at equal
      have short : back.length < markStart.length := by omega
      exact isNonce.markStart_append_ne short equal

/-- Another mark is copied although much of it looks like the one that is
sought. -/
theorem IsNonce.replace_mark_append {index other : Nat} (different : index ≠ other)
    (inserted : Text) {image : Nat → Text} {rest : List Segment}
    (unforged : ¬ nonce <:+: fill image rest) :
    Text.replace (placeholderOf nonce index) inserted
        (placeholderOf nonce other ++ spell nonce rest) =
      placeholderOf nonce other ++
        Text.replace (placeholderOf nonce index) inserted (spell nonce rest) := by
  have notSought : ¬ placeholderOf nonce index <+: placeholderOf nonce other ++ spell nonce rest :=
    fun isPrefix => different (placeholder_index_eq isPrefix)
  have ending :
      Text.replace (placeholderOf nonce index) inserted (['_', '_'] ++ spell nonce rest) =
        ['_', '_'] ++ Text.replace (placeholderOf nonce index) inserted (spell nonce rest) :=
    isNonce.replace_append index inserted
      (isNonce.not_infix_cons (isNonce.not_infix_cons unforged))
  cases digitsEq : Nat.toDigits 10 other with
  | nil => exact absurd digitsEq Nat.toDigits_ne_nil
  | cons digit digits =>
      have noUnderscore : '_' ∉ digit :: digits := by
        rw [← digitsEq]
        exact Nat.underscore_not_in_toDigits
      have notDigit : '_' ≠ digit := fun equal => noUnderscore (by rw [equal]; exact List.mem_cons_self)
      rw [placeholderOf_eq nonce other, digitsEq] at notSought ⊢
      simp only [List.append_assoc, List.cons_append] at notSought ⊢
      rw [isNonce.replace_markStart_append index inserted notSought,
        replace_append_of_underscore_not_mem nonce index inserted isNonce.underscore_not_mem,
        replace_underscore_cons nonce index inserted notDigit,
        ← List.cons_append,
        replace_append_of_underscore_not_mem nonce index inserted noUnderscore]
      simp only [List.cons_append, List.nil_append] at ending ⊢
      rw [ending]

/-- Replacing the text of a placeholder puts the entry in place of its marks. -/
theorem IsNonce.replace_spell (index : Nat) (inserted : List Segment) {image : Nat → Text}
    {segments : List Segment} (unforged : ¬ nonce <:+: fill image segments) :
    Text.replace (placeholderOf nonce index) (spell nonce inserted) (spell nonce segments) =
      spell nonce (substitute index inserted segments) := by
  induction segments with
  | nil => exact Text.replace_nil (placeholderOf_ne_nil nonce index) _
  | cons segment rest ih =>
      have restUnforged : ¬ nonce <:+: fill image rest := fun occurs =>
        unforged (occurs.trans (List.suffix_append (segment.fill image) _).isInfix)
      rw [spell_cons, substitute_cons, spell_append]
      cases segment with
      | literal text =>
          have literalUnforged : ¬ nonce <:+: text ++ fill image rest := unforged
          have copied := isNonce.replace_append index (spell nonce inserted) literalUnforged
          rw [Segment.spell, copied, ih restUnforged]
          simp [Segment.substitute, Segment.spell]
      | mark other =>
          by_cases sought : index = other
          · rw [Segment.spell, ← sought,
              Text.replace_needle_append (placeholderOf_ne_nil nonce index), ih restUnforged,
              Segment.substitute, if_pos rfl]
          · rw [Segment.spell, isNonce.replace_mark_append sought _ restUnforged, ih restUnforged,
              Segment.substitute, if_neg sought]
            simp [Segment.spell]

/-- Entries put back one after another, newest first, fill the marks with what
their entries come to. -/
theorem IsNonce.restore_spell {image : Nat → Text} {entries : List (List Segment)}
    (fits : ∀ (index : Nat) (entry : List Segment), entries[index]? = some entry → image index = fill image entry)
    (ordered : Ordered entries) {content : List Segment}
    (below : Below entries.length content) (unforged : ¬ nonce <:+: fill image content) :
    restore nonce (entries.map (spell nonce)).reverse (spell nonce content) =
      fill image content := by
  induction entries using List.reverseRecOn generalizing content with
  | nil => exact spell_eq_fill_of_below_zero below
  | append_singleton older newest ih =>
      have newestEntry : (older ++ [newest])[older.length]? = some newest := by simp
      have olderEntry : ∀ (index : Nat) (entry : List Segment), older[index]? = some entry →
          (older ++ [newest])[index]? = some entry := by
        intro index entry found
        rw [List.getElem?_append_left (List.getElem?_eq_some_iff.mp found).1, found]
      have olderFits : ∀ (index : Nat) (entry : List Segment), older[index]? = some entry →
          image index = fill image entry :=
        fun index entry found => fits index entry (olderEntry index entry found)
      have olderOrdered : Ordered older :=
        fun index entry found => ordered index entry (olderEntry index entry found)
      have newestFits := fits older.length newest newestEntry
      have newestBelow := ordered older.length newest newestEntry
      rw [List.length_append] at below
      have filled := fill_substitute newestFits content
      calc
        restore nonce ((older ++ [newest]).map (spell nonce)).reverse (spell nonce content)
            = restore nonce (older.map (spell nonce)).reverse
                (Text.replace (placeholderOf nonce older.length) (spell nonce newest)
                  (spell nonce content)) := by
              simp [restore]
        _ = restore nonce (older.map (spell nonce)).reverse
              (spell nonce (substitute older.length newest content)) := by
              rw [isNonce.replace_spell older.length newest unforged]
        _ = fill image (substitute older.length newest content) := by
              apply ih olderFits olderOrdered (below_substitute below newestBelow)
              rw [filled]
              exact unforged
        _ = fill image content := filled

end Nonce

/-- Putting entries back is the complete expansion of the marks, provided the
nonce does not occur in the expanded text. -/
theorem inject_spell (protection : Protection) (isNonce : IsNonce protection.nonce)
    (entries : List (List Segment))
    (spelled : protection.entries = entries.map (spell protection.nonce))
    (ordered : Ordered entries) (content : List Segment)
    (below : Below entries.length content)
    (unforged : ¬ protection.nonce <:+: expansion entries entries.length content) :
    protection.inject (spell protection.nonce content) =
      (expansion entries entries.length content,
        { protection with pass := protection.pass + 1, entries := [] }) := by
  have fits : ∀ (index : Nat) (entry : List Segment), entries[index]? = some entry →
      entryExpansion entries index = fill (entryExpansion entries) entry :=
    fun _ _ => entryExpansion_of_getElem? ordered
  rw [expansion_eq_fill entries below] at unforged ⊢
  rw [inject, spelled, isNonce.restore_spell fits ordered below unforged]

/-- An entry mentioned by another, an empty one between two marks, and one
mentioned again by the content. -/
theorem inject_spell_nested :
    let nonce : Text := List.replicate 32 'a'
    let entries : List (List Segment) := [[.literal ['x']], [.mark 0, .mark 0, .literal ['y']], []]
    let protection : Protection := ⟨true, fun _ => nonce, 0, entries.map (spell nonce)⟩
    protection.inject (spell nonce [.mark 1, .mark 2, .mark 0, .literal ['z']]) =
      (['x', 'x', 'y', 'x', 'z'], ⟨true, fun _ => nonce, 1, []⟩) := by
  intro nonce entries protection
  have expanded : expansion entries entries.length [.mark 1, .mark 2, .mark 0, .literal ['z']] =
      ['x', 'x', 'y', 'x', 'z'] := by
    simp [entries, expansion]
  have ordered : Ordered entries := by
    intro index entry found
    rcases index with _ | _ | _ | index <;> simp [entries] at found <;>
      subst found <;> simp [Below]
  have injected := inject_spell protection (by decide) entries rfl ordered
    [.mark 1, .mark 2, .mark 0, .literal ['z']] (by simp [Below, entries])
    (by rw [expanded]; decide)
  rw [expanded] at injected
  exact injected

end ThemedViews.Protection
