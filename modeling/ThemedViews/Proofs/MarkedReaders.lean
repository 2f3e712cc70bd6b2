import ThemedViews.Proofs.ClosingTagSearch
import ThemedViews.Proofs.MarkedTexts
import ThemedViews.Proofs.NoparseScanning

/-!
# Reading texts that have marks

Whatever reads blanks, names, quoted texts or tags at the front of a text finds
the same under every nonce that does not occur in the text, and leaves the same.
-/

namespace ThemedViews.Protection

open Text Tags

/-- What is left behind the front of a text does not depend on the nonce. -/
def Reads (read : Text → Option Text) : Prop :=
  ∀ symbols, ∃ found : Option (List Symbol), (∀ rest, found = some rest → rest <:+ symbols) ∧
    ∀ nonce, Suits nonce symbols → read (write nonce symbols) = found.map (write nonce)

theorem reads_isPrefixOf? {word : Text} (plain : '_' ∉ word) : Reads word.isPrefixOf? := by
  intro symbols
  refine ⟨(word.map Symbol.char).isPrefixOf? symbols, fun rest found => ?_, fun nonce _ =>
    isPrefixOf?_write plain nonce symbols⟩
  exact ⟨_, List.isPrefixOf?_eq_some_iff_append_eq.mp found⟩

theorem reads_dropWhile {class_ : Char → Bool} (level : Level class_) :
    Reads fun text => some (text.dropWhile class_) := by
  intro symbols
  refine ⟨some (symbols.dropWhile (Symbol.meets class_)), ?_, ?_⟩
  · rintro rest ⟨⟩
    exact List.dropWhile_suffix _
  · intro nonce suits
    exact congrArg some (suits.isNonce.dropWhile_write level symbols)

theorem reads_afterBlanks : Reads fun text => some (afterBlanks text) :=
  reads_dropWhile level_isBlank

theorem Reads.bind {first second : Text → Option Text} (firstReads : Reads first)
    (secondReads : Reads second) : Reads fun text => (first text).bind second := by
  intro symbols
  obtain ⟨found, within, read⟩ := firstReads symbols
  cases found with
  | none =>
      refine ⟨none, by simp, fun nonce suits => ?_⟩
      exact congrArg (Option.bind · second) (read nonce suits)
  | some between =>
      have isSuffix := within between rfl
      obtain ⟨result, withinBetween, readBetween⟩ := secondReads between
      refine ⟨result, fun rest found => (withinBetween rest found).trans isSuffix, ?_⟩
      intro nonce suits
      calc
        (first (write nonce symbols)).bind second = second (write nonce between) := by
          rw [read nonce suits, Option.map_some, Option.bind_some]
        _ = result.map (write nonce) := readBetween nonce (suits.mono isSuffix.isInfix)

/-- What is left behind a tag with one word whose opening braces have been read. -/
def restOfTag? (word inside : Text) : Option Text :=
  (some (afterBlanks inside)).bind fun ahead => (word.isPrefixOf? ahead).bind fun behind =>
    (some (afterBlanks behind)).bind closer.isPrefixOf?

theorem afterTag?_eq (word text : Text) :
    afterTag? word text = (opener.isPrefixOf? text).bind (restOfTag? word) := by
  rw [afterTag?]
  cases opener.isPrefixOf? text with
  | none => rfl
  | some inside =>
      cases worded : word.isPrefixOf? (afterBlanks inside) with
      | none => simp [restOfTag?, worded]
      | some behind => simp [restOfTag?, worded]

theorem reads_restOfTag? {word : Text} (plain : '_' ∉ word) : Reads (restOfTag? word) :=
  reads_afterBlanks.bind ((reads_isPrefixOf? plain).bind
    (reads_afterBlanks.bind (reads_isPrefixOf? (by decide))))

theorem reads_afterTag? {word : Text} (plain : '_' ∉ word) : Reads (afterTag? word) := by
  have whole : afterTag? word = fun text => (opener.isPrefixOf? text).bind (restOfTag? word) :=
    funext (afterTag?_eq word)
  rw [whole]
  exact (reads_isPrefixOf? (by decide)).bind (reads_restOfTag? plain)

/-- A part of a text and what is left behind it do not depend on the nonce. -/
def ReadsParts (read : Text → Option (Text × Text)) : Prop :=
  ∀ symbols, ∃ found : Option (List Symbol × List Symbol),
    (∀ part rest, found = some (part, rest) → part <:+: symbols ∧ rest <:+ symbols) ∧
    ∀ nonce, Suits nonce symbols →
      read (write nonce symbols) = found.map (Prod.map (write nonce) (write nonce))

theorem Reads.bindParts {first : Text → Option Text} {second : Text → Option (Text × Text)}
    (firstReads : Reads first) (secondReads : ReadsParts second) :
    ReadsParts fun text => (first text).bind second := by
  intro symbols
  obtain ⟨found, within, read⟩ := firstReads symbols
  cases found with
  | none =>
      refine ⟨none, by simp, fun nonce suits => ?_⟩
      exact congrArg (Option.bind · second) (read nonce suits)
  | some between =>
      have isSuffix := within between rfl
      obtain ⟨result, withinBetween, readBetween⟩ := secondReads between
      refine ⟨result, fun part rest found => ?_, fun nonce suits => ?_⟩
      · obtain ⟨isInfix, restSuffix⟩ := withinBetween part rest found
        exact ⟨isInfix.trans isSuffix.isInfix, restSuffix.trans isSuffix⟩
      · calc
          (first (write nonce symbols)).bind second = second (write nonce between) := by
            rw [read nonce suits, Option.map_some, Option.bind_some]
          _ = _ := readBetween nonce (suits.mono isSuffix.isInfix)

/-- A part is kept while more is read behind it. -/
theorem ReadsParts.andThen {first : Text → Option (Text × Text)} {second : Text → Option Text}
    (firstReads : ReadsParts first) (secondReads : Reads second) :
    ReadsParts fun text => (first text).bind fun parts => (second parts.2).map (parts.1, ·) := by
  intro symbols
  obtain ⟨found, within, read⟩ := firstReads symbols
  cases found with
  | none =>
      refine ⟨none, by simp, fun nonce suits => ?_⟩
      exact congrArg (Option.bind · _) (read nonce suits)
  | some parts =>
      obtain ⟨part, between⟩ := parts
      obtain ⟨isInfix, isSuffix⟩ := within part between rfl
      obtain ⟨result, withinBetween, readBetween⟩ := secondReads between
      refine ⟨result.map (part, ·), fun other rest found => ?_, fun nonce suits => ?_⟩
      · obtain ⟨left, resultEq, same⟩ := Option.map_eq_some_iff.mp found
        obtain ⟨rfl, rfl⟩ := Prod.mk.inj same
        exact ⟨isInfix, (withinBetween left resultEq).trans isSuffix⟩
      · calc
          ((first (write nonce symbols)).bind fun parts => (second parts.2).map (parts.1, ·))
              = (second (write nonce between)).map (write nonce part, ·) := by
            rw [read nonce suits, Option.map_some, Option.bind_some, Prod.map]
          _ = _ := by
            rw [readBetween nonce (suits.mono isSuffix.isInfix), Option.map_map, Option.map_map]
            rfl

section Search

-- A search tests one place after another, and gives the text before the first
-- place where the test succeeds.
variable {test : Text → Option Text} (search : Text → Option (Text × Text))
  (step : ∀ first rest, search (first :: rest) =
    match test (first :: rest) with
    | some behind => some ([], behind)
    | none => (search rest).map fun (inner, behind) => (first :: inner, behind))
  (solid : ∀ first rest, isNameChar first = true → test (first :: rest) = none)

include step solid

theorem search_append {text : Text} (named : ∀ character ∈ text, isNameChar character = true)
    (rest : Text) : search (text ++ rest) = (search rest).map (prependBody text) := by
  induction text with
  | nil => simp
  | cons first text ih =>
      rw [List.forall_mem_cons] at named
      rw [List.cons_append, step, solid first _ named.1, ih named.2, Option.map_map]
      rfl

/-- Where the text before the first place ends, the test has succeeded. -/
theorem exists_search_write {ends : List Symbol → List Symbol → Prop} (atEnd : search [] = none)
    (reads : ∀ symbols, ∃ found : Option (List Symbol),
      (∀ rest, found = some rest → ends symbols rest) ∧
      ∀ nonce, Suits nonce symbols → test (write nonce symbols) = found.map (write nonce))
    (symbols : List Symbol) :
    ∃ found : Option (List Symbol × List Symbol),
      (∀ part rest, found = some (part, rest) →
        ∃ place, symbols = part ++ place ∧ ends place rest) ∧
      ∀ nonce, Suits nonce symbols →
        search (write nonce symbols) = found.map (Prod.map (write nonce) (write nonce)) := by
  induction symbols with
  | nil => exact ⟨none, by simp, fun nonce _ => atEnd⟩
  | cons symbol symbols ih =>
      obtain ⟨later, withinLater, searched⟩ := ih
      have isInfix := (List.suffix_cons symbol symbols).isInfix
      -- What is found further behind has the first symbol before it.
      have further : ∀ part rest,
          later.map (fun parts => (symbol :: parts.1, parts.2)) = some (part, rest) →
            ∃ place, symbol :: symbols = part ++ place ∧ ends place rest := by
        intro part rest found
        obtain ⟨parts, laterEq, same⟩ := Option.map_eq_some_iff.mp found
        obtain ⟨rfl, rfl⟩ := Prod.mk.inj same
        obtain ⟨place, whole, ended⟩ := withinLater parts.1 parts.2 laterEq
        exact ⟨place, by rw [whole, List.cons_append], ended⟩
      cases symbol with
      | mark index =>
          refine ⟨_, further, fun nonce suits => ?_⟩
          rw [write_mark_cons, search_append search step solid fun character member =>
              suits.isNonce.isNameChar_of_mem_placeholderOf member,
            searched nonce (suits.mono isInfix), Option.map_map, Option.map_map]
          rfl
      | char first =>
          obtain ⟨here, endsHere, tested⟩ := reads (.char first :: symbols)
          cases here with
          | some behind =>
              refine ⟨some ([], behind), ?_, fun nonce suits => ?_⟩
              · rintro part rest ⟨⟩
                exact ⟨_, rfl, endsHere behind rfl⟩
              · have found := tested nonce suits
                rw [write_char_cons] at found
                rw [write_char_cons, step, found]
                rfl
          | none =>
              refine ⟨_, further, fun nonce suits => ?_⟩
              have notHere := tested nonce suits
              rw [write_char_cons] at notHere
              rw [write_char_cons, step, notHere, searched nonce (suits.mono isInfix)]
              simp only [Option.map_none, Option.map_map]
              rfl

end Search

theorem afterTag?_eq_none_of_isNameChar (word : Text) {first : Char}
    (named : isNameChar first = true) (rest : Text) : afterTag? word (first :: rest) = none := by
  apply afterTag?_eq_none_of_ne
  rintro rfl
  contradiction

theorem readsParts_untilClosing? : ReadsParts untilClosing? := by
  intro symbols
  obtain ⟨found, within, searched⟩ := exists_search_write untilClosing? (fun _ _ => rfl)
    (fun _ rest named => afterTag?_eq_none_of_isNameChar _ named rest) rfl
    (reads_afterTag? (by decide : '_' ∉ "/noparse".toList)) symbols
  refine ⟨found, fun part rest isFound => ?_, searched⟩
  obtain ⟨place, whole, isSuffix⟩ := within part rest isFound
  rw [whole]
  exact ⟨(List.prefix_append part place).isInfix, isSuffix.trans (List.suffix_append part place)⟩

theorem exists_splitOnce?_closer_write (symbols : List Symbol) :
    ∃ found : Option (List Symbol × List Symbol),
      (∀ inner behind, found = some (inner, behind) →
        symbols = inner ++ (closer.map Symbol.char ++ behind)) ∧
      ∀ nonce, Suits nonce symbols → splitOnce? closer (write nonce symbols) =
        found.map (Prod.map (write nonce) (write nonce)) := by
  have reads (symbols : List Symbol) : ∃ found : Option (List Symbol),
      (∀ rest, found = some rest → symbols = closer.map Symbol.char ++ rest) ∧
      ∀ nonce, Suits nonce symbols →
        closer.isPrefixOf? (write nonce symbols) = found.map (write nonce) := by
    refine ⟨_, fun rest found => ?_, fun nonce _ => isPrefixOf?_write (by decide) nonce symbols⟩
    exact (List.isPrefixOf?_eq_some_iff_append_eq.mp found).symm
  have solid (first : Char) (rest : Text) (named : isNameChar first = true) :
      closer.isPrefixOf? (first :: rest) = none := by
    rw [isPrefixOf?_eq_none_iff, closer_eq, List.cons_prefix_cons]
    rintro ⟨rfl, _⟩
    contradiction
  obtain ⟨found, within, searched⟩ := exists_search_write (splitOnce? closer) (fun _ _ => rfl) solid
    rfl reads symbols
  refine ⟨found, fun inner behind isFound => ?_, searched⟩
  obtain ⟨place, whole, placeEq⟩ := within inner behind isFound
  rw [whole, placeEq]

theorem readsParts_pluginName? : ReadsParts pluginName? := by
  intro symbols
  let name := symbols.takeWhile (Symbol.meets isJoinedChar)
  let rest := symbols.dropWhile (Symbol.meets isJoinedChar)
  let words := name.splitOn (.char ':')
  refine ⟨if name.head?.any (Symbol.meets isNameStart) && 2 ≤ words.length &&
      words.all (fun word => !word.isEmpty) then some (name, rest) else none, ?_, ?_⟩
  · intro part left found
    obtain ⟨rfl, rfl⟩ := Prod.mk.inj (Option.some.inj (Option.ite_none_right_eq_some.mp found).2)
    exact ⟨(List.takeWhile_prefix _).isInfix, List.dropWhile_suffix _⟩
  · intro nonce suits
    have wordsEq : (write nonce name).splitOn ':' = words.map (write nonce) :=
      suits.isNonce.splitOn_write (by decide) name
    have nonempty (word : List Symbol) : (write nonce word).isEmpty = word.isEmpty := by
      rw [Bool.eq_iff_iff, List.isEmpty_iff, List.isEmpty_iff, write_eq_nil_iff]
    have ran : run (fun character => isNameChar character || character = ':')
        (write nonce symbols) = (write nonce name, write nonce rest) :=
      suits.isNonce.run_write level_isJoinedChar symbols
    rw [pluginName?, ran]
    simp only [wordsEq, head?_any_write, List.length_map, List.all_map, Function.comp_def, nonempty]
    split <;> rfl

/-- What is left behind the name at the front of a text. -/
def afterName? (text : Text) : Option Text :=
  if (text.takeWhile isNameChar).isEmpty then none else some (text.dropWhile isNameChar)

theorem reads_afterName? : Reads afterName? := by
  intro symbols
  refine ⟨if symbols.takeWhile (Symbol.meets isNameChar) = [] then none
    else some (symbols.dropWhile (Symbol.meets isNameChar)), ?_, ?_⟩
  · intro rest found
    obtain rfl := Option.some.inj (Option.ite_none_left_eq_some.mp found).2
    exact List.dropWhile_suffix _
  · intro nonce suits
    rw [afterName?, suits.isNonce.takeWhile_write level_isNameChar,
      suits.isNonce.dropWhile_write level_isNameChar]
    simp only [List.isEmpty_iff, write_eq_nil_iff]
    split <;> rfl

theorem map_snd_quotedValue?_cons (quote : Char) (text : Text) :
    (quotedValue? (quote :: text)).map Prod.snd =
      if quote = '"' ∨ quote = '\x27' then
        if text.dropWhile (· ≠ quote) = [] then none else some ((text.dropWhile (· ≠ quote)).drop 1)
      else none := by
  rw [quotedValue?]
  by_cases isQuote : quote = '"' ∨ quote = '\x27'
  · rw [if_pos (by simpa using isQuote), if_pos isQuote]
    simp only [run, List.isEmpty_iff]
    split <;> rfl
  · rw [if_neg (by simpa using isQuote), if_neg isQuote]
    rfl

theorem reads_quotedValue? : Reads fun text => (quotedValue? text).map Prod.snd := by
  intro symbols
  rcases symbols with _ | ⟨⟨quote⟩ | ⟨index⟩, symbols⟩
  · exact ⟨none, by simp, fun nonce _ => rfl⟩
  · by_cases isQuote : quote = '"' ∨ quote = '\x27'
    · have unnamed : isNameChar quote = false := by
        rcases isQuote with rfl | rfl <;> decide
      let behind := symbols.dropWhile (Symbol.meets (· ≠ quote))
      have isSuffix : behind <:+ .char quote :: symbols :=
        (List.dropWhile_suffix _).trans (List.suffix_cons _ _)
      refine ⟨if behind = [] then none else some (behind.drop 1), ?_, fun nonce suits => ?_⟩
      · intro rest found
        obtain rfl := Option.some.inj (Option.ite_none_left_eq_some.mp found).2
        exact (List.drop_suffix 1 behind).trans isSuffix
      · have dropped : (write nonce symbols).dropWhile (· ≠ quote) = write nonce behind :=
          suits.isNonce.dropWhile_write (level_ne unnamed) symbols
        have unquoted := map_snd_quotedValue?_cons quote (write nonce symbols)
        rw [if_pos isQuote, dropped] at unquoted
        refine unquoted.trans ?_
        cases behindEq : behind with
        | nil => rfl
        | cons symbol more =>
            have stopped := List.head?_dropWhile_not (Symbol.meets (· ≠ quote)) symbols
            rw [show symbols.dropWhile (Symbol.meets (· ≠ quote)) = symbol :: more from behindEq]
              at stopped
            cases symbol with
            | char last => rfl
            | mark index =>
                have same : '_' = quote := by simpa [Symbol.meets] using stopped
                rw [← same] at unnamed
                contradiction
    · refine ⟨none, by simp, fun nonce _ => ?_⟩
      have unquoted := map_snd_quotedValue?_cons quote (write nonce symbols)
      rwa [if_neg isQuote] at unquoted
  · exact ⟨none, by simp, fun nonce _ => rfl⟩

/-- What is left behind a key with its value is read step by step. -/
theorem map_snd_keyValue? (text : Text) :
    (keyValue? text).map Prod.snd =
      (afterName? text).bind fun rest => (some (afterBlanks rest)).bind fun rest =>
        (['='].isPrefixOf? rest).bind fun rest => (some (afterBlanks rest)).bind fun rest =>
          (quotedValue? rest).map Prod.snd := by
  cases ran : run isNameChar text with
  | mk key rest =>
      obtain ⟨rfl, rfl⟩ := Prod.mk.inj ran
      rw [keyValue?, ran, afterName?]
      cases text.takeWhile isNameChar with
      | nil => rfl
      | cons first more =>
          cases found : ['='].isPrefixOf? (afterBlanks (text.dropWhile isNameChar)) with
          | none => simp [found]
          | some behind =>
              cases quoted : quotedValue? (afterBlanks behind) with
              | none => simp [found, quoted]
              | some value => simp [found, quoted]

theorem reads_keyValue? : Reads fun text => (keyValue? text).map Prod.snd := by
  rw [funext map_snd_keyValue?]
  exact reads_afterName?.bind (reads_afterBlanks.bind
    ((reads_isPrefixOf? (by decide)).bind (reads_afterBlanks.bind reads_quotedValue?)))

theorem exists_afterAttributes_write (limit : Nat) (symbols : List Symbol) :
    ∃ rest, rest <:+ symbols ∧ ∀ nonce, Suits nonce symbols →
      afterAttributes limit (write nonce symbols) = write nonce rest := by
  induction limit generalizing symbols with
  | zero => exact ⟨symbols, List.suffix_rfl, fun _ _ => rfl⟩
  | succ limit ih =>
      obtain ⟨found, within, read⟩ := (reads_afterBlanks.bind reads_keyValue?) symbols
      have stepped (text : Text) : afterAttributes (limit + 1) text =
          if text.head?.any isBlank then
            (((keyValue? (afterBlanks text)).map Prod.snd).map (afterAttributes limit)).getD text
          else text := by
        rw [afterAttributes]
        cases keyValue? (afterBlanks text) <;> rfl
      by_cases apart : symbols.head?.any (Symbol.meets isBlank)
      · cases found with
        | none =>
            refine ⟨symbols, List.suffix_rfl, fun nonce suits => ?_⟩
            have unread : (keyValue? (afterBlanks (write nonce symbols))).map Prod.snd = none :=
              read nonce suits
            rw [stepped, unread]
            simp
        | some behind =>
            have isSuffix := within behind rfl
            obtain ⟨rest, restSuffix, further⟩ := ih behind
            refine ⟨rest, restSuffix.trans isSuffix, fun nonce suits => ?_⟩
            have readHere : (keyValue? (afterBlanks (write nonce symbols))).map Prod.snd =
                some (write nonce behind) := read nonce suits
            rw [stepped, head?_any_write, if_pos apart, readHere]
            exact further nonce (suits.mono isSuffix.isInfix)
      · refine ⟨symbols, List.suffix_rfl, fun nonce _ => ?_⟩
        rw [stepped, head?_any_write, if_neg apart]

theorem reads_afterAttributes : Reads fun text => some (afterAttributes text.length text) := by
  intro symbols
  obtain ⟨rest, isSuffix, read⟩ := exists_afterAttributes_write (extent symbols) symbols
  refine ⟨some rest, ?_, fun nonce suits => ?_⟩
  · rintro _ ⟨⟩
    exact isSuffix
  · have limit := suits.isNonce.length_write symbols
    exact congrArg some ((congrArg (afterAttributes · _) limit).trans (read nonce suits))

/-- The name in a tag whose opening braces have been read, and what is left
behind the tag. -/
def restOfOpening? (inside : Text) : Option (Text × Text) :=
  ((some (afterBlanks inside)).bind pluginName?).bind fun parts =>
    ((some (afterAttributes parts.2.length parts.2)).bind fun behind =>
      (some (afterBlanks behind)).bind closer.isPrefixOf?).map (parts.1, ·)

theorem readsParts_restOfOpening? : ReadsParts restOfOpening? :=
  (reads_afterBlanks.bindParts readsParts_pluginName?).andThen
    (reads_afterAttributes.bind (reads_afterBlanks.bind (reads_isPrefixOf? (by decide))))

theorem map_opening? (text : Text) :
    (opening? text).map (fun parts => (parts.1, parts.2.2)) =
      (opener.isPrefixOf? text).bind restOfOpening? := by
  rw [opening?]
  cases opener.isPrefixOf? text with
  | none => rfl
  | some inside =>
      cases named : pluginName? (afterBlanks inside) with
      | none => simp [restOfOpening?, named]
      | some parts =>
          cases closed : closer.isPrefixOf? (afterBlanks (afterAttributes parts.2.length parts.2)) with
          | none => simp [restOfOpening?, named, closed]
          | some left => simp [restOfOpening?, named, closed]

/-- The content of a block whose opening braces have been read, and what is left
behind the block. -/
def restOfBlock? (inside : Text) : Option (Text × Text) :=
  (restOfTag? "noparse".toList inside).bind untilClosing?

theorem readsParts_restOfBlock? : ReadsParts restOfBlock? :=
  (reads_restOfTag? (by decide)).bindParts readsParts_untilClosing?

theorem noparseBlock_eq (text : Text) :
    noparseBlock text = ((opener.isPrefixOf? text).bind restOfBlock?).map fun parts =>
      (parts.1, text.length - parts.2.length) := by
  rw [noparseBlock, afterOpening?, afterTag?_eq]
  cases opener.isPrefixOf? text with
  | none => rfl
  | some inside =>
      rw [Option.bind_some, Option.bind_some, restOfBlock?]
      cases restOfTag? "noparse".toList inside with
      | none => rfl
      | some content =>
          rw [Option.bind_some]
          cases found : untilClosing? content with
          | none => simp [found]
          | some parts => simp [found]

/-- What is read behind two opening braces leaves less than there was. -/
theorem ReadsParts.exists_taken {read : Text → Option (Text × Text)} (reads : ReadsParts read)
    (symbols : List Symbol) :
    ∃ found : Option (List Symbol × List Symbol × List Symbol),
      (∀ part taken rest, found = some (part, taken, rest) →
        symbols = taken ++ rest ∧ taken ≠ [] ∧ part <:+: symbols) ∧
      ∀ nonce, Suits nonce symbols → (opener.isPrefixOf? (write nonce symbols)).bind read =
        found.map fun parts => (write nonce parts.1, write nonce parts.2.2) := by
  have opened (nonce : Text) := isPrefixOf?_write (by decide : '_' ∉ opener) nonce symbols
  cases insideEq : (opener.map Symbol.char).isPrefixOf? symbols with
  | none =>
      refine ⟨none, by simp, fun nonce _ => ?_⟩
      rw [opened, insideEq]
      rfl
  | some inside =>
      have whole := (List.isPrefixOf?_eq_some_iff_append_eq.mp insideEq).symm
      have insideSuffix : inside <:+ symbols := ⟨_, whole.symm⟩
      obtain ⟨found, within, read⟩ := reads inside
      cases found with
      | none =>
          refine ⟨none, by simp, fun nonce suits => ?_⟩
          rw [opened, insideEq, Option.map_some, Option.bind_some,
            read nonce (suits.mono insideSuffix.isInfix)]
          rfl
      | some parts =>
          obtain ⟨part, rest⟩ := parts
          obtain ⟨isInfix, between, insideIs⟩ := within part rest rfl
          refine ⟨some (part, opener.map Symbol.char ++ between, rest), ?_, fun nonce suits => ?_⟩
          · rintro _ _ _ ⟨⟩
            refine ⟨by rw [List.append_assoc, insideIs, whole], by simp [opener_eq], ?_⟩
            exact isInfix.trans insideSuffix.isInfix
          · rw [opened, insideEq, Option.map_some, Option.bind_some,
              read nonce (suits.mono insideSuffix.isInfix)]
            rfl

end ThemedViews.Protection
