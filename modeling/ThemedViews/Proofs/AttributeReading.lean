import ThemedViews.Proofs.Tables
import ThemedViews.Proofs.TextCutting
import ThemedViews.Tags.Recognition

/-!
# Reading opening tags

An opening tag is described by what it is made of: blanks, a name, and attributes
with values between quotes.  A value may be any text without its quote, also one
that looks like attributes or like the end of the tag.  The recognisers read the
printed form of a tag and stop exactly behind it, whatever text follows.
-/

namespace ThemedViews

namespace Text

/-- A text that does not begin with a character of a class. -/
def Stops (class_ : Char → Bool) : Text → Prop
  | [] => True
  | first :: _ => class_ first = false

@[simp]
theorem stops_nil (class_ : Char → Bool) : Stops class_ [] :=
  trivial

@[simp]
theorem stops_cons {class_ : Char → Bool} {first : Char} {rest : Text} :
    Stops class_ (first :: rest) ↔ class_ first = false :=
  Iff.rfl

theorem stops_append {class_ : Char → Bool} {leading rest : Text}
    (none : ∀ character ∈ leading, class_ character = false) (stops : Stops class_ rest) :
    Stops class_ (leading ++ rest) := by
  cases leading with
  | nil => exact stops
  | cons first leading => exact none first List.mem_cons_self

theorem dropWhile_eq_self_of_stops {class_ : Char → Bool} {text : Text}
    (stops : Stops class_ text) : text.dropWhile class_ = text := by
  cases text with
  | nil => rfl
  | cons first text => rw [List.dropWhile_cons_of_neg (by simpa using stops)]

theorem takeWhile_eq_nil_of_stops {class_ : Char → Bool} {text : Text}
    (stops : Stops class_ text) : text.takeWhile class_ = [] := by
  cases text with
  | nil => rfl
  | cons first text => rw [List.takeWhile_cons_of_neg (by simpa using stops)]

theorem dropWhile_append_of_stops {class_ : Char → Bool} {leading rest : Text}
    (all : ∀ character ∈ leading, class_ character = true) (stops : Stops class_ rest) :
    (leading ++ rest).dropWhile class_ = rest := by
  rw [List.dropWhile_append_of_pos all, dropWhile_eq_self_of_stops stops]

theorem takeWhile_append_of_stops {class_ : Char → Bool} {leading rest : Text}
    (all : ∀ character ∈ leading, class_ character = true) (stops : Stops class_ rest) :
    (leading ++ rest).takeWhile class_ = leading := by
  rw [List.takeWhile_append_of_pos all, takeWhile_eq_nil_of_stops stops, List.append_nil]

theorem run_append {class_ : Char → Bool} {leading rest : Text}
    (all : ∀ character ∈ leading, class_ character = true) (stops : Stops class_ rest) :
    run class_ (leading ++ rest) = (leading, rest) := by
  rw [run, takeWhile_append_of_stops all stops, dropWhile_append_of_stops all stops]

/-- The end of a text is trimmed behind the last character that is not of the class. -/
theorem exists_trimEndOf_append {class_ : Char → Bool} (last : Char)
    (isOther : class_ last = false) (leading trailing : Text) :
    ∃ kept, kept <+: trailing ∧
      trimEndOf class_ (leading ++ last :: trailing) = leading ++ last :: kept := by
  have trimmedBefore : (last :: leading.reverse).dropWhile class_ = last :: leading.reverse :=
    dropWhile_eq_self_of_stops isOther
  refine ⟨trimEndOf class_ trailing, ?_, ?_⟩
  · rw [trimEndOf, ← List.reverse_suffix, List.reverse_reverse]
    exact List.dropWhile_suffix class_
  · simp only [trimEndOf, List.reverse_append, List.reverse_cons, List.append_assoc,
      List.singleton_append, List.dropWhile_append, trimmedBefore]
    split
    · rename_i isEmpty
      rw [List.isEmpty_iff] at isEmpty
      simp [isEmpty]
    · simp

end Text

namespace Tags

open Text

theorem opener_eq : opener = ['{', '{'] :=
  rfl

theorem closer_eq : closer = ['}', '}'] :=
  rfl

/-- The code points of all blanks. -/
def blankPoints : List Nat :=
  [9, 10, 11, 12, 13, 32, 133, 160, 5760, 8192, 8193, 8194, 8195, 8196, 8197, 8198, 8199, 8200,
    8201, 8202, 8232, 8233, 8239, 8287, 12288]

theorem mem_blankPoints {character : Char} (blank : isBlank character = true) :
    character.toNat ∈ blankPoints := by
  simp only [isBlank, Bool.or_eq_true, Bool.and_eq_true, decide_eq_true_eq, beq_iff_eq] at blank
  simp only [blankPoints, List.mem_cons, List.not_mem_nil, or_false]
  omega

theorem isNameChar_eq_false_of_isBlank {character : Char} (blank : isBlank character = true) :
    isNameChar character = false := by
  have none : ∀ point ∈ blankPoints, isNameChar (Char.ofNat point) = false := by decide +kernel
  have atPoint := none character.toNat (mem_blankPoints blank)
  rwa [Char.ofNat_toNat] at atPoint

theorem isBlank_eq_false_of_isNameChar {character : Char} (named : isNameChar character = true) :
    isBlank character = false := by
  cases blank : isBlank character with
  | false => rfl
  | true =>
      rw [isNameChar_eq_false_of_isBlank blank] at named
      contradiction

/-- A text of blanks. -/
structure Blanks where
  text : Text
  blank : ∀ character ∈ text, isBlank character = true

def noBlanks : Blanks :=
  ⟨[], by decide⟩

/-- A character of a name, of which colons join the words. -/
def isJoinedChar (character : Char) : Bool :=
  isNameChar character || character = ':'

/-- The name of a plugin: at least two words that are joined by colons. -/
structure PluginName where
  text : Text
  joined : ∀ character ∈ text, isJoinedChar character = true
  started : text.head?.any isNameStart = true
  two_words : 2 ≤ (text.splitOn ':').length
  no_empty_word : ∀ word ∈ text.splitOn ':', word ≠ []

/-- An attribute with a blank before it.  Its value is any text without its quote. -/
structure AnyAttribute where
  before : Blanks
  separated : before.text ≠ []
  key : Text
  key_ne_nil : key ≠ []
  key_named : ∀ character ∈ key, isNameChar character = true
  beforeSign : Blanks
  behindSign : Blanks
  quote : Char
  isQuote : quote = '"' ∨ quote = '\x27'
  value : Text
  quoted : quote ∉ value

/-- A plugin tag with attributes of any values. -/
structure AnyTag where
  before : Blanks
  name : PluginName
  attributes : List AnyAttribute
  behind : Blanks

@[simp]
theorem isPrefixOf?_opener (rest : Text) : opener.isPrefixOf? (opener ++ rest) = some rest :=
  isPrefixOf?_append opener rest

theorem isPrefixOf?_singleton (character : Char) (rest : Text) :
    [character].isPrefixOf? (character :: rest) = some rest :=
  isPrefixOf?_append [character] rest

theorem afterBlanks_append (blanks : Blanks) {rest : Text} (stops : Stops isBlank rest) :
    afterBlanks (blanks.text ++ rest) = rest :=
  dropWhile_append_of_stops blanks.blank stops

theorem Blanks.stops_append (blanks : Blanks) {class_ : Char → Bool} {rest : Text}
    (none : ∀ character, isBlank character = true → class_ character = false)
    (stops : Stops class_ rest) : Stops class_ (blanks.text ++ rest) :=
  Text.stops_append (fun character member => none character (blanks.blank character member))
    stops

theorem Blanks.not_mem (blanks : Blanks) {character : Char} (other : isBlank character = false) :
    character ∉ blanks.text := by
  intro member
  rw [blanks.blank character member] at other
  contradiction

theorem isJoinedChar_eq_false_of_isBlank {character : Char} (blank : isBlank character = true) :
    isJoinedChar character = false := by
  have noColon : character ≠ ':' := by
    rintro rfl
    contradiction
  simp [isJoinedChar, isNameChar_eq_false_of_isBlank blank, noColon]

theorem isBlank_eq_false_of_isJoinedChar {character : Char}
    (joined : isJoinedChar character = true) : isBlank character = false := by
  cases blank : isBlank character with
  | false => rfl
  | true =>
      rw [isJoinedChar_eq_false_of_isBlank blank] at joined
      contradiction

namespace PluginName

variable (name : PluginName)

theorem text_ne_nil : name.text ≠ [] := by
  intro isNil
  have started := name.started
  rw [isNil] at started
  contradiction

theorem not_mem {character : Char} (other : isJoinedChar character = false) :
    character ∉ name.text := by
  intro member
  rw [name.joined character member] at other
  contradiction

theorem stops_isBlank_append (rest : Text) : Stops isBlank (name.text ++ rest) := by
  cases textEq : name.text with
  | nil => exact absurd textEq name.text_ne_nil
  | cons first text =>
      exact isBlank_eq_false_of_isJoinedChar (name.joined first (by simp [textEq]))

/-- The name is read to its end. -/
theorem pluginName?_append {rest : Text} (stops : Stops isJoinedChar rest) :
    pluginName? (name.text ++ rest) = some (name.text, rest) := by
  have read : run (fun character => isNameChar character || character = ':') (name.text ++ rest) =
      (name.text, rest) := run_append name.joined stops
  have noEmpty : (name.text.splitOn ':').all (fun word => !word.isEmpty) = true := by
    rw [List.all_eq_true]
    intro word member
    simpa using name.no_empty_word word member
  rw [pluginName?, read]
  simp [name.started, name.two_words, noEmpty]

end PluginName

namespace AnyAttribute

variable (item : AnyAttribute)

/-- The key and the value of an attribute as they are printed. -/
def printPair : Text :=
  item.key ++ (item.beforeSign.text ++ ('=' :: (item.behindSign.text ++
    (item.quote :: (item.value ++ [item.quote])))))

def print : Text :=
  item.before.text ++ item.printPair

/-- The key and the value of an item. -/
def pair : Text × Text :=
  (item.key, item.value)

/-- What an item stands for in a table. -/
def entry : String × String :=
  (String.ofList item.key, String.ofList item.value)

theorem key_not_blank {character : Char} (member : character ∈ item.key) :
    isBlank character = false :=
  isBlank_eq_false_of_isNameChar (item.key_named character member)

theorem quote_not_blank : isBlank item.quote = false := by
  rcases item.isQuote with isDouble | isSingle
  · rw [isDouble]
    decide
  · rw [isSingle]
    decide

theorem quotedValue?_append (rest : Text) :
    quotedValue? (item.quote :: (item.value ++ item.quote :: rest)) = some (item.value, rest) := by
  have read : run (· ≠ item.quote) (item.value ++ item.quote :: rest) =
      (item.value, item.quote :: rest) := by
    apply run_append
    · intro character member
      have different : character ≠ item.quote := by
        rintro rfl
        exact item.quoted member
      simpa using different
    · simp
  have isQuote : (decide (item.quote = '"') || decide (item.quote = '\x27')) = true := by
    simpa using item.isQuote
  rw [quotedValue?, if_pos isQuote, read]
  simp

/-- Key and value are read to the closing quote. -/
theorem keyValue?_printPair_append (rest : Text) :
    keyValue? (item.printPair ++ rest) = some (item.pair, rest) := by
  have behindKey : Stops isNameChar (item.beforeSign.text ++ ('=' :: (item.behindSign.text ++
      (item.quote :: (item.value ++ item.quote :: rest))))) :=
    item.beforeSign.stops_append (fun _ => isNameChar_eq_false_of_isBlank)
      (stops_cons.mpr (by decide))
  have read := run_append item.key_named behindKey
  have sign : afterBlanks (item.beforeSign.text ++ ('=' :: (item.behindSign.text ++
      (item.quote :: (item.value ++ item.quote :: rest))))) =
      ['='] ++ (item.behindSign.text ++ (item.quote :: (item.value ++ item.quote :: rest))) :=
    afterBlanks_append item.beforeSign (stops_cons.mpr (by decide))
  have value : afterBlanks (item.behindSign.text ++ (item.quote :: (item.value ++ item.quote :: rest))) =
      item.quote :: (item.value ++ item.quote :: rest) :=
    afterBlanks_append item.behindSign item.quote_not_blank
  simp only [printPair, List.append_assoc, List.cons_append, List.nil_append]
  rw [keyValue?, read]
  simp [item.key_ne_nil, sign, isPrefixOf?_singleton, value, item.quotedValue?_append, pair]

theorem stops_isBlank_printPair_append (rest : Text) :
    Stops isBlank (item.printPair ++ rest) := by
  cases keyEq : item.key with
  | nil => exact absurd keyEq item.key_ne_nil
  | cons first key =>
      rw [printPair, keyEq]
      exact item.key_not_blank (by simp [keyEq])

theorem printPair_ne_nil : item.printPair ≠ [] := by
  simp [printPair, item.key_ne_nil]

end AnyAttribute

/-- There is no attribute where something other than a name follows. -/
theorem keyValue?_eq_none_of_stops {text : Text} (stops : Stops isNameChar text) :
    keyValue? text = none := by
  rw [keyValue?, run, takeWhile_eq_nil_of_stops stops]
  rfl

theorem afterAttributes_blanks_closer (limit : Nat) (blanks : Blanks) (rest : Text) :
    afterAttributes limit (blanks.text ++ (closer ++ rest)) = blanks.text ++ (closer ++ rest) := by
  cases limit with
  | zero => rfl
  | succ limit =>
      have behind : afterBlanks (blanks.text ++ (closer ++ rest)) = closer ++ rest :=
        afterBlanks_append blanks (stops_cons.mpr (by decide))
      have noPair : keyValue? (closer ++ rest) = none :=
        keyValue?_eq_none_of_stops (stops_cons.mpr (by decide))
      rw [afterAttributes, behind, noPair]
      split <;> rfl

namespace AnyAttribute

/-- Attributes as they are printed, one behind another. -/
def printAll (attributes : List AnyAttribute) : Text :=
  attributes.flatMap print

@[simp]
theorem printAll_nil : printAll [] = [] :=
  rfl

@[simp]
theorem printAll_cons (item : AnyAttribute) (rest : List AnyAttribute) :
    printAll (item :: rest) = item.before.text ++ (item.printPair ++ printAll rest) := by
  simp [printAll, print]

theorem length_le_length_printAll (attributes : List AnyAttribute) :
    attributes.length ≤ (printAll attributes).length := by
  induction attributes with
  | nil => simp
  | cons item rest ih =>
      have pairLength := List.length_pos_iff.mpr item.printPair_ne_nil
      simp only [printAll_cons, List.length_cons, List.length_append]
      omega

theorem stops_printAll_append {class_ : Char → Bool} (attributes : List AnyAttribute)
    {rest : Text} (none : ∀ character, isBlank character = true → class_ character = false)
    (stops : Stops class_ rest) : Stops class_ (printAll attributes ++ rest) := by
  cases attributes with
  | nil => exact stops
  | cons item attributes =>
      cases beforeEq : item.before.text with
      | nil => exact absurd beforeEq item.separated
      | cons first before =>
          rw [printAll_cons, beforeEq]
          exact none first (item.before.blank first (by simp [beforeEq]))

/-- All attributes are passed, and nothing else. -/
theorem afterAttributes_printAll_append {limit : Nat} {attributes : List AnyAttribute}
    (enough : attributes.length ≤ limit) (behind : Blanks) (rest : Text) :
    afterAttributes limit (printAll attributes ++ (behind.text ++ (closer ++ rest))) =
      behind.text ++ (closer ++ rest) := by
  induction attributes generalizing limit with
  | nil => exact afterAttributes_blanks_closer limit behind rest
  | cons item attributes ih =>
      obtain ⟨limit, rfl⟩ : ∃ less, limit = less + 1 :=
        ⟨limit - 1, by simp only [List.length_cons] at enough; omega⟩
      have fewer : attributes.length ≤ limit := by
        simp only [List.length_cons] at enough
        omega
      have separated : (item.before.text ++ (item.printPair ++ (printAll attributes ++
          (behind.text ++ (closer ++ rest))))).head?.any isBlank = true := by
        cases beforeEq : item.before.text with
        | nil => exact absurd beforeEq item.separated
        | cons first before => exact item.before.blank first (by simp [beforeEq])
      rw [printAll_cons, List.append_assoc, List.append_assoc, afterAttributes,
        if_pos separated, afterBlanks_append item.before (item.stops_isBlank_printPair_append _),
        item.keyValue?_printPair_append]
      exact ih fewer

/-- The attributes of a tag are found one by one. -/
theorem cut_printAll (attributes : List AnyAttribute) :
    (cut attributePair (printAll attributes)).found = attributes.map pair := by
  induction attributes with
  | nil => rfl
  | cons item attributes ih =>
      have recognised : attributePair (item.printPair ++ printAll attributes) =
          some (item.pair, item.printPair.length) := by
        rw [attributePair, item.keyValue?_printPair_append]
        simp
      have noneInBlanks : ∀ suffix, suffix ≠ [] → suffix <:+ item.before.text →
          attributePair (suffix ++ (item.printPair ++ printAll attributes)) = none := by
        intro suffix nonempty isSuffix
        cases suffix with
        | nil => contradiction
        | cons first suffix =>
            have blank := item.before.blank first (isSuffix.subset List.mem_cons_self)
            rw [attributePair, List.cons_append,
              keyValue?_eq_none_of_stops (stops_cons.mpr (isNameChar_eq_false_of_isBlank blank))]
            rfl
      rw [printAll_cons, cut_append_of_forall_none noneInBlanks,
        cut_append_of_eq_some item.printPair_ne_nil recognised, Cut.found_pushText,
        Cut.found_pushFound, ih, List.map_cons]

theorem readAttributes_printAll (attributes : List AnyAttribute) :
    readAttributes (printAll attributes) = Table.ofList (attributes.map entry) := by
  rw [readAttributes, cut_printAll, List.map_map]
  rfl

end AnyAttribute

namespace AnyTag

open AnyAttribute

variable (tag : AnyTag)

/-- What a tag has behind its two opening braces. -/
def printInside : Text :=
  tag.before.text ++ (tag.name.text ++ (printAll tag.attributes ++ (tag.behind.text ++ closer)))

def print : Text :=
  opener ++ tag.printInside

/-- The opening tag is read to its end. -/
theorem opening?_print_append (tag : AnyTag) (rest : Text) :
    opening? (tag.print ++ rest) = some (tag.name.text, printAll tag.attributes, rest) := by
  have behindName : Stops isJoinedChar (printAll tag.attributes ++
      (tag.behind.text ++ (closer ++ rest))) :=
    stops_printAll_append tag.attributes (fun _ => isJoinedChar_eq_false_of_isBlank)
      (tag.behind.stops_append (fun _ => isJoinedChar_eq_false_of_isBlank)
        (stops_cons.mpr (by decide)))
  have enough : tag.attributes.length ≤
      (printAll tag.attributes ++ (tag.behind.text ++ (closer ++ rest))).length := by
    have := length_le_length_printAll tag.attributes
    rw [List.length_append]
    omega
  have nameAhead : afterBlanks (tag.before.text ++ (tag.name.text ++ (printAll tag.attributes ++
      (tag.behind.text ++ (closer ++ rest))))) =
      tag.name.text ++ (printAll tag.attributes ++ (tag.behind.text ++ (closer ++ rest))) :=
    afterBlanks_append tag.before (tag.name.stops_isBlank_append _)
  have closerAhead : afterBlanks (tag.behind.text ++ (closer ++ rest)) = closer ++ rest :=
    afterBlanks_append tag.behind (stops_cons.mpr (by decide))
  have passed := afterAttributes_printAll_append enough tag.behind rest
  simp only [print, printInside, List.append_assoc]
  rw [opening?, isPrefixOf?_opener]
  simp only [Option.bind_eq_bind, Option.bind_some, nameAhead,
    tag.name.pluginName?_append behindName, passed, closerAhead, isPrefixOf?_append]
  simp

/-- An opening tag is read to its end, and of its attributes the last value of each
key, whatever the values are and whatever follows the tag. -/
theorem opening?_and_attributes_of_print (rest : Text) :
    opening? (tag.print ++ rest) = some (tag.name.text, printAll tag.attributes, rest) ∧
      Table.Sorted (readAttributes (printAll tag.attributes)) ∧
      ∀ key, (readAttributes (printAll tag.attributes)).lookup key =
        (tag.attributes.map entry).reverse.lookup key := by
  refine ⟨tag.opening?_print_append rest, ?_, fun key => ?_⟩
  · rw [readAttributes_printAll]
    exact Table.sorted_ofList _
  · rw [readAttributes_printAll, Table.lookup_ofList]

/-- A tag that gives two values to one key: the first holds braces and something
like an attribute, the second an equals sign, and both the other quote. -/
def oddTag : AnyTag where
  before := noBlanks
  name := ⟨"a:b".toList, by decide, by decide, by decide, by decide⟩
  attributes :=
    [{ before := ⟨['\n'], by decide⟩
       separated := by decide
       key := "k-1".toList
       key_ne_nil := by decide
       key_named := by decide
       beforeSign := ⟨['\t'], by decide⟩
       behindSign := noBlanks
       quote := '\x27'
       isQuote := .inr rfl
       value := "\x7d\x7d k-1=\"no\" \x7b\x7b".toList
       quoted := by decide },
     { before := ⟨[' ', '\t'], by decide⟩
       separated := by decide
       key := "k-1".toList
       key_ne_nil := by decide
       key_named := by decide
       beforeSign := noBlanks
       behindSign := noBlanks
       quote := '\x27'
       isQuote := .inr rfl
       value := "=\"".toList
       quoted := by decide }]
  behind := noBlanks

theorem opening?_and_attributes_of_print_odd :
    opening? "\x7b\x7ba:b\nk-1\t='\x7d\x7d k-1=\"no\" \x7b\x7b' \tk-1='=\"'\x7d\x7d x='' \x7d\x7d".toList =
        some ("a:b".toList, "\nk-1\t='\x7d\x7d k-1=\"no\" \x7b\x7b' \tk-1='=\"'".toList,
          " x='' \x7d\x7d".toList) ∧
      (readAttributes "\nk-1\t='\x7d\x7d k-1=\"no\" \x7b\x7b' \tk-1='=\"'".toList).lookup "k-1" =
        some "=\"" := by
  obtain ⟨opens, -, attributes⟩ := oddTag.opening?_and_attributes_of_print " x='' \x7d\x7d".toList
  exact ⟨opens, attributes "k-1"⟩

end AnyTag

end Tags

end ThemedViews
